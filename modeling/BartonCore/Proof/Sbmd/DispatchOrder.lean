import BartonCore.Proof.Sbmd.Dispatch

namespace Barton.Dispatch
open Tlv Buckets

section Scan

/-- A handler lists a known alias, beside its other aliases. -/
structure Occurrence where
  handler : Nat
  aliasCount : Nat
  found : SbmdAlias

/-- The pairs of a handler and a known alias in the order of the declarations. -/
def occurrences (aliases : Aliases) (handlers : List SbmdDeviceHandler) : List Occurrence :=
  handlers.zipIdx.flatMap fun indexed => indexed.1.aliases.filterMap fun name =>
    (aliases name).map fun found => ⟨indexed.2, indexed.1.aliases.length, found⟩

def SbmdAlias.Exactly (found : SbmdAlias) (clusterId elementId : BitVec 32) : Prop :=
  found.clusterId = clusterId ∧ found.elementId = some elementId

def SbmdAlias.Everywhere (found : SbmdAlias) (clusterId : BitVec 32) : Prop :=
  found.clusterId = clusterId ∧ found.elementId = none

instance (found : SbmdAlias) (clusterId elementId : BitVec 32) : Decidable (found.Exactly clusterId elementId) :=
  inferInstanceAs (Decidable (_ ∧ _))

instance (found : SbmdAlias) (clusterId : BitVec 32) : Decidable (found.Everywhere clusterId) :=
  inferInstanceAs (Decidable (_ ∧ _))

/-- The scan takes the exact matches of handlers with one alias, then those of handlers with several aliases, and
then the wildcards. -/
def scan (listed : List Occurrence) (clusterId elementId : BitVec 32) : List DispatchEntry :=
  ((listed.filter fun pair => pair.aliasCount = 1 ∧ pair.found.Exactly clusterId elementId).map
    fun pair => ⟨pair.handler, .single⟩) ++
  ((listed.filter fun pair => 1 < pair.aliasCount ∧ pair.found.Exactly clusterId elementId).map
    fun pair => ⟨pair.handler, .multi⟩) ++
  (listed.filter fun pair => pair.found.Everywhere clusterId).map fun pair => ⟨pair.handler, .wildcard⟩

end Scan

section Sorting

/-- An element that comes before all others is inserted first. -/
theorem orderedInsert_first {Value : Type} {before : Value → Value → Prop} [DecidableRel before] {value : Value}
    {values : List Value} (first : ∀ other ∈ values, before value other) :
    values.orderedInsert before value = value :: values := by
  cases values with
  | nil => rfl
  | cons other rest => rw [List.orderedInsert_cons, if_pos (first other List.mem_cons_self)]

/-- An element that comes before none of the front is inserted behind the front. -/
theorem orderedInsert_append {Value : Type} {before : Value → Value → Prop} [DecidableRel before] {value : Value}
    {front : List Value} (later : ∀ other ∈ front, ¬before value other) (back : List Value) :
    (front ++ back).orderedInsert before value = front ++ back.orderedInsert before value := by
  induction front with
  | nil => rfl
  | cons other rest ih =>
      rw [List.cons_append, List.orderedInsert_cons, if_neg (later other List.mem_cons_self),
        ih fun another member => later another (List.mem_cons_of_mem _ member)]
      rfl

/-- The sort moves the entries of single handlers to the front and keeps the order otherwise. -/
theorem sortEntries_eq {entries : List DispatchEntry} (ranked : ∀ entry ∈ entries, entry.priority ≠ .wildcard) :
    sortEntries entries = (entries.filter fun entry => entry.priority = .single) ++
      entries.filter fun entry => entry.priority = .multi := by
  induction entries with
  | nil => rfl
  | cons entry rest ih =>
      have later := ih fun other member => ranked other (List.mem_cons_of_mem _ member)
      unfold sortEntries at later ⊢
      rw [List.insertionSort_cons, later]
      cases priority : entry.priority with
      | wildcard => exact absurd priority (ranked entry List.mem_cons_self)
      | single =>
          rw [List.filter_cons_of_pos (by simpa using priority), List.filter_cons_of_neg (by simp [priority]),
            orderedInsert_first]
          · rfl
          · intro other _
            simp [priority, HandlerPriority.rank]
      | multi =>
          rw [List.filter_cons_of_neg (by simp [priority]), List.filter_cons_of_pos (by simpa using priority),
            orderedInsert_append, orderedInsert_first]
          · intro other member
            have same := of_decide_eq_true (List.mem_filter.mp member).2
            simp [priority, same, HandlerPriority.rank]
          · intro other member
            have same := of_decide_eq_true (List.mem_filter.mp member).2
            simp [priority, same, HandlerPriority.rank]

end Sorting

section Lookups
variable (aliases : Aliases) (handlers : List SbmdDeviceHandler)

/-- The loops see the same pairs. -/
theorem resolved_eq : resolved aliases handlers.zipIdx = (occurrences aliases handlers).map fun pair =>
    (pair.found, ⟨pair.handler, if pair.aliasCount = 1 then .single else .multi⟩) := by
  unfold resolved occurrences
  rw [List.map_flatMap]
  congr 1
  funext indexed
  rw [List.map_filterMap]
  congr 1
  funext name
  rw [Option.map_map]
  rfl

/-- A handler that lists an alias has at least one. -/
theorem aliasCount_pos {pair : Occurrence} (listed : pair ∈ occurrences aliases handlers) : 0 < pair.aliasCount := by
  obtain ⟨indexed, -, inside⟩ := List.mem_flatMap.mp listed
  obtain ⟨name, member, found⟩ := List.mem_filterMap.mp inside
  obtain ⟨_, -, rfl⟩ := Option.map_eq_some_iff.mp found
  exact List.length_pos_of_mem member

/-- The exact matches carry the priority of their handler. -/
theorem map_filter_resolved (clusterId elementId : BitVec 32) (listed : List Occurrence) :
    ((listed.map fun pair =>
        (pair.found, (⟨pair.handler, if pair.aliasCount = 1 then .single else .multi⟩ : DispatchEntry))).filter fun pair =>
          pair.1.clusterId = clusterId ∧ pair.1.elementId = some elementId).map Prod.snd =
      (listed.filter fun pair => pair.found.Exactly clusterId elementId).map fun pair =>
        ⟨pair.handler, if pair.aliasCount = 1 then .single else .multi⟩ := by
  rw [List.filter_map, List.map_map]
  rfl

/-- The entries of one priority come from the handlers with this priority. -/
theorem filter_priority (priority : HandlerPriority) (listed : List Occurrence) :
    (listed.map fun pair => (⟨pair.handler, if pair.aliasCount = 1 then .single else .multi⟩ : DispatchEntry)).filter
        (fun entry => entry.priority = priority) =
      (listed.filter fun pair => (if pair.aliasCount = 1 then HandlerPriority.single else .multi) = priority).map
        fun pair => ⟨pair.handler, priority⟩ := by
  rw [List.filter_map]
  apply List.map_congr_left
  intro pair member
  have same := of_decide_eq_true (List.mem_filter.mp member).2
  dsimp only at same
  rw [same]

/-- A lookup is the scan of the declarations. -/
theorem lookup_eq_scan (clusterId elementId : BitVec 32) :
    lookup (build aliases handlers) clusterId elementId = scan (occurrences aliases handlers) clusterId elementId := by
  rw [lookup_build, resolved_eq, map_filter_resolved, sortEntries_eq, filter_priority, filter_priority,
    List.filter_filter, List.filter_filter]
  · unfold scan
    congr 1
    · congr 1
      · congr 1
        apply List.filter_congr
        intro pair _
        by_cases alone : pair.aliasCount = 1
        · simp [alone]
        · simp [alone]
      · congr 1
        apply List.filter_congr
        intro pair member
        have positive := aliasCount_pos aliases handlers member
        by_cases alone : pair.aliasCount = 1
        · simp [alone]
        · simp [alone, show 1 < pair.aliasCount by omega]
    · rw [List.filter_map, List.map_map]
      rfl
  · intro entry member
    obtain ⟨pair, -, rfl⟩ := List.mem_map.mp member
    dsimp only
    split <;> decide

end Lookups

section Clusters
variable (aliases : Aliases) (handlers : List SbmdDeviceHandler)

theorem full_fileResolved {table : SbmdDispatchTable} (full : Full table.specificTable ∧ Full table.wildcardTable)
    (pair : SbmdAlias × DispatchEntry) :
    Full (fileResolved table pair).specificTable ∧ Full (fileResolved table pair).wildcardTable := by
  unfold fileResolved
  cases pair.1.elementId with
  | none => exact ⟨full.1, full.2.pushBack _ _⟩
  | some elementId => exact ⟨full.1.pushBack _ _, full.2⟩

theorem full_build : Full (build aliases handlers).specificTable ∧ Full (build aliases handlers).wildcardTable := by
  unfold build
  rw [foldl_fileHandler]
  have filed (pairs : List (SbmdAlias × DispatchEntry)) : ∀ table : SbmdDispatchTable,
      Full table.specificTable ∧ Full table.wildcardTable →
      Full (pairs.foldl fileResolved table).specificTable ∧ Full (pairs.foldl fileResolved table).wildcardTable := by
    induction pairs with
    | nil => exact fun _ full => full
    | cons pair rest ih => exact fun table full => ih _ (full_fileResolved full pair)
  obtain ⟨specific, wildcard⟩ := filed (resolved aliases handlers.zipIdx) .empty ⟨.nil, .nil⟩
  refine ⟨specific.mapBuckets ?_, wildcard⟩
  intro entries nonempty empty
  apply nonempty
  have length := List.length_insertionSort
    (fun first second : DispatchEntry => first.priority.rank ≤ second.priority.rank) entries
  unfold sortEntries at empty
  rw [empty] at length
  exact List.length_eq_zero_iff.mp length.symm

theorem lookup_ne_nil_iff (clusterId elementId : BitVec 32) :
    lookup (build aliases handlers) clusterId elementId ≠ [] ↔
      ⟨clusterId, elementId⟩ ∈ (build aliases handlers).specificTable.map Prod.fst ∨
        clusterId ∈ (build aliases handlers).wildcardTable.map Prod.fst := by
  obtain ⟨specific, wildcard⟩ := full_build aliases handlers
  rw [← specific.bucket_ne_nil_iff, ← wildcard.bucket_ne_nil_iff, lookup, ← not_and_or, ← List.append_eq_nil_iff]

/-- The registered clusters are those for which some lookup returns a handler. -/
theorem mem_getRegisteredClusterIds (clusterId : BitVec 32) :
    clusterId ∈ getRegisteredClusterIds (build aliases handlers) ↔
      ∃ elementId, lookup (build aliases handlers) clusterId elementId ≠ [] := by
  simp only [getRegisteredClusterIds, Finset.mem_union, List.mem_toFinset, lookup_ne_nil_iff]
  constructor
  · rintro (specific | wildcard)
    · obtain ⟨⟨key, entries⟩, member, rfl⟩ := List.mem_map.mp specific
      exact ⟨key.elementId, .inl (List.mem_map_of_mem member)⟩
    · exact ⟨0, .inr wildcard⟩
  · rintro ⟨elementId, specific | wildcard⟩
    · obtain ⟨⟨key, entries⟩, member, same⟩ := List.mem_map.mp specific
      dsimp only at same
      subst same
      exact .inl (List.mem_map.mpr ⟨_, member, rfl⟩)
    · exact .inr wildcard

end Clusters

/-- The table returns what a scan of the declarations returns, and registers the clusters that some scan finds. -/
theorem dispatch_refines (aliases : Aliases) (handlers : List SbmdDeviceHandler) :
    (∀ clusterId elementId, lookup (build aliases handlers) clusterId elementId =
      scan (occurrences aliases handlers) clusterId elementId) ∧
    ∀ clusterId, clusterId ∈ getRegisteredClusterIds (build aliases handlers) ↔
      ∃ elementId, lookup (build aliases handlers) clusterId elementId ≠ [] :=
  ⟨lookup_eq_scan aliases handlers, mem_getRegisteredClusterIds aliases handlers⟩

end Barton.Dispatch
