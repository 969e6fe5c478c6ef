import Mathlib.Data.List.AList
import Mathlib.Tactic

namespace Barton.Registry

/-- A finite table holds at most one value for each key. -/
abbrev Table (Key Value : Type) := AList (fun _ : Key => Value)

section
variable {Key Value : Type} [DecidableEq Key]

/-- A put on a present key reports failure and leaves the table unchanged. -/
def Table.put (table : Table Key Value) (key : Key) (value : Value) : Bool × Table Key Value :=
  if key ∈ table then (false, table) else (true, AList.insert key value table)

/-- The batch erasure removes every listed key. -/
def Table.eraseAll (table : Table Key Value) : List Key → Table Key Value
  | [] => table
  | key :: rest => Table.eraseAll (AList.erase key table) rest

/-- A registration stops at the first refused entry and keeps the earlier ones. -/
def Table.register (table : Table Key Value) : List (Option (Key × Value)) → Bool × Table Key Value
  | [] => (true, table)
  | none :: _ => (false, table)
  | some (key, value) :: rest =>
      if key ∈ table then (false, table) else Table.register (AList.insert key value table) rest

@[simp] theorem Table.eraseAll_nil (table : Table Key Value) : table.eraseAll [] = table := rfl

@[simp] theorem Table.eraseAll_cons (table : Table Key Value) (key : Key) (rest : List Key) :
    table.eraseAll (key :: rest) = Table.eraseAll (AList.erase key table) rest := rfl

/-- The batch erasure clears its keys and keeps every other lookup. -/
theorem Table.lookup_eraseAll (table : Table Key Value) (keys : List Key) (key : Key) :
    (table.eraseAll keys).lookup key = if key ∈ keys then none else table.lookup key := by
  induction keys generalizing table with
  | nil => simp
  | cons first rest ih =>
      rw [Table.eraseAll_cons, ih]
      by_cases later : key ∈ rest
      · simp [later]
      · by_cases same : key = first
        · subst same
          simp [later]
        · simp [later, same, AList.lookup_erase_ne same]

/-- Erasing absent keys changes nothing. -/
theorem Table.eraseAll_of_disjoint (table : Table Key Value) (keys : List Key)
    (disjoint : ∀ key ∈ keys, key ∉ table) : table.eraseAll keys = table := by
  induction keys with
  | nil => rfl
  | cons key rest ih =>
      have absent : key ∉ table := disjoint key List.mem_cons_self
      have same : AList.erase key table = table := by
        apply AList.ext
        exact List.kerase_of_notMem_keys (AList.mem_keys.not.mp absent)
      rw [Table.eraseAll_cons, same]
      exact ih fun other member => disjoint other (List.mem_cons_of_mem _ member)

/-- A registration of two batches runs the second one after the first succeeds. -/
theorem Table.register_append (table : Table Key Value) (first second : List (Option (Key × Value))) :
    table.register (first ++ second) =
      if (table.register first).1 then (table.register first).2.register second
      else table.register first := by
  induction first generalizing table with
  | nil => rfl
  | cons entry rest ih =>
      rcases entry with _ | ⟨key, value⟩
      · rfl
      · by_cases present : key ∈ table
        · simp [Table.register, present]
        · simp [Table.register, present, ih]

/-- A registration succeeds exactly for distinct fresh keys. -/
theorem Table.register_success_iff (table : Table Key Value) (entries : List (Option (Key × Value))) :
    (table.register entries).1 = true ↔ ∃ pairs : List (Key × Value), entries = pairs.map some ∧
      (pairs.map Prod.fst).Nodup ∧ ∀ key ∈ pairs.map Prod.fst, key ∉ table := by
  induction entries generalizing table with
  | nil => simp [Table.register]
  | cons entry rest ih =>
      rcases entry with _ | ⟨key, value⟩
      · simp only [Table.register, Bool.false_eq_true, false_iff]
        intro ⟨pairs, same, _⟩
        cases pairs <;> simp at same
      · by_cases present : key ∈ table
        · simp only [Table.register, present, ↓reduceIte, Bool.false_eq_true, false_iff]
          intro ⟨pairs, same, _, fresh⟩
          cases pairs with
          | nil => simp at same
          | cons pair others =>
              simp only [List.map_cons, List.cons.injEq, Option.some.injEq] at same
              exact fresh key (by simp [← same.1]) present
        · simp only [Table.register, present, ↓reduceIte, ih]
          constructor
          · intro ⟨pairs, same, distinct, fresh⟩
            refine ⟨(key, value) :: pairs, by rw [same]; rfl, ?_, ?_⟩
            · rw [List.map_cons, List.nodup_cons]
              exact ⟨fun member => fresh key member ((AList.mem_insert _).mpr (Or.inl rfl)), distinct⟩
            · rw [List.map_cons, List.forall_mem_cons]
              exact ⟨present, fun other member inside =>
                fresh other member ((AList.mem_insert _).mpr (Or.inr inside))⟩
          · intro ⟨pairs, same, distinct, fresh⟩
            cases pairs with
            | nil => simp at same
            | cons pair others =>
                simp only [List.map_cons, List.cons.injEq, Option.some.injEq] at same
                rw [List.map_cons, List.nodup_cons] at distinct
                rw [List.map_cons, List.forall_mem_cons] at fresh
                refine ⟨others, same.2, distinct.2, ?_⟩
                intro other member inside
                rcases (AList.mem_insert _).mp inside with equal | old
                · rw [← same.1] at distinct
                  exact distinct.1 (equal ▸ member)
                · exact fresh.2 other member old

/-- A refused single entry leaves the table itself. -/
theorem Table.register_singleton_refused (table : Table Key Value) (entry : Option (Key × Value))
    (refused : (table.register [entry]).1 = false) : (table.register [entry]).2 = table := by
  rcases entry with _ | ⟨key, value⟩
  · rfl
  · by_cases present : key ∈ table
    · simp [Table.register, present]
    · simp [Table.register, present] at refused

/-- A registration changes only the keys before its first missing entry. -/
theorem Table.lookup_register_of_notMem (table : Table Key Value)
    (entries : List (Option (Key × Value))) (key : Key)
    (absent : ∀ value, some (key, value) ∉ entries.takeWhile Option.isSome) :
    (table.register entries).2.lookup key = table.lookup key := by
  induction entries generalizing table with
  | nil => rfl
  | cons entry rest ih =>
      rcases entry with _ | ⟨first, value⟩
      · rfl
      · rw [List.takeWhile_cons_of_pos rfl] at absent
        have later : ∀ value, some (key, value) ∉ rest.takeWhile Option.isSome := fun value member =>
          absent value (List.mem_cons_of_mem _ member)
        have different : key ≠ first := by
          intro same
          subst same
          exact absent value List.mem_cons_self
        by_cases present : first ∈ table
        · simp [Table.register, present]
        · simp only [Table.register, present, ↓reduceIte]
          rw [ih _ later, AList.lookup_insert_ne different]

/-- A key that was present keeps its value through a registration. -/
theorem Table.lookup_register_of_mem (table : Table Key Value)
    (entries : List (Option (Key × Value))) (key : Key) (present : key ∈ table) :
    (table.register entries).2.lookup key = table.lookup key := by
  induction entries generalizing table with
  | nil => rfl
  | cons entry rest ih =>
      rcases entry with _ | ⟨first, value⟩
      · rfl
      · by_cases refused : first ∈ table
        · simp [Table.register, refused]
        · have different : key ≠ first := fun same => refused (same ▸ present)
          simp only [Table.register, refused, ↓reduceIte]
          rw [ih _ ((AList.mem_insert _).mpr (Or.inr present)), AList.lookup_insert_ne different]

/-- A registration is undone by the erasure of fresh keys that cover its entries. -/
theorem Table.lookup_register_eraseAll (table : Table Key Value)
    (entries : List (Option (Key × Value))) (keys : List Key)
    (fresh : ∀ key ∈ keys, key ∉ table)
    (covered : ∀ key value, some (key, value) ∈ entries.takeWhile Option.isSome → key ∈ keys)
    (key : Key) : ((table.register entries).2.eraseAll keys).lookup key = table.lookup key := by
  rw [Table.lookup_eraseAll]
  by_cases inside : key ∈ keys
  · rw [if_pos inside, AList.lookup_eq_none.mpr (fresh key inside)]
  · rw [if_neg inside]
    exact table.lookup_register_of_notMem entries key fun value member =>
      inside (covered key value member)

/-- Every entry of the table has the property. -/
def Table.Satisfies (table : Table Key Value) (property : Key → Value → Prop) : Prop :=
  ∀ key value, table.lookup key = some value → property key value

theorem Table.Satisfies.empty (property : Key → Value → Prop) : Table.Satisfies (∅ : Table Key Value) property := by
  intro key value found
  rw [AList.lookup_empty] at found
  cases found

theorem Table.Satisfies.eraseAll {table : Table Key Value} {property : Key → Value → Prop}
    (satisfies : table.Satisfies property) (keys : List Key) : (table.eraseAll keys).Satisfies property := by
  intro key value found
  rw [Table.lookup_eraseAll] at found
  by_cases erased : key ∈ keys
  · rw [if_pos erased] at found
    cases found
  · rw [if_neg erased] at found
    exact satisfies key value found

theorem Table.Satisfies.erase {table : Table Key Value} {property : Key → Value → Prop}
    (satisfies : table.Satisfies property) (key : Key) :
    Table.Satisfies (AList.erase key table) property :=
  satisfies.eraseAll [key]

/-- A registration of entries with the property keeps it. -/
theorem Table.Satisfies.register {table : Table Key Value} {property : Key → Value → Prop}
    (satisfies : table.Satisfies property) (entries : List (Option (Key × Value)))
    (each : ∀ key value, some (key, value) ∈ entries → property key value) :
    (table.register entries).2.Satisfies property := by
  induction entries generalizing table with
  | nil => exact satisfies
  | cons entry rest ih =>
      rcases entry with _ | ⟨first, value⟩
      · exact satisfies
      · by_cases present : first ∈ table
        · simpa [Table.register, present] using satisfies
        · rw [Table.register, if_neg present]
          apply ih
          · intro key other found
            by_cases same : key = first
            · subst same
              rw [AList.lookup_insert, Option.some.injEq] at found
              subst found
              exact each key value List.mem_cons_self
            · rw [AList.lookup_insert_ne same] at found
              exact satisfies key other found
          · exact fun key other member => each key other (List.mem_cons_of_mem _ member)

end

/-- The table holds exactly the listed items, each under its own key. -/
structure Exact {Key Value : Type} [DecidableEq Key] (table : Table Key Value)
    (items : List (Option Key × Value)) : Prop where
  keyed : ∀ item ∈ items, item.1 ≠ none
  distinct : (items.map Prod.fst).Nodup
  found : ∀ key value, table.lookup key = some value ↔ (some key, value) ∈ items

namespace Exact
variable {Key Value : Type} [DecidableEq Key]
  {table : Table Key Value} {items other : List (Option Key × Value)}

/-- The empty table is exact for no items. -/
theorem empty : Exact (∅ : Table Key Value) [] where
  keyed := by simp
  distinct := by simp
  found := by simp

/-- Only the lookups of the table matter. -/
theorem of_lookup {after : Table Key Value} (exact : Exact table items)
    (same : ∀ key, after.lookup key = table.lookup key) : Exact after items where
  keyed := exact.keyed
  distinct := exact.distinct
  found := fun key value => by rw [same, exact.found]

/-- The order of the items does not matter. -/
theorem of_perm (exact : Exact table items) (same : items.Perm other) : Exact table other where
  keyed := fun item member => exact.keyed item (same.mem_iff.mpr member)
  distinct := (same.map Prod.fst).nodup_iff.mp exact.distinct
  found := fun key value => (exact.found key value).trans same.mem_iff

theorem mem_iff (exact : Exact table items) (key : Key) : key ∈ table ↔ some key ∈ items.map Prod.fst := by
  rw [← AList.lookup_isSome, Option.isSome_iff_exists]
  constructor
  · rintro ⟨value, held⟩
    exact List.mem_map_of_mem (f := Prod.fst) ((exact.found key value).mp held)
  · intro member
    obtain ⟨⟨itemKey, value⟩, inside, same⟩ := List.mem_map.mp member
    change itemKey = some key at same
    subst same
    exact ⟨value, (exact.found key value).mpr inside⟩

/-- A fresh insertion adds one item. -/
theorem insert (exact : Exact table items) (key : Key) (value : Value) (fresh : key ∉ table) :
    Exact (AList.insert key value table) ((some key, value) :: items) where
  keyed := by
    intro item member
    rcases List.mem_cons.mp member with rfl | inside
    · simp
    · exact exact.keyed item inside
  distinct := by
    rw [List.map_cons, List.nodup_cons]
    exact ⟨fun member => fresh ((exact.mem_iff key).mpr member), exact.distinct⟩
  found := by
    intro query answer
    by_cases same : query = key
    · subst same
      have absent : (some query, answer) ∉ items := fun member =>
        fresh ((exact.mem_iff query).mpr (List.mem_map_of_mem (f := Prod.fst) member))
      simp [AList.lookup_insert, absent, eq_comm]
    · rw [AList.lookup_insert_ne same, exact.found]
      simp [same]

/-- An erasure removes the one item of its key. -/
theorem erase (key : Key) (value : Value) (exact : Exact table ((some key, value) :: items)) :
    Exact (AList.erase key table) items where
  keyed := fun item member => exact.keyed item (List.mem_cons_of_mem _ member)
  distinct := (List.nodup_cons.mp exact.distinct).2
  found := by
    intro query answer
    have absent := (List.nodup_cons.mp exact.distinct).1
    by_cases same : query = key
    · subst same
      have missing : (some query, answer) ∉ items := fun member =>
        absent (List.mem_map.mpr ⟨_, member, rfl⟩)
      simp [missing]
    · rw [AList.lookup_erase_ne same, exact.found]
      simp [same]

/-- A batch erasure removes the items that own its keys. -/
theorem eraseAll (removed : List (Key × Value))
    (exact : Exact table (removed.map (fun item => (some item.1, item.2)) ++ items)) :
    Exact (table.eraseAll (removed.map Prod.fst)) items := by
  induction removed generalizing table with
  | nil => exact exact
  | cons item rest ih => exact ih (exact.erase item.1 item.2)

/-- A registration that succeeds adds every one of its entries. -/
theorem register (exact : Exact table items) (entries : List (Option (Key × Value)))
    (success : (table.register entries).1 = true) :
    ∃ added : List (Key × Value), entries = added.map some ∧
      Exact (table.register entries).2 (added.map (fun item => (some item.1, item.2)) ++ items) := by
  induction entries generalizing table items with
  | nil => exact ⟨[], rfl, exact⟩
  | cons entry rest ih =>
      rcases entry with _ | ⟨key, value⟩
      · simp [Table.register] at success
      · by_cases present : key ∈ table
        · simp [Table.register, present] at success
        · simp only [Table.register, present, ↓reduceIte] at success ⊢
          obtain ⟨added, same, after⟩ := ih (exact.insert key value present) success
          refine ⟨(key, value) :: added, by rw [same]; rfl, after.of_perm ?_⟩
          exact List.perm_middle

end Exact

end Barton.Registry
