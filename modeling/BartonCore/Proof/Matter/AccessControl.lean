import BartonCore.Proof.Matter.AccessDeletion

namespace Barton.AccessControl

/-- Each iterator has a delegate to itself, which stands where the iterator is in the list. -/
structure Visited (config : Config) (state : State) (stamps : List Nat) (cursors : Nat → Option Cursor) : Prop where
  empty : ∀ iterator, state.iterators iterator = none → cursors iterator = none
  live : ∀ iterator delegate, state.iterators iterator = some delegate →
    delegate < config.entryIteratorDelegatePoolSize ∧ (state.iteratorDelegates delegate).inUse = true ∧
    ∃ pending, cursors iterator = some ⟨(state.iteratorDelegates delegate).fabric, pending⟩ ∧
      Stands config stamps (state.iteratorDelegates delegate).storage pending
  apart : ∀ first second delegate, state.iterators first = some delegate →
    state.iterators second = some delegate → first = second

structure Represents (config : Config) (state : State) (list : AccessList) : Prop where
  stored : Stored config state.acl list.entries
  distinct : list.stamps.Nodup
  below : ∀ stamp ∈ list.stamps, stamp < list.fresh
  held : Held config state (fun _ position => list.stamps[position]?) list.handles
  visited : Visited config state list.stamps list.cursors

/-- The call has an outcome that the list allows. -/
def Simulated (config : Config) (state : State) (list : AccessList) (call : Call) : Prop :=
  ∃ outcome next after, perform config state call = some (outcome, next) ∧
    Allowed config list outcome after call ∧ Represents config next after

section Visited
variable {config : Config} {state next : State} {stamps : List Nat} {cursors : Nat → Option Cursor}

theorem Visited.of_same (visited : Visited config state stamps cursors)
    (iteratorDelegates : next.iteratorDelegates = state.iteratorDelegates)
    (iterators : next.iterators = state.iterators) : Visited config next stamps cursors := by
  obtain ⟨empty, live, apart⟩ := visited
  constructor
  · rwa [iterators]
  · rwa [iterators, iteratorDelegates]
  · rwa [iterators]

/-- An iterator gets a delegate, which is its own or unused, and it stands somewhere. -/
theorem Visited.assign (visited : Visited config state stamps cursors) {iterator delegate : Nat}
    {fabric : Option UInt8} {storage : Option Nat} {pending : Option (List Nat)}
    (inside : delegate < config.entryIteratorDelegatePoolSize)
    (available : state.iterators iterator = some delegate ∨ (state.iteratorDelegates delegate).inUse = false)
    (iterators : next.iterators = Function.update state.iterators iterator (some delegate))
    (chosen : next.iteratorDelegates delegate = ⟨true, fabric, storage⟩)
    (others : ∀ one, one ≠ delegate → state.iterators iterator ≠ some one →
      next.iteratorDelegates one = state.iteratorDelegates one)
    (stands : Stands config stamps storage pending) :
    Visited config next stamps (Function.update cursors iterator (some ⟨fabric, pending⟩)) := by
  -- No other iterator holds the delegate.
  have single (one : Nat) (different : one ≠ iterator) : state.iterators one ≠ some delegate := by
    intro same
    rcases available with mine | free
    · exact different (visited.apart one iterator delegate same mine)
    · exact absurd (free.symm.trans (visited.live one delegate same).2.1) Bool.false_ne_true
  constructor
  · intro one absent
    rw [iterators] at absent
    by_cases same : one = iterator
    · rw [same, Function.update_self] at absent
      exact absurd absent (Option.some_ne_none _)
    · rw [Function.update_of_ne same] at absent ⊢
      exact visited.empty one absent
  · intro one found present
    rw [iterators] at present
    by_cases same : one = iterator
    · rw [same, Function.update_self, Option.some.injEq] at present
      rw [same, Function.update_self, ← present, chosen]
      exact ⟨inside, rfl, pending, rfl, stands⟩
    · rw [Function.update_of_ne same] at present ⊢
      have different : found ≠ delegate := fun equal => single one same (equal ▸ present)
      rw [others found different fun mine => same (visited.apart one iterator found present mine)]
      exact visited.live one found present
  · intro first second found left right
    rw [iterators] at left right
    by_cases one : first = iterator
    · by_cases two : second = iterator
      · rw [one, two]
      · rw [one, Function.update_self, Option.some.injEq] at left
        rw [Function.update_of_ne two, ← left] at right
        exact absurd right (single second two)
    · rw [Function.update_of_ne one] at left
      by_cases two : second = iterator
      · rw [two, Function.update_self, Option.some.injEq] at right
        rw [← right] at left
        exact absurd left (single first one)
      · rw [Function.update_of_ne two] at right
        exact visited.apart first second found left right

/-- An iterator loses its delegate. -/
theorem Visited.drop (visited : Visited config state stamps cursors) {iterator : Nat}
    (iterators : next.iterators = Function.update state.iterators iterator none)
    (others : ∀ one, state.iterators iterator ≠ some one →
      next.iteratorDelegates one = state.iteratorDelegates one) :
    Visited config next stamps (Function.update cursors iterator none) := by
  have kept (one found : Nat) (present : next.iterators one = some found) :
      one ≠ iterator ∧ state.iterators one = some found := by
    rw [iterators] at present
    by_cases same : one = iterator
    · rw [same, Function.update_self] at present
      exact absurd present.symm (Option.some_ne_none _)
    · rw [Function.update_of_ne same] at present
      exact ⟨same, present⟩
  constructor
  · intro one absent
    by_cases same : one = iterator
    · rw [same, Function.update_self]
    · rw [iterators, Function.update_of_ne same] at absent
      rw [Function.update_of_ne same]
      exact visited.empty one absent
  · intro one found present
    obtain ⟨different, old⟩ := kept one found present
    rw [Function.update_of_ne different,
      others found fun mine => different (visited.apart one iterator found old mine)]
    exact visited.live one found old
  · intro first second found left right
    exact visited.apart first second found (kept first found left).2 (kept second found right).2

end Visited

section Represents
variable {config : Config} {state : State} {list : AccessList}

theorem Represents.init (config : Config) : Represents config (State.init config) AccessList.empty where
  stored := Stored.init config
  distinct := List.nodup_nil
  below := fun _ member => absurd member List.not_mem_nil
  held := Held.init config _
  visited := ⟨fun _ _ => rfl, fun _ _ found => absurd found.symm (Option.some_ne_none _),
    fun _ _ _ found => absurd found.symm (Option.some_ne_none _)⟩

/-- The array holds the content of each listed entry. -/
theorem Represents.backed (represents : Represents config state list) (delegate : Nat) :
    Backed state.acl ((fun _ position => list.stamps[position]?) delegate) list.content := by
  intro index stamp listed
  have named : list.stamps[index]? = some stamp := listed
  rw [AccessList.stamps_getElem?] at named
  obtain ⟨entry, held, rfl⟩ := Option.map_eq_some_iff.mp named
  refine ⟨entry.2, AccessList.content_at represents.distinct held, ?_⟩
  have stored := represents.stored.getElem? index
  rw [held, Option.map_some] at stored
  exact (Option.filter_eq_some_iff.mp stored).1

/-- A call that changes handles only keeps the array and the iterators. -/
theorem Represents.handles (represents : Represents config state list) {next : State} {after : Nat → Denotation}
    (same : SameArray state next)
    (held : Held config next (fun _ position => list.stamps[position]?) after) :
    Represents config next { list with handles := after } where
  stored := same.acl ▸ represents.stored
  distinct := represents.distinct
  below := represents.below
  held := held
  visited := represents.visited.of_same same.iteratorDelegates same.iterators

theorem Represents.copy (represents : Represents config state list) (entry : Nat) (outside : Option Content) :
    copy state entry outside = some ((list.given entry outside).map fun content => ⟨true, content⟩) :=
  represents.held.copy represents.backed entry outside

theorem Represents.prepareEntry (represents : Represents config state list) (entry : Nat) :
    Simulated config state list (.prepareEntry entry) := by
  unfold Simulated perform Allowed
  dsimp only
  unfold AccessControl.prepareEntry
  cases chosen : findDelegate config state entry with
  | none => exact ⟨_, state, list, rfl, .inl ⟨rfl, rfl⟩, represents⟩
  | some delegate =>
      dsimp only
      cases found : findStorage config state (state.delegates delegate).storage with
      | none => exact ⟨_, state, list, rfl, .inl ⟨rfl, rfl⟩, represents⟩
      | some storage =>
          obtain ⟨next, stepped, same, held⟩ := represents.held.initDelegate_pool chosen found
          dsimp only
          rw [stepped]
          exact ⟨_, next, _, rfl, .inr ⟨rfl, rfl⟩, represents.handles same held⟩

theorem Represents.setField (represents : Represents config state list) (entry : Nat)
    (change : Content → Content) : Simulated config state list (.setField entry change) := by
  obtain ⟨outcome, next, after, stepped, same, held, denoted⟩ :=
    represents.held.setField represents.backed entry change
  refine ⟨outcome, next, { list with handles := after }, stepped, ?_, represents.handles same held⟩
  rcases denoted with ⟨full, kept⟩ | changed
  · exact .inl ⟨full, by rw [kept]⟩
  · right
    unfold AccessList.given
    cases given : (list.handles entry).given list.content none with
    | none =>
        rw [given] at changed
        exact ⟨changed.1, by rw [changed.2]⟩
    | some content =>
        rw [given] at changed
        exact ⟨changed.1, by rw [changed.2]; rfl⟩

theorem Represents.append (represents : Represents config state list)
    (room : list.entries.length < config.maxEntries) (content : Content) :
    Represents config { state with acl := state.acl.set list.entries.length ⟨true, content⟩ }
      (list.append content) := by
  have grown : (list.append content).stamps = list.stamps ++ [list.fresh] := List.map_append
  constructor
  · exact (represents.stored.append room list.fresh content).1
  · refine Cells.nodup_append_fresh represents.distinct ?_
    intro other member
    exact Nat.ne_of_lt (represents.below other.1 (List.mem_map_of_mem member))
  · rw [grown]
    intro stamp member
    rcases List.mem_append.mp member with old | new
    · exact Nat.lt_succ_of_lt (represents.below stamp old)
    · rw [List.mem_singleton.mp new]
      exact Nat.lt_succ_self _
  · rw [grown]
    refine (represents.held.retable ?_).of_same rfl rfl rfl
    intro _ index stamp _ listed
    exact (List.getElem?_append_left (List.getElem?_eq_some_iff.mp listed).1).trans listed
  · rw [grown]
    obtain ⟨empty, live, apart⟩ := represents.visited
    refine ⟨?_, ?_, apart⟩
    · intro iterator absent
      exact congrArg (Option.map _) (empty iterator absent)
    · intro iterator delegate present
      obtain ⟨inside, busy, pending, cursor, stands⟩ := live iterator delegate present
      exact ⟨inside, busy, _, congrArg (Option.map _) cursor, stands.append list.fresh⟩

theorem Represents.createEntry (represents : Represents config state list) (entry : Nat)
    (outside : Option Content) (relative : Bool) :
    Simulated config state list (.createEntry entry outside relative) := by
  unfold Simulated perform Allowed
  dsimp only
  unfold AccessControl.createEntry
  rw [represents.stored.findUnused]
  by_cases full : config.maxEntries ≤ list.entries.length
  · rw [if_pos full]
    exact ⟨_, state, list, rfl, by rw [if_pos full]; exact ⟨rfl, rfl⟩, represents⟩
  · rw [if_neg full]
    dsimp only
    rw [represents.copy]
    cases given : list.given entry outside with
    | none => exact ⟨_, state, list, rfl, by rw [if_neg full]; exact ⟨rfl, rfl⟩, represents⟩
    | some content =>
        have room := Nat.lt_of_not_le full
        refine ⟨_, _, _, rfl, ?_, represents.append room content⟩
        rw [if_neg full]
        refine ⟨?_, rfl⟩
        have converted := (represents.stored.append room list.fresh content).2
        unfold AccessList.created AccessList.ofFabric
        rw [← converted]

theorem Represents.readEntry (represents : Represents config state list) (index entry : Nat)
    (fabric : Option UInt8) : Simulated config state list (.readEntry index entry fabric) := by
  unfold Simulated perform Allowed
  dsimp only
  unfold AccessControl.readEntry
  have lookup := findUsedInAcl_cases represents.stored index fabric
  cases found : findUsedInAcl state.acl index fabric with
  | none =>
      rw [found] at lookup
      exact ⟨_, state, list, rfl, by rw [lookup]; exact ⟨rfl, rfl⟩, represents⟩
  | some position =>
      rw [found] at lookup
      obtain ⟨_, _, listed, held, named⟩ := lookup
      rw [named]
      dsimp only
      cases chosen : findDelegate config state entry with
      | none => exact ⟨_, state, list, rfl, .inl ⟨rfl, rfl⟩, represents⟩
      | some delegate =>
          have stamp : list.stamps[position]? = some listed.1 := by
            rw [AccessList.stamps_getElem?, held, Option.map_some]
          obtain ⟨content, _, stored⟩ := represents.backed delegate position listed.1 stamp
          obtain ⟨next, stepped, same, kept⟩ := represents.held.initDelegate_acl chosen stored rfl stamp
          dsimp only
          rw [stepped]
          exact ⟨_, next, _, rfl, .inr ⟨rfl, rfl⟩, represents.handles same kept⟩

theorem Represents.updateEntry (represents : Represents config state list) (index entry : Nat)
    (outside : Option Content) (fabric : Option UInt8) :
    Simulated config state list (.updateEntry index entry outside fabric) := by
  unfold Simulated perform Allowed
  dsimp only
  unfold AccessControl.updateEntry
  have lookup := findUsedInAcl_cases represents.stored index fabric
  cases found : findUsedInAcl state.acl index fabric with
  | none =>
      rw [found] at lookup
      exact ⟨_, state, list, rfl, by rw [lookup]; exact ⟨rfl, rfl⟩, represents⟩
  | some position =>
      rw [found] at lookup
      obtain ⟨_, _, listed, held, named⟩ := lookup
      rw [named, represents.copy]
      cases given : list.given entry outside with
      | none => exact ⟨_, state, list, rfl, ⟨rfl, rfl⟩, represents⟩
      | some content =>
          refine ⟨_, _, list.replace listed.1 content, rfl, ⟨rfl, rfl⟩, ?_⟩
          have stamps : (list.replace listed.1 content).stamps = list.stamps :=
            Cells.map_write Prod.fst _ fun _ _ same => same.symm
          have entries : (list.replace listed.1 content).entries = list.entries.set position (listed.1, content) :=
            Cells.write_at _ represents.distinct held
          constructor
          · rw [entries]
            exact represents.stored.replace (List.getElem?_eq_some_iff.mp held).1 (listed.1, content)
          · rw [stamps]
            exact represents.distinct
          · rw [stamps]
            exact represents.below
          · rw [stamps]
            exact represents.held.of_same rfl rfl rfl
          · rw [stamps]
            exact represents.visited.of_same rfl rfl

theorem Represents.resetEntry (represents : Represents config state list) (entry : Nat) :
    Simulated config state list (.resetEntry entry) := by
  unfold Simulated perform Allowed
  obtain ⟨next, stepped, released⟩ := represents.held.setDelegate entry none
  dsimp only
  rw [stepped]
  refine ⟨_, next, list.point entry .nothing, rfl, ⟨rfl, rfl⟩, represents.handles released.same ?_⟩
  refine represents.held.drop released.entries released.freed released.others ?_ fun _ _ => rfl
  intro one index different storage
  refine released.pool index fun owner owns shared => ?_
  exact different (owns.trans (congrArg some (represents.held.apart owner one index shared storage)))

theorem Represents.startIterator (represents : Represents config state list) (iterator : Nat)
    (fabric : Option UInt8) : Simulated config state list (.startIterator iterator fabric) := by
  unfold Simulated perform Allowed
  dsimp only
  unfold AccessControl.startIterator
  cases chosen : findIteratorDelegate config state iterator with
  | none => exact ⟨_, state, list, rfl, .inl ⟨rfl, rfl⟩, represents⟩
  | some delegate =>
      refine ⟨_, _, list.setCursor iterator (some ⟨fabric, some list.stamps⟩), rfl, .inr ⟨rfl, rfl⟩, ?_⟩
      unfold findIteratorDelegate at chosen
      unfold setIteratorDelegate
      rw [config.setDelegate_eq]
      cases found : state.iterators iterator with
      | some own =>
          rw [found] at chosen
          cases chosen
          refine ⟨represents.stored, represents.distinct, represents.below, represents.held.of_same rfl rfl rfl, ?_⟩
          refine represents.visited.assign (represents.visited.live iterator delegate found).1 (.inl found) rfl
            (Function.update_self ..) ?_ rfl
          intro one different _
          exact (Function.update_of_ne different _ _).trans (Function.update_of_ne different _ _)
      | none =>
          rw [found] at chosen
          have inside := List.mem_range.mp (List.mem_of_find?_eq_some chosen)
          have free := List.find?_some chosen
          refine ⟨represents.stored, represents.distinct, represents.below, represents.held.of_same rfl rfl rfl, ?_⟩
          refine represents.visited.assign inside (.inr (by simpa using free)) rfl (Function.update_self ..) ?_ rfl
          intro one different _
          exact Function.update_of_ne different _ _

theorem Represents.resetIterator (represents : Represents config state list) (iterator : Nat) :
    Simulated config state list (.resetIterator iterator) := by
  refine ⟨_, _, list.setCursor iterator none, rfl, ⟨rfl, rfl⟩, ?_⟩
  unfold AccessControl.resetIterator setIteratorDelegate
  rw [config.setDelegate_eq]
  cases found : state.iterators iterator with
  | none =>
      refine ⟨represents.stored, represents.distinct, represents.below, represents.held.of_same rfl rfl rfl, ?_⟩
      exact represents.visited.drop rfl fun _ _ => rfl
  | some own =>
      refine ⟨represents.stored, represents.distinct, represents.below, represents.held.of_same rfl rfl rfl, ?_⟩
      refine represents.visited.drop rfl fun one different => Function.update_of_ne ?_ _ _
      intro same
      exact different (found.trans (congrArg some same.symm))

end Represents

/-- A pointer leads to a position from the first one on and before the second one. -/
def between (first second : Nat) : Option StoragePointer → Bool
  | some (.acl position) => decide (first ≤ position ∧ position < second)
  | _ => false

/-- No handle or iterator in use stands between the two positions, and the handles on the second one find room in
the pool. -/
def Undisturbed (config : Config) (state : State) (index absolute : Nat) : Prop :=
  (∀ delegate < config.entryDelegatePoolSize, between index absolute (state.delegates delegate).storage = false) ∧
    (pointing config state absolute).card ≤ (unusedStorages config state).card ∧
    ∀ delegate < config.entryIteratorDelegatePoolSize, (state.iteratorDelegates delegate).inUse = true →
      between index absolute ((state.iteratorDelegates delegate).storage.map .acl) = false

instance (config : Config) (state : State) (index absolute : Nat) :
    Decidable (Undisturbed config state index absolute) := inferInstanceAs (Decidable (_ ∧ _ ∧ _))

/-- A deletion fixes the delegates at the position that it deletes or disturbs none of them. A step of an iterator
finds a delegate for the entry that it arrives at. -/
def Safe (config : Config) (state : State) : Call → Prop
  | .deleteEntry index fabric => ∀ absolute ∈ findUsedInAcl state.acl index fabric,
      absolute = index ∨ Undisturbed config state index absolute
  | .nextEntry iterator entry => ∀ delegate ∈ state.iterators iterator,
      nextPosition state.acl (state.iteratorDelegates delegate) = none ∨ (findDelegate config state entry).isSome
  | _ => True

instance (config : Config) (state : State) : (call : Call) → Decidable (Safe config state call)
  | .deleteEntry index fabric => inferInstanceAs (Decidable (∀ absolute ∈ findUsedInAcl state.acl index fabric,
      absolute = index ∨ Undisturbed config state index absolute))
  | .nextEntry iterator entry => inferInstanceAs (Decidable (∀ delegate ∈ state.iterators iterator,
      nextPosition state.acl (state.iteratorDelegates delegate) = none ∨ (findDelegate config state entry).isSome))
  | .prepareEntry _ => isTrue trivial
  | .setField _ _ => isTrue trivial
  | .createEntry _ _ _ => isTrue trivial
  | .readEntry _ _ _ => isTrue trivial
  | .updateEntry _ _ _ _ => isTrue trivial
  | .resetEntry _ => isTrue trivial
  | .startIterator _ _ => isTrue trivial
  | .resetIterator _ => isTrue trivial

section Steps
variable {config : Config} {state : State} {list : AccessList}

theorem Represents.deleteEntry (represents : Represents config state list) {index : Nat} {fabric : Option UInt8}
    (safe : Safe config state (.deleteEntry index fabric)) :
    Simulated config state list (.deleteEntry index fabric) := by
  unfold Simulated perform Allowed
  dsimp only
  unfold AccessControl.deleteEntry
  have lookup := findUsedInAcl_cases represents.stored index fabric
  cases found : findUsedInAcl state.acl index fabric with
  | none =>
      rw [found] at lookup
      exact ⟨_, state, list, rfl, by rw [lookup]; exact ⟨rfl, rfl⟩, represents⟩
  | some absolute =>
      rw [found] at lookup
      obtain ⟨below, _, ⟨stamp, content⟩, present, named⟩ := lookup
      rw [named]
      have listed : list.stamps[absolute]? = some stamp := by
        rw [AccessList.stamps_getElem?, present, Option.map_some]
      have known : list.content stamp = some content := AccessList.content_at represents.distinct present
      have inside := (List.getElem?_eq_some_iff.mp present).1
      have guarded := safe absolute found
      obtain ⟨saved, middle, folded, same, saves, first, fewer, room⟩ :=
        represents.held.fixAllBeforeDelete represents.backed (fun _ => listed) known
          (List.range config.entryDelegatePoolSize)
      dsimp only
      rw [folded, Option.bind_some]
      -- No saved delegate points between the two positions.
      have clear (delegate position : Nat) (storage : (saved.delegates delegate).storage = some (.acl position)) :
          position < index ∨ absolute < position ∨ position = absolute ∧ index = absolute := by
        have before := fewer delegate position storage
        have bound := (represents.held.held _ delegate (represents.held.owned delegate _ before)).1
        rcases guarded with equal | ⟨handles, enough, _⟩
        · omega
        · have away := handles delegate bound
          rw [before] at away
          have outside : ¬(index ≤ position ∧ position < absolute) := by simpa [between] using away
          have left : position ≠ absolute := by
            rintro rfl
            exact room enough delegate (List.mem_range.mpr bound) storage
          omega
      have shiftedHeld : Held config { saved with
          acl := saved.acl.take absolute ++ shiftDown config (saved.acl.drop absolute) }
          (fun _ position => list.stamps[position]?) middle := saves.of_same rfl rfl rfl
      obtain ⟨fixed, after, fixes, later, held, second, _⟩ :=
        shiftedHeld.fixAllAfterDelete content listed below clear config.entryDelegatePoolSize
      rw [fixes]
      have shifted : fixed.acl = state.acl.take absolute ++ shiftDown config (state.acl.drop absolute) := by
        rw [later.acl, same.acl]
      have entries : Cells.delete Prod.fst stamp list.entries = list.entries.eraseIdx absolute :=
        Cells.delete_at represents.distinct present
      have stamps : (Cells.delete Prod.fst stamp list.entries).map Prod.fst = list.stamps.eraseIdx absolute := by
        rw [entries, ← List.eraseIdx_map]
        rfl
      have kept (entry : Nat) : Kept stamp content (list.handles entry) (after entry) :=
        (first entry).trans (second entry)
      -- Every delegate in use is one of the fixed ones.
      have final : Held config fixed (fun _ position => (list.stamps.eraseIdx absolute)[position]?) after := by
        refine held.retable fun delegate position found storage old => ?_
        rwa [if_pos (held.held _ delegate (held.owned delegate _ storage)).1] at old
      have unlisted : stamp ∉ list.stamps.eraseIdx absolute := by
        intro member
        obtain ⟨position, again⟩ := List.getElem?_of_mem member
        have places := represents.distinct
        rw [List.getElem?_eraseIdx] at again
        split at again
        · have equal := (List.getElem?_inj (List.getElem?_eq_some_iff.mp listed).1 places).mp (listed.trans again.symm)
          omega
        · have equal := (List.getElem?_inj (List.getElem?_eq_some_iff.mp listed).1 places).mp (listed.trans again.symm)
          omega
      refine ⟨_, _, ⟨Cells.delete Prod.fst stamp list.entries, list.fresh, after, fun iterator =>
        (list.cursors iterator).map fun cursor =>
          { cursor with pending := cursor.pending.map fun pending => pending.erase stamp }⟩, rfl,
        ⟨rfl, rfl, rfl, ?_, ?_, rfl⟩, ?_⟩
      · intro entry other
        rcases kept entry with unchanged | ⟨deleted, _⟩
        · exact unchanged
        · exact absurd deleted other
      · intro entry deleted
        rcases kept entry with unchanged | ⟨_, changed⟩
        · obtain ⟨_, position, found⟩ := final.listed (unchanged.trans deleted)
          exact absurd (List.mem_of_getElem? found) unlisted
        · exact changed
      · constructor
        · rw [entries]
          change Stored config fixed.acl _
          rw [shifted]
          exact represents.stored.delete inside
        · change (List.map Prod.fst _).Nodup
          rw [stamps]
          exact represents.distinct.eraseIdx absolute
        · intro one member
          unfold AccessList.stamps at member
          rw [stamps] at member
          exact represents.below one (List.mem_of_mem_eraseIdx member)
        · unfold AccessList.stamps
          rw [stamps]
          exact final.of_same rfl rfl rfl
        · unfold AccessList.stamps
          rw [stamps]
          obtain ⟨empty, live, apart⟩ := represents.visited
          have iterators : fixed.iterators = state.iterators := later.iterators.trans same.iterators
          have iteratorDelegates : fixed.iteratorDelegates = state.iteratorDelegates :=
            later.iteratorDelegates.trans same.iteratorDelegates
          have size : fixed.acl.length = config.maxEntries := by
            rw [shifted]
            exact (represents.stored.delete inside).size
          rw [iterators, iteratorDelegates, size]
          refine ⟨?_, ?_, apart⟩
          · intro iterator absent
            exact congrArg (Option.map _) (empty iterator absent)
          · intro iterator delegate used
            obtain ⟨bound, busy, pending, cursor, stands⟩ := live iterator delegate used
            have away (position : Nat) (storage : (state.iteratorDelegates delegate).storage = some position)
                (early : position < absolute) : position < index := by
              rcases guarded with equal | ⟨_, _, iterators⟩
              · omega
              · have outside := iterators delegate bound busy
                rw [storage] at outside
                have apart : ¬(index ≤ position ∧ position < absolute) := by simpa [between] using outside
                omega
            have short : list.stamps.length ≤ config.maxEntries := by
              rw [AccessList.stamps, List.length_map]
              exact represents.stored.length_le
            have moved := stands.delete represents.distinct listed short below away
            have fabric : ((state.iteratorDelegates delegate).fixAfterDelete config.maxEntries index).fabric =
                (state.iteratorDelegates delegate).fabric ∧
                ((state.iteratorDelegates delegate).fixAfterDelete config.maxEntries index).inUse =
                (state.iteratorDelegates delegate).inUse := by
              unfold EntryIteratorDelegate.fixAfterDelete
              split
              · exact ⟨rfl, rfl⟩
              · split
                · exact ⟨rfl, rfl⟩
                · exact ⟨rfl, rfl⟩
            dsimp only
            rw [if_pos bound]
            refine ⟨bound, fabric.2.trans busy, _, ?_, moved⟩
            rw [cursor, fabric.1]
            rfl

theorem Represents.nextEntry (represents : Represents config state list) {iterator entry : Nat}
    (safe : Safe config state (.nextEntry iterator entry)) :
    Simulated config state list (.nextEntry iterator entry) := by
  unfold Simulated perform Allowed
  dsimp only
  unfold AccessControl.nextEntry
  cases found : state.iterators iterator with
  | none =>
      have absent := represents.visited.empty iterator found
      exact ⟨_, state, list, rfl, by rw [absent]; exact ⟨rfl, rfl⟩, represents⟩
  | some delegate =>
      obtain ⟨bound, busy, pending, cursor, stands⟩ := represents.visited.live iterator delegate found
      have guarded := safe delegate found
      rw [cursor]
      -- The iterator moves, and nothing else changes.
      have moved (next : State) (position : Nat) (after : Option (List Nat))
          (iterators : next.iterators = state.iterators)
          (iteratorDelegates : next.iteratorDelegates = (state.moveIterator delegate position).iteratorDelegates)
          (standing : Stands config list.stamps (some position) after) :
          Visited config next list.stamps (Function.update list.cursors iterator
            (some ⟨(state.iteratorDelegates delegate).fabric, after⟩)) := by
        refine represents.visited.assign bound (.inl found) ?_ ?_ ?_ standing
        · rw [iterators, ← found, Function.update_eq_self]
        · rw [iteratorDelegates]
          change Function.update state.iteratorDelegates delegate _ delegate = _
          rw [Function.update_self, busy]
        · intro one different _
          rw [iteratorDelegates]
          exact Function.update_of_ne different _ _
      rcases stands.next represents.stored represents.distinct with ⟨ended, last⟩ |
        ⟨position, listed, arrived, held, visited⟩
      · dsimp only
        rw [ended, last]
        refine ⟨_, _, _, rfl, ⟨rfl, rfl⟩, represents.stored, represents.distinct, represents.below,
          represents.held.of_same rfl rfl rfl, moved _ state.acl.length none rfl rfl ?_⟩
        exact .inr ⟨represents.stored.size, rfl⟩
      · dsimp only
        rw [arrived, visited]
        rcases guarded with ended | room
        · exact absurd (arrived.symm.trans ended) (Option.some_ne_none _)
        obtain ⟨chosen, finds⟩ := Option.isSome_iff_exists.mp room
        have again : findDelegate config (state.moveIterator delegate position) entry = some chosen := finds
        have stamp : list.stamps[position]? = some listed.1 := by
          rw [AccessList.stamps_getElem?, held, Option.map_some]
        obtain ⟨content, _, stored⟩ := represents.backed chosen position listed.1 stamp
        have movedHeld : Held config (state.moveIterator delegate position)
            (fun _ position => list.stamps[position]?) list.handles := represents.held.of_same rfl rfl rfl
        obtain ⟨next, stepped, same, kept⟩ := movedHeld.initDelegate_acl again stored rfl stamp
        dsimp only
        rw [again]
        dsimp only
        rw [stepped]
        refine ⟨_, next, _, rfl, .inr ⟨rfl, rfl⟩, same.acl ▸ represents.stored, represents.distinct,
          represents.below, kept, moved next position _ same.iterators same.iteratorDelegates ?_⟩
        exact .inl ⟨(List.getElem?_eq_some_iff.mp stamp).1, rfl⟩

/-- Every call on its condition has an outcome that the list allows. -/
theorem Represents.perform (represents : Represents config state list) (call : Call)
    (safe : Safe config state call) : Simulated config state list call := by
  cases call with
  | prepareEntry entry => exact represents.prepareEntry entry
  | setField entry change => exact represents.setField entry change
  | createEntry entry outside relative => exact represents.createEntry entry outside relative
  | readEntry index entry fabric => exact represents.readEntry index entry fabric
  | updateEntry index entry outside fabric => exact represents.updateEntry index entry outside fabric
  | deleteEntry index fabric => exact represents.deleteEntry safe
  | resetEntry entry => exact represents.resetEntry entry
  | startIterator iterator fabric => exact represents.startIterator iterator fabric
  | nextEntry iterator entry => exact represents.nextEntry safe
  | resetIterator iterator => exact represents.resetIterator iterator

end Steps

def step (config : Config) (state : State) (call : Call) : Option State := (perform config state call).map Prod.snd

/-- Every call of the run has an outcome that the list allows, and the state represents the list after every call. -/
def Faithful (config : Config) : State → AccessList → List Call → Prop
  | _, _, [] => True
  | state, list, call :: rest => ∃ outcome next after, perform config state call = some (outcome, next) ∧
      Allowed config list outcome after call ∧ Represents config next after ∧ Faithful config next after rest

theorem Represents.faithful {config : Config} {state : State} {list : AccessList}
    (represents : Represents config state list) {calls : List Call}
    (safe : Runs.Guarded (step config) (Safe config) state calls) : Faithful config state list calls := by
  induction calls generalizing state list with
  | nil => trivial
  | cons call rest ih =>
      obtain ⟨outcome, next, after, performed, allowed, kept⟩ := represents.perform call safe.1
      have stepped : step config state call = some next := by
        unfold step
        rw [performed]
        rfl
      exact ⟨outcome, next, after, performed, allowed, kept, ih kept (safe.2 next stepped)⟩

/-- The state that a part of the run reaches represents a list, and the rest of the run is faithful to it. -/
theorem Faithful.run {config : Config} {state middle : State} {list : AccessList} {first second : List Call}
    (faithful : Faithful config state list (first ++ second)) (represents : Represents config state list)
    (reached : Runs.run (step config) state first = some middle) :
    ∃ list, Represents config middle list ∧ Faithful config middle list second := by
  induction first generalizing state list with
  | nil =>
      cases reached
      exact ⟨list, represents, faithful⟩
  | cons call rest ih =>
      obtain ⟨outcome, next, after, performed, _, kept, later⟩ := faithful
      rw [Runs.run, step, performed] at reached
      exact ih later kept reached

/-- The access control list represents the abstract list in every run whose calls meet the condition. -/
theorem accessControl_refines (config : Config) (calls : List Call)
    (safe : Runs.Guarded (step config) (Safe config) (State.init config) calls) :
    Represents config (State.init config) AccessList.empty ∧
      Faithful config (State.init config) AccessList.empty calls :=
  ⟨Represents.init config, (Represents.init config).faithful safe⟩

def sampleConfig (delegates : Nat) : Config where
  maxEntries := 4
  entryStoragePoolSize := 2
  entryDelegatePoolSize := delegates
  entryIteratorDelegatePoolSize := 1
  maxSubjects := 1
  maxTargets := 1
  undefinedFabricIndex := 0
  undefinedNodeId := 0
  kPase := 1
  kView := 1
  setDelegate old new := (old.toList, new)
  setDelegate_eq _ _ := rfl

/-- These calls create one entry for each of two fabrics. -/
def sampleEntries : List Call :=
  [.prepareEntry 0, .setField 0 fun content => { content with fabricIndex := 1 }, .createEntry 0 none true,
    .setField 0 fun content => { content with fabricIndex := 2 }, .createEntry 0 none true]

theorem accessControl_refines_sample : Faithful (sampleConfig 3) (State.init (sampleConfig 3)) AccessList.empty
    (sampleEntries ++ [.startIterator 0 none, .nextEntry 0 1, .readEntry 1 2 none, .deleteEntry 0 (some 1),
      .nextEntry 0 1]) :=
  (accessControl_refines (sampleConfig 3) _ (by decide +kernel)).2

/-- The first entry of the second fabric is deleted, and the handle on the entry of the first fabric is reset. An
iterator that finds no delegate passes an entry that it did not deliver. -/
theorem not_accessControl_refines :
    ¬Faithful (sampleConfig 3) (State.init (sampleConfig 3)) AccessList.empty
        (sampleEntries ++ [.readEntry 0 1 none] ++ [.deleteEntry 0 (some 2)]) ∧
      ¬Faithful (sampleConfig 1) (State.init (sampleConfig 1)) AccessList.empty
        (sampleEntries ++ [.startIterator 0 none] ++ [.nextEntry 0 1]) := by
  constructor
  · intro faithful
    have run : (Runs.run (step (sampleConfig 3)) (State.init (sampleConfig 3))
        (sampleEntries ++ [.readEntry 0 1 none])).any (fun middle =>
          decide (middle.entries 1 = some 1 ∧ (middle.delegates 1).storage = some (.acl 0) ∧
            findUsedInAcl middle.acl 0 (some 2) = some 1) &&
          (perform (sampleConfig 3) middle (.deleteEntry 0 (some 2))).all fun result =>
            decide (result.2.entries 1 = none)) = true := by decide +kernel
    obtain ⟨middle, reached, facts⟩ := (Option.any_eq_true _ _).mp run
    rw [Bool.and_eq_true, decide_eq_true_eq] at facts
    obtain ⟨⟨present, storage, position⟩, reset⟩ := facts
    obtain ⟨list, represents, outcome, next, after, performed, allowed, kept, _⟩ :=
      faithful.run (Represents.init _) reached
    obtain ⟨_, _, pointer, same, denotes⟩ := represents.held.held 1 1 present
    cases storage.symm.trans same
    obtain ⟨stamp, first, denoted⟩ := denotes
    have lookup := findUsedInAcl_cases represents.stored 0 (some 2)
    rw [position] at lookup
    obtain ⟨_, _, entry, second, named⟩ := lookup
    have other : list.stamps[1]? = some entry.1 := by rw [AccessList.stamps_getElem?, second, Option.map_some]
    have different : stamp ≠ entry.1 := by
      intro equal
      have place := (List.getElem?_inj (List.getElem?_eq_some_iff.mp first).1 represents.distinct).mp
        (first.trans ((congrArg some equal).trans other.symm))
      omega
    unfold Allowed at allowed
    dsimp only at allowed
    rw [named] at allowed
    have stays := allowed.2.others 1 (by rw [denoted]; simpa using different)
    rw [performed] at reset
    have gone := kept.held.empty 1 (of_decide_eq_true reset)
    rw [stays, denoted] at gone
    exact absurd gone (by simp)
  · intro faithful
    have run : (Runs.run (step (sampleConfig 1)) (State.init (sampleConfig 1))
        (sampleEntries ++ [.startIterator 0 none])).any (fun middle =>
          decide (middle.iterators 0 = some 0 ∧ middle.iteratorDelegates 0 = ⟨true, none, none⟩) &&
          (perform (sampleConfig 1) middle (.nextEntry 0 1)).all fun result =>
            decide (result.1 = Outcome.of .bufferTooSmall ∧ result.2.iterators 0 = some 0 ∧
              result.2.iteratorDelegates 0 = ⟨true, none, some 0⟩)) = true := by decide +kernel
    obtain ⟨middle, reached, facts⟩ := (Option.any_eq_true _ _).mp run
    rw [Bool.and_eq_true, decide_eq_true_eq] at facts
    obtain ⟨⟨iterator, start⟩, moved⟩ := facts
    obtain ⟨list, represents, outcome, next, after, performed, allowed, kept, _⟩ :=
      faithful.run (Represents.init _) reached
    rw [performed] at moved
    obtain ⟨full, still, stands⟩ := of_decide_eq_true moved
    obtain ⟨_, _, pending, cursor, whole⟩ := represents.visited.live 0 0 iterator
    rw [start] at cursor whole
    have all : pending = some list.stamps := whole
    unfold Allowed at allowed
    dsimp only at allowed full
    rw [cursor] at allowed
    have unchanged : after = list := by
      rw [full] at allowed
      dsimp only at allowed
      split at allowed
      · exact absurd allowed.1 (by decide)
      · rcases allowed with ⟨_, same⟩ | ⟨impossible, _⟩
        · exact same
        · exact absurd impossible (by decide)
    obtain ⟨_, _, left, again, place⟩ := kept.visited.live 0 0 still
    rw [unchanged, cursor, all] at again
    rw [stands, unchanged] at place
    rcases place with ⟨inside, dropped⟩ | ⟨ended, _⟩
    · rw [Option.some.injEq, Cursor.mk.injEq] at again
      have equal := congrArg List.length (Option.some.inj (again.2.trans dropped))
      rw [List.length_drop] at equal
      omega
    · exact absurd ended (by decide)

end Barton.AccessControl
