import BartonCore.Proof.Matter.AccessHandles

namespace Barton.AccessControl

/-- A handle on the deleted entry keeps its content or is reset, and every other handle stays as it is. -/
def Kept (stamp : Nat) (content : Content) (before after : Denotation) : Prop :=
  after = before ∨ before = .listed stamp ∧ (after = .own content ∨ after = .nothing)

theorem Kept.trans {stamp : Nat} {content : Content} {before middle after : Denotation}
    (first : Kept stamp content before middle) (second : Kept stamp content middle after) :
    Kept stamp content before after := by
  rcases first with rfl | ⟨deleted, changed⟩
  · exact second
  · rcases second with rfl | ⟨again, _⟩
    · exact .inr ⟨deleted, changed⟩
    · rcases changed with rfl | rfl
      · exact absurd again (by simp)
      · exact absurd again (by simp)

/-- A change of one handle on the deleted entry is allowed. -/
theorem Kept.update {stamp : Nat} {content : Content} {handles : Nat → Denotation} {entry : Nat}
    (deleted : handles entry = .listed stamp) {sense : Denotation}
    (allowed : sense = .own content ∨ sense = .nothing) (one : Nat) :
    Kept stamp content (handles one) (Function.update handles entry sense one) := by
  by_cases same : one = entry
  · rw [same, Function.update_self]
    exact .inr ⟨deleted, allowed⟩
  · rw [Function.update_of_ne same]
    exact .inl rfl

/-- These are the delegates that point to a position of the array. -/
def pointing (config : Config) (state : State) (position : Nat) : Finset Nat :=
  (Finset.range config.entryDelegatePoolSize).filter fun delegate =>
    (state.delegates delegate).storage = some (.acl position)

/-- These are the unused storages of the pool. -/
def unusedStorages (config : Config) (state : State) : Finset Nat :=
  (Finset.range config.entryStoragePoolSize).filter fun index => (state.pool index).inUse = false

section Before
variable {config : Config} {state : State} {table : Nat → Nat → Option Nat} {handles : Nat → Denotation}
  {contents : Nat → Option Content}

theorem findStorage_none (full : findStorage config state none = none) : unusedStorages config state = ∅ := by
  unfold findStorage at full
  rw [List.find?_eq_none] at full
  unfold unusedStorages
  rw [Finset.filter_eq_empty_iff]
  intro index inside
  have busy := full index (List.mem_range.mpr (Finset.mem_range.mp inside))
  simpa using busy

/-- A move to the pool takes one delegate from the position and one unused storage. -/
theorem moveToPool_room {delegate free position : Nat} (content : Content)
    (inside : delegate < config.entryDelegatePoolSize)
    (storage : (state.delegates delegate).storage = some (.acl position))
    (found : findStorage config state none = some free)
    (room : (pointing config state position).card ≤ (unusedStorages config state).card) :
    (pointing config (state.moveToPool delegate free content) position).card ≤
      (unusedStorages config (state.moveToPool delegate free content)).card := by
  have fewer : pointing config (state.moveToPool delegate free content) position =
      (pointing config state position).erase delegate := by
    ext one
    unfold pointing
    rw [Finset.mem_erase, Finset.mem_filter, Finset.mem_filter, State.moveToPool_storage]
    by_cases same : one = delegate
    · simp [same]
    · simp [same]
  have taken : unusedStorages config (state.moveToPool delegate free content) =
      (unusedStorages config state).erase free := by
    ext index
    unfold unusedStorages
    rw [Finset.mem_erase, Finset.mem_filter, Finset.mem_filter, State.moveToPool_pool]
    by_cases same : index = free
    · simp [same]
    · simp [same]
  rcases findStorage_cases found with impossible | ⟨bound, unused⟩
  · exact absurd impossible.symm (Option.some_ne_none _)
  rw [fewer, taken, Finset.card_erase_of_mem, Finset.card_erase_of_mem]
  · exact Nat.sub_le_sub_right room 1
  · exact Finset.mem_filter.mpr ⟨Finset.mem_range.mpr bound, unused⟩
  · exact Finset.mem_filter.mpr ⟨Finset.mem_range.mpr inside, storage⟩

/-- A handle on the deleted entry gets a content of its own while the pool has room. -/
theorem Held.fixBeforeDelete (held : Held config state table handles)
    (backed : ∀ delegate, Backed state.acl (table delegate) contents) {position stamp : Nat} {content : Content}
    (deleted : ∀ delegate, table delegate position = some stamp) (known : contents stamp = some content)
    (delegate : Nat) :
    ∃ next after, fixBeforeDelete config position state delegate = some next ∧ SameArray state next ∧
      Held config next table after ∧ (∀ entry, Kept stamp content (handles entry) (after entry)) ∧
      (∀ one index, (next.delegates one).storage = some (.acl index) →
        (state.delegates one).storage = some (.acl index)) ∧
      ((pointing config state position).card ≤ (unusedStorages config state).card →
        (next.delegates delegate).storage ≠ some (.acl position) ∧
        (pointing config next position).card ≤ (unusedStorages config next).card) := by
  unfold AccessControl.fixBeforeDelete
  by_cases mine : (state.delegates delegate).storage = some (.acl position)
  · rw [if_pos mine]
    have present := held.owned delegate _ mine
    obtain ⟨inside, _⟩ := held.held _ delegate present
    rcases held.ensureStorageInPool backed present with ⟨index, storage, _⟩ |
      ⟨index, found, old, storage, listed, denoted, kept, ⟨full, ensured⟩ | ⟨free, found, ensured, moved⟩⟩
    · exact absurd (mine.symm.trans storage) (by simp)
    · rw [ensured]
      refine ⟨state, handles, rfl, SameArray.refl state, held, fun _ => .inl rfl, fun _ _ same => same, ?_⟩
      intro room
      have occupied : delegate ∈ pointing config state position :=
        Finset.mem_filter.mpr ⟨Finset.mem_range.mpr inside, mine⟩
      have some := Finset.card_pos.mpr ⟨delegate, occupied⟩
      rw [findStorage_none full, Finset.card_empty] at room
      omega
    · cases mine.symm.trans storage
      cases (deleted delegate).symm.trans listed
      cases known.symm.trans kept
      rw [ensured]
      refine ⟨_, _, rfl, ⟨rfl, rfl, rfl⟩, moved, Kept.update denoted (.inl rfl), ?_, ?_⟩
      · intro one index storage
        rw [State.moveToPool_storage] at storage
        by_cases same : one = delegate
        · rw [if_pos same] at storage
          exact absurd storage (by simp)
        · rwa [if_neg same] at storage
      · intro room
        refine ⟨?_, moveToPool_room content inside mine found room⟩
        rw [State.moveToPool_storage, if_pos rfl]
        simp
  · rw [if_neg mine]
    exact ⟨state, handles, rfl, SameArray.refl state, held, fun _ => .inl rfl, fun _ _ same => same,
      fun room => ⟨mine, room⟩⟩

/-- While the pool has room, no handle is left on the deleted entry. -/
theorem Held.fixAllBeforeDelete (held : Held config state table handles)
    (backed : ∀ delegate, Backed state.acl (table delegate) contents) {position stamp : Nat} {content : Content}
    (deleted : ∀ delegate, table delegate position = some stamp) (known : contents stamp = some content)
    (delegates : List Nat) :
    ∃ saved after, delegates.foldlM (AccessControl.fixBeforeDelete config position) state = some saved ∧
      SameArray state saved ∧ Held config saved table after ∧
      (∀ entry, Kept stamp content (handles entry) (after entry)) ∧
      (∀ one index, (saved.delegates one).storage = some (.acl index) →
        (state.delegates one).storage = some (.acl index)) ∧
      ((pointing config state position).card ≤ (unusedStorages config state).card →
        ∀ delegate ∈ delegates, (saved.delegates delegate).storage ≠ some (.acl position)) := by
  induction delegates generalizing state handles with
  | nil =>
      exact ⟨state, handles, rfl, SameArray.refl state, held, fun _ => .inl rfl, fun _ _ same => same,
        fun _ _ member => absurd member List.not_mem_nil⟩
  | cons delegate rest ih =>
      obtain ⟨next, middle, stepped, same, holds, first, fewer, room⟩ :=
        held.fixBeforeDelete backed deleted known delegate
      obtain ⟨saved, after, folded, later, final, second, least, empty⟩ :=
        ih holds fun one => same.acl ▸ backed one
      refine ⟨saved, after, ?_, same.trans later, final, ?_, ?_, ?_⟩
      · rw [List.foldlM_cons, stepped]
        exact folded
      · exact fun entry => (first entry).trans (second entry)
      · exact fun one index storage => fewer one index (least one index storage)
      · intro enough one member
        obtain ⟨gone, still⟩ := room enough
        rcases List.mem_cons.mp member with rfl | inside
        · exact fun storage => gone (least one position storage)
        · exact empty still one inside

end Before

section After
variable {config : Config} {state : State} {table other : Nat → Nat → Option Nat} {handles : Nat → Denotation}
  {stamps : List Nat} {index absolute stamp : Nat}

/-- A delegate that does not point between the two positions denotes the same entry after the deletion. -/
theorem Held.fixAfterDelete (held : Held config state table handles) (content : Content)
    (deleted : stamps[absolute]? = some stamp) (below : index ≤ absolute) {delegate : Nat}
    (old : ∀ position, table delegate position = stamps[position]?)
    (new : ∀ position, other delegate position = (stamps.eraseIdx absolute)[position]?)
    (tables : ∀ one, one ≠ delegate → other one = table one)
    (clear : ∀ position, (state.delegates delegate).storage = some (.acl position) →
      position < index ∨ absolute < position ∨ position = absolute ∧ index = absolute) :
    ∃ next after, fixAfterDelete config index state delegate = some next ∧ SameArray state next ∧
      Held config next other after ∧ (∀ entry, Kept stamp content (handles entry) (after entry)) ∧
      ∀ one, one ≠ delegate → next.delegates one = state.delegates one := by
  unfold AccessControl.fixAfterDelete
  -- A delegate without a pointer behind the position is left as it is.
  have unchanged (kept : ∀ position, (state.delegates delegate).storage = some (.acl position) →
      position < absolute) : Held config state other handles := by
    refine held.retable ?_
    intro one position found storage listed
    by_cases same : one = delegate
    · subst same
      rw [new, List.getElem?_eraseIdx_of_lt (kept position storage), ← old, listed]
    · rw [tables one same, listed]
  cases storage : (state.delegates delegate).storage with
  | none =>
      refine ⟨state, handles, rfl, SameArray.refl state, unchanged ?_, fun _ => .inl rfl, fun _ _ => rfl⟩
      exact fun position present => absurd (storage.symm.trans present).symm (Option.some_ne_none _)
  | some pointer =>
      cases pointer with
      | pool place =>
          refine ⟨state, handles, rfl, SameArray.refl state, unchanged ?_, fun _ => .inl rfl, fun _ _ => rfl⟩
          exact fun position present => absurd (storage.symm.trans present) (by simp)
      | acl position =>
          have present := held.owned delegate _ storage
          obtain ⟨inside, own, pointer, same, denotes⟩ := held.held _ delegate present
          cases storage.symm.trans same
          obtain ⟨found, listed, denoted⟩ := denotes
          have apart := clear position storage
          dsimp only
          by_cases here : position = index
          · rw [if_pos here]
            have place : position = absolute := by omega
            obtain ⟨next, stepped, released⟩ := held.setDelegate (state.delegates delegate).entry none
            rw [old, place, deleted] at listed
            cases listed
            have mine (one : Nat) (owns : state.entries (state.delegates delegate).entry = some one) :
                one = delegate := Option.some.inj (owns.symm.trans present)
            have others (one : Nat) (different : one ≠ delegate) : next.delegates one = state.delegates one :=
              released.others one fun owns => different (mine one owns)
            refine ⟨next, _, stepped, released.same, ?_, Kept.update denoted (.inr rfl), others⟩
            refine held.drop released.entries released.freed released.others ?_ ?_
            · intro one shared _ _
              refine released.pool shared fun owner owns impossible => ?_
              rw [mine owner owns, storage] at impossible
              exact absurd impossible (by simp)
            · exact fun one different => tables one fun same => different (same ▸ present)
          · rw [if_neg here]
            by_cases behind : index < position
            · rw [if_pos behind]
              have later : (stamps.eraseIdx absolute)[position - 1]? = some found := by
                rw [List.getElem?_eraseIdx_of_ge (by omega), Nat.sub_add_cancel (by omega), ← old, listed]
              refine ⟨_, handles, rfl, ⟨rfl, rfl, rfl⟩, ?_, fun _ => .inl rfl,
                fun one different => Function.update_of_ne different _ _⟩
              have target : Denotes config state.pool (other delegate) (.acl (position - 1))
                  (handles (state.delegates delegate).entry) :=
                ⟨found, (new _).trans later, denoted⟩
              rw [← Function.update_eq_self (state.delegates delegate).entry handles]
              refine held.assign inside (.inl present) ?_ (Function.update_self ..) ?_ ?_ tables target
              · rw [← present, Function.update_eq_self]
              · exact fun one different => Function.update_of_ne different _ _
              · exact fun one place _ _ => ⟨rfl, fun same => StoragePointer.noConfusion same⟩
            · rw [if_neg behind]
              refine ⟨state, handles, rfl, SameArray.refl state, unchanged ?_, fun _ => .inl rfl, fun _ _ => rfl⟩
              intro place again
              cases storage.symm.trans again
              omega

/-- The delegates are fixed one after the other. -/
theorem Held.fixAllAfterDelete (held : Held config state (fun _ position => stamps[position]?) handles)
    (content : Content) (deleted : stamps[absolute]? = some stamp) (below : index ≤ absolute)
    (clear : ∀ delegate position, (state.delegates delegate).storage = some (.acl position) →
      position < index ∨ absolute < position ∨ position = absolute ∧ index = absolute) (count : Nat) :
    ∃ fixed after, (List.range count).foldlM (AccessControl.fixAfterDelete config index) state = some fixed ∧
      SameArray state fixed ∧
      Held config fixed (fun delegate position =>
        if delegate < count then (stamps.eraseIdx absolute)[position]? else stamps[position]?) after ∧
      (∀ entry, Kept stamp content (handles entry) (after entry)) ∧
      ∀ one, count ≤ one → fixed.delegates one = state.delegates one := by
  induction count with
  | zero => exact ⟨state, handles, rfl, SameArray.refl state, held, fun _ => .inl rfl, fun _ _ => rfl⟩
  | succ count ih =>
      obtain ⟨middle, before, folded, same, holds, first, frame⟩ := ih
      have tables (one : Nat) (different : one ≠ count) :
          (fun position : Nat => if one < count + 1 then (stamps.eraseIdx absolute)[position]? else stamps[position]?) =
            fun position => if one < count then (stamps.eraseIdx absolute)[position]? else stamps[position]? := by
        funext position
        by_cases early : one < count
        · rw [if_pos early, if_pos (by omega)]
        · rw [if_neg early, if_neg (by omega)]
      have clearNext (position : Nat) (storage : (middle.delegates count).storage = some (.acl position)) :
          position < index ∨ absolute < position ∨ position = absolute ∧ index = absolute := by
        rw [frame count (Nat.le_refl _)] at storage
        exact clear count position storage
      obtain ⟨fixed, after, stepped, later, final, second, others⟩ :=
        holds.fixAfterDelete content deleted below (fun _ => if_neg (Nat.lt_irrefl count))
          (fun _ => if_pos (Nat.lt_succ_self count)) tables clearNext
      refine ⟨fixed, after, ?_, same.trans later, final, ?_, ?_⟩
      · rw [List.range_succ, List.foldlM_append, folded]
        exact (Option.bind_some _ _).trans (by rw [List.foldlM_cons, stepped]; rfl)
      · exact fun entry => (first entry).trans (second entry)
      · intro one above
        rw [others one (by omega), frame one (by omega)]

end After

end Barton.AccessControl
