import BartonCore.Proof.Sbmd.Bookkeeping

namespace Barton.Sbmd

/-- The callback of a stored read writes a result of its call. -/
def StoredKind.reads : StoredKind → Bool
  | .rssiRead => true
  | .fabricIndexRead => true
  | _ => false

namespace State

/-- The promises that a callback can still set. -/
def held (state : State) : List Nat := state.delegated ++ state.parked

/-- The promises whose owner a callback will access. -/
def vital (state : State) : List Nat :=
  state.activeCommandContexts.filterMap CommandContext.signals ++
    (state.activeWriteContexts.map WriteContext.promise ++ (state.parked ++
      ((state.storedWork.filter fun work => work.kind.reads).map StoredWork.promise ++
        state.storedContexts)))

end State

/-- The promise belongs to the call and is not satisfied with `true`. -/
structure Owned (state : State) (promise call : Nat) : Prop where
  unset : ∃ cell, state.promise promise = some cell ∧ cell.owner = .call call ∧ cell.value ≠ some true
  listed : ∃ caller, state.call call = some caller ∧ promise ∈ caller.promises

theorem Owned.call_unique {state : State} {promise first second : Nat} (left : Owned state promise first)
    (right : Owned state promise second) : first = second := by
  obtain ⟨cell, read, owner, _⟩ := left.unset
  obtain ⟨other, again, same, _⟩ := right.unset
  rw [read] at again
  cases again
  rw [owner] at same
  cases same
  rfl

/-- The reachable promises have owners, and nothing dangles. -/
structure Anchored (state : State) : Prop where
  old : ∀ promise ∈ state.promises, promise.id < state.nextAddress
  distinct : state.held.Nodup
  vital : ∀ promise ∈ state.vital, ∃ call, Owned state promise call ∧ state.alive (.call call) = true
  pendings : ∀ pending ∈ state.pendingOperations,
    Owned state pending.parkingPromise pending.operation.call
  works : ∀ work ∈ state.storedWork, Owned state work.promise work.call
  workIds : (state.storedWork.map StoredWork.id).Nodup
  workOld : ∀ work ∈ state.storedWork, work.id < state.nextAddress
  contexts : ∀ promise ∈ state.storedContexts, promise ∈ state.storedWork.map StoredWork.promise
  clean : state.dangling = []

theorem Anchored.initial : Anchored State.initial where
  old := by simp [State.initial]
  distinct := List.nodup_nil
  vital := by simp [State.initial, State.vital, State.parked]
  pendings := by simp [State.initial]
  works := by simp [State.initial]
  workIds := List.nodup_nil
  workOld := by simp [State.initial]
  contexts := by simp [State.initial]
  clean := rfl

section Held
variable {state : State}

theorem State.mem_vital_of_parked {promise : Nat} (member : promise ∈ state.parked) : promise ∈ state.vital := by
  simp only [vital, List.mem_append]
  exact .inr (.inr (.inl member))

theorem Anchored.owned (anchored : Anchored state) {promise : Nat} (member : promise ∈ state.held) :
    ∃ call, Owned state promise call := by
  simp only [State.held, State.delegated, List.mem_append] at member
  rcases member with (command | write | stored) | parked
  · obtain ⟨call, owned, _⟩ := anchored.vital promise (by simp [State.vital, command])
    exact ⟨call, owned⟩
  · obtain ⟨call, owned, _⟩ := anchored.vital promise (by
      simp only [State.vital, List.mem_append]
      exact .inr (.inl write))
    exact ⟨call, owned⟩
  · obtain ⟨work, inside, rfl⟩ := List.mem_map.mp stored
    exact ⟨work.call, anchored.works work inside⟩
  · obtain ⟨call, owned, _⟩ := anchored.vital promise (State.mem_vital_of_parked parked)
    exact ⟨call, owned⟩

/-- A new promise is not held yet. -/
theorem Anchored.fresh (anchored : Anchored state) : state.nextAddress ∉ state.held := by
  intro member
  obtain ⟨call, owned⟩ := anchored.owned member
  obtain ⟨cell, read, _⟩ := owned.unset
  have old := anchored.old cell (Cells.read_mem read)
  rw [show cell.id = state.nextAddress from Cells.read_address read] at old
  exact Nat.lt_irrefl _ old

end Held

/-- The step keeps the owners of all promises except the listed ones. -/
structure Keeps (gone : List Nat) (state next : State) : Prop where
  promises : ∀ promise, promise ∉ gone → ∀ cell, state.promise promise = some cell →
    cell.value ≠ some true → ∃ later, next.promise promise = some later ∧ later.owner = cell.owner ∧
      later.value ≠ some true
  calls : ∀ call caller, state.call call = some caller → ∃ later, next.call call = some later ∧
    later.phase.isReturned = caller.phase.isReturned ∧ ∀ promise ∈ caller.promises, promise ∈ later.promises

section Keeps
variable {gone : List Nat} {state next : State}

theorem Keeps.owned (keeps : Keeps gone state next) {promise call : Nat} (owned : Owned state promise call)
    (kept : promise ∉ gone) : Owned next promise call where
  unset := by
    obtain ⟨cell, read, owner, value⟩ := owned.unset
    obtain ⟨later, found, same, other⟩ := keeps.promises promise kept cell read value
    exact ⟨later, found, same.trans owner, other⟩
  listed := by
    obtain ⟨caller, read, member⟩ := owned.listed
    obtain ⟨later, found, _, subset⟩ := keeps.calls call caller read
    exact ⟨later, found, subset promise member⟩

theorem State.alive_iff {call : Nat} : state.alive (.call call) = true ↔
    ∃ caller, state.call call = some caller ∧ caller.phase.isReturned = false := by
  rw [alive]
  cases state.call call with
  | none => simp
  | some caller => simp

theorem Keeps.alive (keeps : Keeps gone state next) {call : Nat}
    (alive : state.alive (.call call) = true) : next.alive (.call call) = true := by
  obtain ⟨caller, read, running⟩ := State.alive_iff.mp alive
  obtain ⟨later, found, phase, _⟩ := keeps.calls call caller read
  exact State.alive_iff.mpr ⟨later, found, phase.trans running⟩

theorem Keeps.refl (gone : List Nat) (state : State) : Keeps gone state state where
  promises := fun _ _ cell read value => ⟨cell, read, rfl, value⟩
  calls := fun _ caller read => ⟨caller, read, rfl, fun _ => id⟩

/-- Only the promises and the calls matter. -/
theorem Keeps.of_eq {later : State} (keeps : Keeps gone state next) (promises : later.promises = next.promises)
    (calls : later.calls = next.calls) : Keeps gone state later where
  promises := by
    unfold State.promise
    rw [promises]
    exact keeps.promises
  calls := by
    unfold State.call
    rw [calls]
    exact keeps.calls

theorem Keeps.trans {later : State} (first : Keeps gone state next) (second : Keeps gone next later) :
    Keeps gone state later where
  promises := by
    intro promise kept cell read value
    obtain ⟨middle, found, owner, other⟩ := first.promises promise kept cell read value
    obtain ⟨final, again, same, last⟩ := second.promises promise kept middle found other
    exact ⟨final, again, same.trans owner, last⟩
  calls := by
    intro call caller read
    obtain ⟨middle, found, phase, subset⟩ := first.calls call caller read
    obtain ⟨final, again, same, more⟩ := second.calls call middle found
    exact ⟨final, again, same.trans phase, fun promise member => more promise (subset promise member)⟩

end Keeps

section Cells
variable (state : State)

theorem Keeps.addPromise (owner : Owner) (value : Option Bool) :
    Keeps [] state (state.addPromise owner value) where
  promises := fun _ _ cell read unset => ⟨cell, Cells.read_append read _, rfl, unset⟩
  calls := fun _ caller read => ⟨caller, read, rfl, fun _ => id⟩

/-- A change of a call that keeps its id, its phase, and its promises. -/
theorem Keeps.writeCall {next : State} {id : Nat} {update : Call → Call}
    (promises : next.promises = state.promises)
    (calls : next.calls = Cells.write Call.id id update state.calls)
    (same : ∀ call, (update call).id = call.id)
    (phase : ∀ call, state.call id = some call → (update call).phase.isReturned = call.phase.isReturned)
    (listed : ∀ call, ∀ promise ∈ call.promises, promise ∈ (update call).promises) :
    Keeps [] state next where
  promises := by
    intro promise _ cell read unset
    refine ⟨cell, ?_, rfl, unset⟩
    rw [State.promise, promises]
    exact read
  calls := by
    intro call caller read
    by_cases target : call = id
    · subst target
      refine ⟨update caller, ?_, phase caller read, listed caller⟩
      have found : Cells.read Call.id call state.calls = some caller := read
      rw [State.call, calls, Cells.read_write update same, found]
      rfl
    · refine ⟨caller, ?_, rfl, fun _ member => member⟩
      rw [State.call, calls, Cells.read_write_of_ne update same target]
      exact read

theorem Keeps.emplaceFront (call : Nat) (value : Option Bool) : Keeps [] state (state.emplaceFront call value) := by
  have written : Keeps [] (state.addPromise (.call call) value) (state.emplaceFront call value) :=
    Keeps.writeCall _ rfl rfl (fun _ => rfl) (fun _ _ => rfl) fun _ _ => List.mem_cons_of_mem _
  exact (Keeps.addPromise state (.call call) value).trans written

theorem Keeps.setConnected (id : Nat) (success : Bool) : Keeps [] state (state.setConnected id success) :=
  Keeps.writeCall state rfl rfl (fun _ => rfl) (fun _ _ => rfl) fun _ _ member => member

theorem State.promise_setValue (promise : Nat) (value : Bool) :
    (state.setValue promise value).promise promise =
      (state.promise promise).map (Promise.satisfy value) :=
  Cells.read_write (Promise.satisfy value) fun _ => rfl

theorem State.promise_setValue_of_ne {promise other : Nat} (value : Bool) (different : other ≠ promise) :
    (state.setValue promise value).promise other = state.promise other :=
  Cells.read_write_of_ne (Promise.satisfy value) (fun _ => rfl) different

/-- A promise that is set to `false` stays with its owner. -/
theorem Keeps.setFalse (promise : Nat) : Keeps [] state (state.setValue promise false) where
  promises := by
    intro other _ cell read unset
    by_cases same : other = promise
    · subst same
      refine ⟨cell.satisfy false, ?_, rfl, ?_⟩
      · rw [state.promise_setValue, read]
        rfl
      · cases cell with
        | mk id owner value =>
            cases value with
            | none => simp [Promise.satisfy]
            | some value => simpa [Promise.satisfy] using unset
    · refine ⟨cell, ?_, rfl, unset⟩
      rw [state.promise_setValue_of_ne false same]
      exact read
  calls := fun _ caller read => ⟨caller, read, rfl, fun _ => id⟩

/-- A promise that is set leaves the other promises with their owners. -/
theorem Keeps.setValue (promise : Nat) (value : Bool) :
    Keeps [promise] state (state.setValue promise value) where
  promises := by
    intro other kept cell read unset
    refine ⟨cell, ?_, rfl, unset⟩
    rw [state.promise_setValue_of_ne value (by simpa using kept)]
    exact read
  calls := fun _ caller read => ⟨caller, read, rfl, fun _ => id⟩

end Cells

section Transfer
variable {gone : List Nat} {state next : State}

/-- A step that only removes holders keeps the rest anchored. -/
theorem Anchored.keep (anchored : Anchored state) (keeps : Keeps gone state next)
    (addresses : state.nextAddress ≤ next.nextAddress)
    (old : ∀ promise ∈ next.promises, promise.id < next.nextAddress)
    (held : next.held.Sublist state.held)
    (vital : ∀ promise ∈ next.vital, promise ∈ state.vital ∧ promise ∉ gone)
    (pendings : ∀ pending ∈ next.pendingOperations, pending.parkingPromise ∉ gone ∧
      ∃ before ∈ state.pendingOperations, before.parkingPromise = pending.parkingPromise ∧
        before.operation = pending.operation)
    (stored : next.storedWork.Sublist state.storedWork)
    (works : ∀ work ∈ next.storedWork, work.promise ∉ gone)
    (contexts : ∀ promise ∈ next.storedContexts, promise ∈ next.storedWork.map StoredWork.promise)
    (clean : next.dangling = []) : Anchored next where
  old := old
  distinct := anchored.distinct.sublist held
  vital := by
    intro promise member
    obtain ⟨inside, kept⟩ := vital promise member
    obtain ⟨call, owned, alive⟩ := anchored.vital promise inside
    exact ⟨call, keeps.owned owned kept, keeps.alive alive⟩
  pendings := by
    intro pending member
    obtain ⟨kept, before, inside, same, operation⟩ := pendings pending member
    have owned := anchored.pendings before inside
    rw [same, operation] at owned
    exact keeps.owned owned kept
  works := by
    intro work member
    exact keeps.owned (anchored.works work (stored.subset member)) (works work member)
  workIds := anchored.workIds.sublist (stored.map _)
  workOld := by
    intro work member
    exact Nat.lt_of_lt_of_le (anchored.workOld work (stored.subset member)) addresses
  contexts := contexts
  clean := clean

/-- A step that changes no table keeps them anchored. -/
theorem Anchored.frame (anchored : Anchored state) (keeps : Keeps [] state next)
    (addresses : state.nextAddress ≤ next.nextAddress)
    (old : ∀ promise ∈ next.promises, promise.id < next.nextAddress)
    (pendings : next.pendingOperations = state.pendingOperations)
    (held : next.held = state.held) (vital : ∀ promise ∈ next.vital, promise ∈ state.vital)
    (works : next.storedWork = state.storedWork)
    (contexts : ∀ promise ∈ next.storedContexts, promise ∈ state.storedContexts)
    (clean : next.dangling = []) : Anchored next := by
  apply anchored.keep keeps addresses old
  · rw [held]
  · exact fun promise member => ⟨vital promise member, List.not_mem_nil⟩
  · rw [pendings]
    exact fun pending member => ⟨List.not_mem_nil, pending, member, rfl, rfl⟩
  · rw [works]
  · exact fun work member => List.not_mem_nil
  · rw [works]
    exact fun promise member => anchored.contexts promise (contexts promise member)
  · exact clean

theorem State.touch_dangling {owner : Owner} (alive : state.alive owner = true) :
    (state.touch owner).dangling = state.dangling := by
  change state.dangling ++ state.danglingAccess owner = _
  rw [State.danglingAccess, if_pos alive, List.append_nil]

theorem Anchored.addPromise_old (anchored : Anchored state) (owner : Owner) (value : Option Bool) :
    ∀ promise ∈ (state.addPromise owner value).promises, promise.id < state.nextAddress + 1 := by
  intro promise member
  rcases List.mem_append.mp member with before | new
  · exact Nat.lt_succ_of_lt (anchored.old promise before)
  · rw [List.mem_singleton.mp new]
    exact Nat.lt_succ_self _

theorem Anchored.emplaceFront (anchored : Anchored state) (call : Nat) (value : Option Bool) :
    Anchored (state.emplaceFront call value) :=
  anchored.frame (Keeps.emplaceFront state call value) (Nat.le_succ _) (anchored.addPromise_old _ _) rfl rfl
    (fun _ => id) rfl (fun _ => id) anchored.clean

theorem Anchored.setConnected (anchored : Anchored state) {id : Nat} (success : Bool)
    (alive : state.alive (.call id) = true) : Anchored (state.setConnected id success) :=
  anchored.frame (Keeps.setConnected state id success) le_rfl anchored.old rfl rfl (fun _ member => member) rfl
    (fun _ member => member) ((State.touch_dangling alive).trans anchored.clean)

theorem Owned.promiseAccess {promise call : Nat} (owned : Owned state promise call)
    (alive : state.alive (.call call) = true) : state.promiseAccess promise = [] := by
  obtain ⟨cell, read, owner, _⟩ := owned.unset
  rw [State.promiseAccess, read]
  change state.danglingAccess cell.owner = []
  rw [owner, State.danglingAccess, if_pos alive]

theorem Owned.setValue_clean {promise call : Nat} (owned : Owned state promise call)
    (alive : state.alive (.call call) = true) (clean : state.dangling = []) (value : Bool) :
    (state.setValue promise value).dangling = [] := by
  change state.dangling ++ state.promiseAccess promise = []
  rw [owned.promiseAccess alive, clean]
  rfl

theorem Anchored.setValue_old (anchored : Anchored state) (promise : Nat) (value : Bool) :
    ∀ cell ∈ (state.setValue promise value).promises, cell.id < state.nextAddress := by
  intro cell member
  obtain ⟨before, inside, rfl⟩ := List.mem_map.mp member
  split
  · exact anchored.old before inside
  · exact anchored.old before inside

/-- A held promise of a living call may be set to `false`. -/
theorem Anchored.setFalse (anchored : Anchored state) {promise call : Nat}
    (owned : Owned state promise call) (alive : state.alive (.call call) = true) :
    Anchored (state.setValue promise false) :=
  anchored.frame (Keeps.setFalse state promise) le_rfl (anchored.setValue_old promise false) rfl rfl
    (fun _ => id) rfl (fun _ => id) (owned.setValue_clean alive anchored.clean false)

/-- The call owns its new promise. -/
theorem Anchored.emplaced (anchored : Anchored state) {call : Nat}
    (alive : state.alive (.call call) = true) {value : Option Bool} (unset : value ≠ some true) :
    Owned (state.emplaceFront call value) state.nextAddress call where
  unset := by
    have absent : ∀ other ∈ state.promises,
        other.id ≠ (⟨state.nextAddress, .call call, value⟩ : Promise).id :=
      fun other member => Nat.ne_of_lt (anchored.old other member)
    exact ⟨_, Cells.read_append_fresh absent, rfl, unset⟩
  listed := by
    obtain ⟨caller, read, _⟩ := State.alive_iff.mp alive
    have found : Cells.read Call.id call state.calls = some caller := read
    refine ⟨{ caller with promises := state.nextAddress :: caller.promises }, ?_, List.mem_cons_self⟩
    change Cells.read Call.id call (Cells.write Call.id call _ state.calls) = _
    rw [Cells.read_write]
    · rw [found]
      rfl
    · exact fun _ => rfl

end Transfer

section Holders
variable {state : State} {promise call : Nat}

/-- A new holder of a promise of a living call is anchored. -/
theorem Anchored.add {next : State} (anchored : Anchored state) (owned : Owned state promise call)
    (alive : state.alive (.call call) = true) (fresh : promise ∉ state.held)
    (promises : next.promises = state.promises) (calls : next.calls = state.calls)
    (addresses : state.nextAddress ≤ next.nextAddress) (dangling : next.dangling = state.dangling)
    (held : next.held.Perm (promise :: state.held))
    (vital : ∀ other ∈ next.vital, other ∈ state.vital ∨ other = promise)
    (pendings : ∀ pending ∈ next.pendingOperations, pending ∈ state.pendingOperations ∨
      pending.parkingPromise = promise ∧ pending.operation.call = call)
    (works : ∀ work ∈ next.storedWork, work ∈ state.storedWork ∨
      work.promise = promise ∧ work.call = call)
    (workIds : (next.storedWork.map StoredWork.id).Nodup)
    (workOld : ∀ work ∈ next.storedWork, work.id < next.nextAddress)
    (contexts : ∀ promise ∈ next.storedContexts, promise ∈ next.storedWork.map StoredWork.promise) :
    Anchored next := by
  have keeps : Keeps [] state next := (Keeps.refl [] state).of_eq promises calls
  have owns : Owned next promise call := keeps.owned owned List.not_mem_nil
  constructor
  · rw [promises]
    exact fun cell member => Nat.lt_of_lt_of_le (anchored.old cell member) addresses
  · exact held.nodup_iff.mpr (List.nodup_cons.mpr ⟨fresh, anchored.distinct⟩)
  · intro other member
    rcases vital other member with inside | rfl
    · obtain ⟨caller, kept, living⟩ := anchored.vital other inside
      exact ⟨caller, keeps.owned kept List.not_mem_nil, keeps.alive living⟩
    · exact ⟨call, owns, keeps.alive alive⟩
  · intro pending member
    rcases pendings pending member with inside | ⟨rfl, rfl⟩
    · exact keeps.owned (anchored.pendings pending inside) List.not_mem_nil
    · exact owns
  · intro work member
    rcases works work member with inside | ⟨rfl, rfl⟩
    · exact keeps.owned (anchored.works work inside) List.not_mem_nil
    · exact owns
  · exact workIds
  · exact workOld
  · exact contexts
  · exact dangling.trans anchored.clean

theorem Anchored.addCommand_promise (anchored : Anchored state) (owned : Owned state promise call)
    (alive : state.alive (.call call) = true) (fresh : promise ∉ state.held) :
    Anchored (state.addCommand (.promise promise)) := by
  have signals : (⟨state.nextAddress, .promise promise, false⟩ : CommandContext).signals = some promise :=
    rfl
  refine anchored.add owned alive fresh rfl rfl (Nat.le_succ _) rfl ?_ ?_ ?_ ?_ ?_ ?_ ?_
  · rw [List.perm_iff_count]
    intro other
    simp only [State.held, State.delegated, State.addCommand, State.parked, List.filterMap_append,
      List.filterMap_cons_some signals, List.filterMap_nil, List.count_append, List.count_cons,
      List.count_nil]
    omega
  · intro other member
    simp only [State.vital, State.addCommand, State.parked, List.filterMap_append,
      List.filterMap_cons_some signals, List.filterMap_nil, List.mem_append,
      List.mem_singleton] at member ⊢
    tauto
  · exact fun pending member => .inl member
  · exact fun work member => .inl member
  · exact anchored.workIds
  · exact fun work member => Nat.lt_succ_of_lt (anchored.workOld work member)
  · exact anchored.contexts

theorem Anchored.addWrite (anchored : Anchored state) (owned : Owned state promise call)
    (alive : state.alive (.call call) = true) (fresh : promise ∉ state.held) :
    Anchored (state.addWrite promise) := by
  refine anchored.add owned alive fresh rfl rfl (Nat.le_succ _) rfl ?_ ?_ ?_ ?_ ?_ ?_ ?_
  · rw [List.perm_iff_count]
    intro other
    simp only [State.held, State.delegated, State.addWrite, State.parked, List.map_append,
      List.map_singleton, List.count_append, List.count_cons, List.count_nil]
    omega
  · intro other member
    simp only [State.vital, State.addWrite, State.parked, List.map_append, List.map_singleton,
      List.mem_append, List.mem_singleton] at member ⊢
    tauto
  · exact fun pending member => .inl member
  · exact fun work member => .inl member
  · exact anchored.workIds
  · exact fun work member => Nat.lt_succ_of_lt (anchored.workOld work member)
  · exact anchored.contexts

/-- A registered operation of a living call is anchored. -/
theorem Anchored.register (anchored : Anchored state) {pending : PendingOperation}
    (owned : Owned state pending.parkingPromise pending.operation.call)
    (alive : state.alive (.call pending.operation.call) = true)
    (fresh : pending.parkingPromise ∉ state.held) (next : Nat) (parkings : List Nat) :
    Anchored { state with
      pendingOperations := state.pendingOperations ++ [pending]
      nextPendingId := next
      parkings := parkings } := by
  refine anchored.add owned alive fresh rfl rfl le_rfl rfl ?_ ?_ ?_ ?_ ?_ ?_ ?_
  · rw [List.perm_iff_count]
    intro other
    simp only [State.held, State.delegated, State.parked, List.map_append, List.map_singleton,
      List.count_append, List.count_cons, List.count_nil]
    omega
  · intro other member
    simp only [State.vital, State.parked, List.map_append, List.map_singleton,
      List.mem_append, List.mem_singleton] at member ⊢
    tauto
  · intro entry member
    rcases List.mem_append.mp member with old | new
    · exact .inl old
    · rw [List.mem_singleton.mp new]
      exact .inr ⟨rfl, rfl⟩
  · exact fun work member => .inl member
  · exact anchored.workIds
  · exact anchored.workOld
  · exact anchored.contexts

/-- Work that the SDK accepted for a living call is anchored. -/
theorem Anchored.store (anchored : Anchored state) (work : StoredWork)
    (owned : Owned state work.promise work.call) (alive : state.alive (.call work.call) = true)
    (fresh : work.promise ∉ state.held) (new : work.id = state.nextAddress) :
    Anchored { state with
      storedContexts := state.storedContexts ++ [work.promise]
      storedWork := state.storedWork ++ [work]
      nextAddress := state.nextAddress + 1 } := by
  refine anchored.add owned alive fresh rfl rfl (Nat.le_succ _) rfl ?_ ?_ ?_ ?_ ?_ ?_ ?_
  · rw [List.perm_iff_count]
    intro other
    simp only [State.held, State.delegated, State.parked, List.map_append, List.map_singleton,
      List.count_append, List.count_cons, List.count_nil]
    omega
  · intro other member
    simp only [State.vital, State.parked, List.filter_append, List.map_append, List.mem_append,
      List.mem_map, List.mem_filter, List.mem_singleton] at member ⊢
    rcases member with command | write | parked | (old | ⟨new, ⟨rfl, _⟩, rfl⟩) | context | rfl
    · exact .inl (.inl command)
    · exact .inl (.inr (.inl write))
    · exact .inl (.inr (.inr (.inl parked)))
    · exact .inl (.inr (.inr (.inr (.inl old))))
    · exact .inr rfl
    · exact .inl (.inr (.inr (.inr (.inr context))))
    · exact .inr rfl
  · exact fun pending member => .inl member
  · intro other member
    rcases List.mem_append.mp member with old | new
    · exact .inl old
    · rw [List.mem_singleton.mp new]
      exact .inr ⟨rfl, rfl⟩
  · apply Cells.nodup_append_fresh anchored.workIds
    intro other member
    rw [new]
    exact Nat.ne_of_lt (anchored.workOld other member)
  · intro other member
    rcases List.mem_append.mp member with old | last
    · exact Nat.lt_succ_of_lt (anchored.workOld other old)
    · rw [List.mem_singleton.mp last, new]
      exact Nat.lt_succ_self _
  · intro other member
    rw [List.map_append]
    rcases List.mem_append.mp member with old | new
    · exact List.mem_append_left _ (anchored.contexts other old)
    · exact List.mem_append_right _ new

/-- A deferred command holds no promise of its own. -/
theorem Anchored.addCommand_deferred (anchored : Anchored state) (id : Nat) :
    Anchored (state.addCommand (.deferred id)) := by
  have signals : (⟨state.nextAddress, .deferred id, false⟩ : CommandContext).signals = none := rfl
  have same : (state.addCommand (.deferred id)).activeCommandContexts.filterMap CommandContext.signals =
      state.activeCommandContexts.filterMap CommandContext.signals := by
    simp only [State.addCommand, List.filterMap_append, List.filterMap_cons_none signals,
      List.filterMap_nil, List.append_nil]
  refine anchored.frame ((Keeps.refl [] state).of_eq rfl rfl) (Nat.le_succ _) ?_ ?_ ?_ ?_ ?_ ?_ ?_
  · exact fun cell member => Nat.lt_succ_of_lt (anchored.old cell member)
  · rfl
  · rw [State.held, State.delegated, same]
    rfl
  · rw [State.vital, same]
    exact fun _ member => member
  · rfl
  · exact fun _ member => member
  · exact anchored.clean

/-- The held promises include the vital ones. -/
theorem State.mem_held_of_vital
    (contexts : ∀ promise ∈ state.storedContexts, promise ∈ state.storedWork.map StoredWork.promise)
    (member : promise ∈ state.vital) : promise ∈ state.held := by
  simp only [vital, held, delegated, List.mem_append] at member ⊢
  rcases member with command | write | parked | stored | context
  · exact .inl (.inl command)
  · exact .inl (.inr (.inl write))
  · exact .inr parked
  · obtain ⟨work, inside, rfl⟩ := List.mem_map.mp stored
    exact .inl (.inr (.inr (List.mem_map_of_mem (List.mem_of_mem_filter inside))))
  · exact .inl (.inr (.inr (contexts promise context)))

/-- A promise of a living call may be set when its holder leaves. -/
theorem Anchored.release {next : State} (anchored : Anchored state) (owned : Owned state promise call)
    (alive : state.alive (.call call) = true) (value : Bool)
    (promises : next.promises = (state.setValue promise value).promises)
    (calls : next.calls = state.calls) (addresses : next.nextAddress = state.nextAddress)
    (dangling : next.dangling = (state.setValue promise value).dangling)
    (held : next.held.Sublist state.held) (released : promise ∉ next.held)
    (vital : ∀ other ∈ next.vital, other ∈ state.vital)
    (pendings : ∀ pending ∈ next.pendingOperations, pending ∈ state.pendingOperations)
    (stored : next.storedWork.Sublist state.storedWork)
    (contexts : ∀ promise ∈ next.storedContexts, promise ∈ next.storedWork.map StoredWork.promise) :
    Anchored next := by
  have keeps : Keeps [promise] state next := (Keeps.setValue state promise value).of_eq promises calls
  have apart {other : Nat} (member : other ∈ next.held) : other ∉ [promise] := by
    intro same
    rw [List.mem_singleton.mp same] at member
    exact released member
  refine anchored.keep keeps addresses.ge ?_ held ?_ ?_ stored ?_ contexts ?_
  · rw [promises, addresses]
    exact anchored.setValue_old promise value
  · exact fun other member => ⟨vital other member, apart (State.mem_held_of_vital contexts member)⟩
  · intro pending member
    refine ⟨apart ?_, pending, pendings pending member, rfl, rfl⟩
    exact List.mem_append_right _ (List.mem_map_of_mem member)
  · intro work member
    exact apart (List.mem_append_left _ (State.mem_delegated_of_stored member))
  · exact dangling.trans (owned.setValue_clean alive anchored.clean value)

end Holders
end Barton.Sbmd
