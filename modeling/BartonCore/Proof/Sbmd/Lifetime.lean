import BartonCore.Proof.Sbmd.History
import BartonCore.Proof.Sbmd.Ownership

namespace Barton.Sbmd

section Release
variable {state : State} {work : StoredWork} {promise : Nat} (anchored : Anchored state)
include anchored

theorem Anchored.vital_of_owned {promise call : Nat}
    (member : promise ∈ state.vital) (owned : Owned state promise call) :
    state.alive (.call call) = true := by
  obtain ⟨other, same, alive⟩ := anchored.vital promise member
  rwa [owned.call_unique same]

/-- A promise is held once, so one holder less leaves none. -/
theorem Anchored.released {next : State}
    (fewer : next.held.count promise < state.held.count promise) : promise ∉ next.held := by
  have once := List.nodup_iff_count_le_one.mp anchored.distinct promise
  rw [← List.count_eq_zero]
  omega

theorem Anchored.nodup_parts : (state.activeCommandContexts.filterMap CommandContext.signals).Nodup ∧
      (state.activeWriteContexts.map WriteContext.promise).Nodup ∧
      (state.storedWork.map StoredWork.promise).Nodup ∧ state.parked.Nodup := by
  have distinct := anchored.distinct
  rw [State.held, State.delegated, List.nodup_append, List.nodup_append, List.nodup_append] at distinct
  exact ⟨distinct.1.1, distinct.1.2.1.1, distinct.1.2.1.2.1, distinct.2.1⟩

theorem Anchored.complete (id : Nat) (success : Bool) :
    Anchored (state.completePendingOperation id success) := by
  cases known : state.pending id with
  | none =>
      rw [State.completePendingOperation, known]
      exact anchored
  | some pending =>
      have member : pending ∈ state.pendingOperations := Cells.read_mem known
      obtain rfl : pending.id = id := Cells.read_address known
      have parked : pending.parkingPromise ∈ state.parked := List.mem_map_of_mem member
      have owned := anchored.pendings pending member
      have alive := anchored.vital_of_owned (State.mem_vital_of_parked parked) owned
      have fewer : ((Cells.delete PendingOperation.id pending.id state.pendingOperations).map
          PendingOperation.parkingPromise).Sublist state.parked := List.filter_sublist.map _
      have gone : pending.parkingPromise ∉
          (Cells.delete PendingOperation.id pending.id state.pendingOperations).map
            PendingOperation.parkingPromise := Cells.not_mem_map_delete anchored.nodup_parts.2.2.2 member
      rw [State.completePendingOperation, known]
      refine anchored.release owned alive success rfl rfl rfl rfl ?_ ?_ ?_ ?_
        (List.Sublist.refl _) anchored.contexts
      · exact fewer.append_left _
      · apply anchored.released
        have here := List.count_pos_iff.mpr parked
        have none := List.count_eq_zero.mpr gone
        change (state.delegated ++ (Cells.delete PendingOperation.id pending.id
          state.pendingOperations).map PendingOperation.parkingPromise).count _ < _
        rw [State.held, List.count_append, List.count_append]
        omega
      · intro other held
        simp only [State.vital, List.mem_append] at held ⊢
        exact held.imp_right (Or.imp_right (Or.imp_left fun left => fewer.subset left))
      · exact fun entry kept => Cells.mem_of_mem_delete kept

/-- A deferral keeps the promise and the slots of its entry. -/
theorem Anchored.rearm {pending next : PendingOperation} (member : pending ∈ state.pendingOperations)
    (unique : ∀ other ∈ state.pendingOperations, other.id = next.id → other = pending)
    (same : SameOperation pending next) :
    Anchored { state with
      pendingOperations := Cells.write PendingOperation.id next.id (fun _ => next)
        state.pendingOperations } := by
  have parked : (Cells.write PendingOperation.id next.id (fun _ => next) state.pendingOperations).map
      PendingOperation.parkingPromise = state.parked := by
    apply Cells.map_write
    intro other inside equal
    rw [unique other inside equal, same.parkingPromise]
  refine anchored.keep ((Keeps.refl [] state).of_eq rfl rfl) le_rfl anchored.old ?_ ?_ ?_
      (List.Sublist.refl _) ?_
    anchored.contexts anchored.clean
  · rw [State.held, State.held, State.parked, parked]
    exact List.Sublist.refl _
  · intro other held
    rw [State.vital, State.parked, parked] at held
    exact ⟨held, List.not_mem_nil⟩
  · intro other inside
    refine ⟨List.not_mem_nil, ?_⟩
    rcases mem_renewed inside with rfl | old
    · exact ⟨pending, member, same.parkingPromise.symm, same.operation.symm⟩
    · exact ⟨other, old, rfl, rfl⟩
  · exact fun _ _ => List.not_mem_nil

theorem Anchored.commandDone {context : CommandContext}
    (member : context ∈ state.activeCommandContexts) : Anchored (commandDoneStep state context) := by
  have fewer : ((Cells.delete CommandContext.sender context.sender state.activeCommandContexts).filterMap
      CommandContext.signals).Sublist (state.activeCommandContexts.filterMap CommandContext.signals) :=
    List.filter_sublist.filterMap _
  unfold commandDoneStep
  split
  · refine anchored.keep ((Keeps.refl [] state).of_eq rfl rfl) le_rfl anchored.old ?_ ?_ ?_
      (List.Sublist.refl _) ?_
      anchored.contexts anchored.clean
    · exact (fewer.append_right _).append_right _
    · intro other held
      refine ⟨?_, List.not_mem_nil⟩
      simp only [State.vital, List.mem_append] at held ⊢
      exact held.imp_left fun left => fewer.subset left
    · exact fun pending inside => ⟨List.not_mem_nil, pending, inside, rfl, rfl⟩
    · exact fun _ _ => List.not_mem_nil
  · rename_i promise target
    have signals : context.signals = some promise := by rw [CommandContext.signals, target]
    have inside : promise ∈ state.activeCommandContexts.filterMap CommandContext.signals :=
      List.mem_filterMap.mpr ⟨context, member, signals⟩
    have vital : promise ∈ state.vital := List.mem_append_left _ inside
    obtain ⟨call, owned, alive⟩ := anchored.vital promise vital
    have gone : promise ∉ (Cells.delete CommandContext.sender context.sender
        state.activeCommandContexts).filterMap CommandContext.signals :=
      Cells.not_mem_filterMap_delete anchored.nodup_parts.1 member signals
    refine anchored.release owned alive true rfl rfl rfl rfl ?_ ?_ ?_ (fun _ => id) (List.Sublist.refl _)
      anchored.contexts
    · exact (fewer.append_right _).append_right _
    · apply anchored.released
      have here := List.count_pos_iff.mpr inside
      have none := List.count_eq_zero.mpr gone
      change ((Cells.delete CommandContext.sender context.sender state.activeCommandContexts).filterMap
        CommandContext.signals ++ (state.activeWriteContexts.map WriteContext.promise ++
          state.storedWork.map StoredWork.promise) ++ state.parked).count promise < _
      rw [State.held, State.delegated]
      simp only [List.count_append]
      omega
    · intro other held
      simp only [State.vital, List.mem_append] at held ⊢
      exact held.imp_left fun left => fewer.subset left

theorem Anchored.answered (sender : Nat) : Anchored (state.answered sender) := by
  have same : (state.answered sender).activeCommandContexts.filterMap CommandContext.signals =
      state.activeCommandContexts.filterMap CommandContext.signals :=
    Cells.filterMap_write _ _ fun _ _ _ => rfl
  refine anchored.frame ((Keeps.refl [] state).of_eq rfl rfl) le_rfl anchored.old rfl ?_ ?_ rfl (fun _ => id)
    anchored.clean
  · rw [State.held, State.delegated_answered]
    rfl
  · rw [State.vital, same]
    exact fun _ member => member

/-- The writes may change except for their promises. -/
theorem Anchored.writeContexts (client : Nat)
    {update : WriteContext → WriteContext} (same : ∀ context, (update context).promise = context.promise) :
    Anchored { state with
      activeWriteContexts := Cells.write WriteContext.client client update state.activeWriteContexts } := by
  have promises : (Cells.write WriteContext.client client update state.activeWriteContexts).map
      WriteContext.promise = state.activeWriteContexts.map WriteContext.promise :=
    Cells.map_write _ _ fun context _ _ => same context
  refine anchored.frame ((Keeps.refl [] state).of_eq rfl rfl) le_rfl anchored.old rfl ?_ ?_ rfl (fun _ => id)
    anchored.clean
  · rw [State.held, State.delegated, promises]
    rfl
  · rw [State.vital, promises]
    exact fun _ member => member

theorem Anchored.vital_write {context : WriteContext} (member : context ∈ state.activeWriteContexts) :
    ∃ call, Owned state context.promise call ∧ state.alive (.call call) = true := by
  apply anchored.vital
  simp only [State.vital, List.mem_append]
  exact .inr (.inl (List.mem_map_of_mem member))

theorem Anchored.writeDone {context : WriteContext} (member : context ∈ state.activeWriteContexts) (value : Bool) :
    Anchored { state.setValue context.promise value with
      activeWriteContexts := Cells.delete WriteContext.client context.client
        state.activeWriteContexts } := by
  have fewer : ((Cells.delete WriteContext.client context.client state.activeWriteContexts).map
      WriteContext.promise).Sublist (state.activeWriteContexts.map WriteContext.promise) :=
    List.filter_sublist.map _
  have gone : context.promise ∉ (Cells.delete WriteContext.client context.client
      state.activeWriteContexts).map WriteContext.promise :=
    Cells.not_mem_map_delete anchored.nodup_parts.2.1 member
  obtain ⟨call, owned, alive⟩ := anchored.vital_write member
  refine anchored.release owned alive value rfl rfl rfl rfl ?_ ?_ ?_ (fun _ => id) (List.Sublist.refl _)
    anchored.contexts
  · exact ((fewer.append_right _).append_left _).append_right _
  · apply anchored.released
    have here := List.count_pos_iff.mpr (List.mem_map_of_mem (f := WriteContext.promise) member)
    have none := List.count_eq_zero.mpr gone
    change (state.activeCommandContexts.filterMap CommandContext.signals ++
      ((Cells.delete WriteContext.client context.client state.activeWriteContexts).map
        WriteContext.promise ++ state.storedWork.map StoredWork.promise) ++
          state.parked).count context.promise < _
    rw [State.held, State.delegated]
    simp only [List.count_append]
    omega
  · intro other held
    simp only [State.vital, List.mem_append] at held ⊢
    exact held.imp_right (Or.imp_left fun left => fewer.subset left)

omit anchored in
theorem State.touch_eq {owner : Owner} (alive : state.alive owner = true) : state.touch owner = state := by
  unfold touch
  rw [danglingAccess, if_pos alive, List.append_nil]

/-- The other works keep their stored contexts. -/
theorem Anchored.contexts_delete (member : work ∈ state.storedWork) (inside : promise ∈ state.storedContexts)
    (other : promise ≠ work.promise) :
    promise ∈ (Cells.delete StoredWork.id work.id state.storedWork).map StoredWork.promise := by
  obtain ⟨kept, stored, rfl⟩ := List.mem_map.mp (anchored.contexts promise inside)
  apply List.mem_map_of_mem
  rw [Cells.delete, List.mem_filter]
  refine ⟨stored, ?_⟩
  have different : kept.id ≠ work.id := fun same =>
    other (congrArg _ (List.inj_on_of_nodup_map anchored.workIds stored member same))
  simpa using different

omit anchored in
theorem State.vital_deleteWork {contexts : List Nat} (subset : ∀ promise ∈ contexts, promise ∈ state.storedContexts)
    (held : promise ∈ ({ state with
      storedWork := Cells.delete StoredWork.id work.id state.storedWork
      storedContexts := contexts } : State).vital) : promise ∈ state.vital := by
  simp only [vital, List.mem_append, List.mem_map, List.mem_filter] at held ⊢
  rcases held with command | write | parked | ⟨kept, ⟨stored, reads⟩, same⟩ | context
  · exact .inl command
  · exact .inr (.inl write)
  · exact .inr (.inr (.inl parked))
  · exact .inr (.inr (.inr (.inl ⟨kept, ⟨Cells.mem_of_mem_delete stored, reads⟩, same⟩)))
  · exact .inr (.inr (.inr (.inr (subset promise context))))

/-- Work without a stored context may leave. -/
theorem Anchored.removeWork (member : work ∈ state.storedWork) (invalid : work.promise ∉ state.storedContexts) :
    Anchored { state with storedWork := Cells.delete StoredWork.id work.id state.storedWork } := by
  have fewer : (Cells.delete StoredWork.id work.id state.storedWork).Sublist state.storedWork :=
    List.filter_sublist
  refine anchored.keep ((Keeps.refl [] state).of_eq rfl rfl) le_rfl anchored.old ?_ ?_ ?_ fewer ?_ ?_
    anchored.clean
  · exact (((fewer.map _).append_left _).append_left _).append_right _
  · intro promise held
    exact ⟨State.vital_deleteWork (fun _ => id) held, List.not_mem_nil⟩
  · exact fun pending inside => ⟨List.not_mem_nil, pending, inside, rfl, rfl⟩
  · exact fun _ _ => List.not_mem_nil
  · exact fun promise inside => anchored.contexts_delete member inside fun same =>
      invalid (same ▸ inside)

/-- The promise of finished work is set while its call lives. -/
theorem Anchored.finishWork
    (member : work ∈ state.storedWork) (alive : state.alive (.call work.call) = true) (value : Bool) :
    Anchored ((State.setValue { state with
      storedWork := Cells.delete StoredWork.id work.id state.storedWork } work.promise
        value).disassociate work.promise) := by
  have fewer : (Cells.delete StoredWork.id work.id state.storedWork).Sublist state.storedWork :=
    List.filter_sublist
  have gone : work.promise ∉ (Cells.delete StoredWork.id work.id state.storedWork).map
      StoredWork.promise := Cells.not_mem_map_delete anchored.nodup_parts.2.2.1 member
  refine anchored.release (anchored.works work member) alive value rfl rfl rfl rfl ?_ ?_ ?_ (fun _ => id)
    fewer ?_
  · exact (((fewer.map _).append_left _).append_left _).append_right _
  · apply anchored.released
    have here := List.count_pos_iff.mpr (List.mem_map_of_mem (f := StoredWork.promise) member)
    have none := List.count_eq_zero.mpr gone
    change (state.activeCommandContexts.filterMap CommandContext.signals ++
      (state.activeWriteContexts.map WriteContext.promise ++
        (Cells.delete StoredWork.id work.id state.storedWork).map StoredWork.promise) ++
          state.parked).count work.promise < _
    rw [State.held, State.delegated]
    simp only [List.count_append]
    omega
  · intro promise held
    exact State.vital_deleteWork (fun _ => List.mem_of_mem_filter) held
  · intro promise inside
    have kept := List.mem_filter.mp inside
    exact anchored.contexts_delete member kept.1 (by simpa using kept.2)

theorem Anchored.finishStored
    (member : work ∈ state.storedWork) (success : Bool) : Anchored (state.finishStored work success) := by
  have owned := anchored.works work member
  have completed (value : Bool) : Anchored (State.onDeviceWorkCompleted { state with
      storedWork := Cells.delete StoredWork.id work.id state.storedWork } work.promise value) := by
    unfold State.onDeviceWorkCompleted
    split
    · rename_i inside
      have vital : work.promise ∈ state.vital := by
        simp only [State.vital, List.mem_append]
        exact .inr (.inr (.inr (.inr inside)))
      exact anchored.finishWork member (anchored.vital_of_owned vital owned) value
    · rename_i invalid
      exact anchored.removeWork member invalid
  have living (reads : work.kind.reads = true) : state.alive (.call work.call) = true := by
    apply anchored.vital_of_owned _ owned
    simp only [State.vital, List.mem_append]
    exact .inr (.inr (.inr (.inl (List.mem_map_of_mem (List.mem_filter.mpr ⟨member, reads⟩)))))
  have touched (reads : work.kind.reads = true) : State.touch { state with
      storedWork := Cells.delete StoredWork.id work.id state.storedWork } (.call work.call) =
        { state with storedWork := Cells.delete StoredWork.id work.id state.storedWork } :=
    State.touch_eq (living reads)
  unfold State.finishStored
  dsimp only
  split
  · rename_i kind
    split
    · rw [touched (by rw [kind]; rfl)]
      exact completed success
    · exact completed success
  · rename_i kind
    split
    · rw [touched (by rw [kind]; rfl)]
      exact completed true
    · exact anchored.finishWork member (living (by rw [kind]; rfl)) false
  · exact completed success
  · exact completed success

end Release

section Actions
variable {state : State} {call : Nat} {actions : List Action}

/-- The living call of the step. -/
structure Hosted (call : Nat) (state : State) : Prop where
  anchored : Anchored state
  alive : state.alive (.call call) = true

theorem Hosted.emplaceFront (hosted : Hosted call state) (value : Option Bool) :
    Hosted call (state.emplaceFront call value) :=
  ⟨hosted.anchored.emplaceFront call value, (Keeps.emplaceFront state call value).alive hosted.alive⟩

theorem Hosted.touch (hosted : Hosted call state) : Hosted call (state.touch (.call call)) := by
  rw [State.touch_eq hosted.alive]
  exact hosted

/-- The new promise of the call is not held yet. -/
theorem Hosted.fresh (hosted : Hosted call state) : state.nextAddress ∉ (state.emplaceFront call none).held :=
  hosted.anchored.fresh

theorem Hosted.emplaced (hosted : Hosted call state) : Owned (state.emplaceFront call none) state.nextAddress call :=
  hosted.anchored.emplaced hosted.alive (by simp)

theorem Hosted.parkOperation (hosted : Hosted call state) {request : Request}
    (own : request.operation.call = call) : Hosted call (state.parkOperation request) := by
  subst own
  have emplaced := hosted.emplaceFront none
  have renumbered : Hosted request.operation.call { state.emplaceFront request.operation.call none with
      nextPendingId := (state.nextPendingId + 1) % 2 ^ 64 } :=
    ⟨emplaced.anchored.frame ((Keeps.refl [] _).of_eq rfl rfl) le_rfl emplaced.anchored.old rfl rfl
      (fun _ => id) rfl (fun _ => id) emplaced.anchored.clean, emplaced.alive⟩
  have registered : Anchored { state.emplaceFront request.operation.call none with
      nextPendingId := (state.nextPendingId + 1) % 2 ^ 64
      pendingOperations := state.pendingOperations ++
        [request.pendingOperation state.nextPendingId state.nextAddress]
      parkings := state.parkings ++ [state.nextAddress] } :=
    emplaced.anchored.register hosted.emplaced emplaced.alive hosted.fresh _ _
  unfold State.parkOperation
  dsimp only
  split
  · exact renumbered.emplaceFront (some false)
  · split
    · exact ⟨registered.addCommand_deferred _, emplaced.alive⟩
    · refine ⟨registered.complete _ false, ?_⟩
      rw [State.alive, State.call, (State.completePendingOperation_frame _ _ _).1]
      exact emplaced.alive

/-- These effects of a call before parking keep it hosted. -/
def Action.hosted (call : Nat) : Action → Bool
  | .chainedCommand => false
  | .chainedWrite => false
  | .rearm _ => false
  | .complete _ _ => false
  | .park request => request.operation.call = call
  | _ => true

theorem Hosted.perform (hosted : Hosted call state) {action : Action} (allowed : action.hosted call = true) :
    Hosted call (state.perform call action) := by
  have emplaced := hosted.emplaceFront none
  cases action with
  | invoke handler arguments => exact hosted
  | writeSlot slot text => exact hosted.touch
  | failOperation => exact hosted.emplaceFront (some false)
  | readyPromise => exact hosted.emplaceFront (some true)
  | sendCommand sent =>
      cases sent with
      | true =>
          exact ⟨emplaced.anchored.addCommand_promise hosted.emplaced emplaced.alive hosted.fresh,
            emplaced.alive⟩
      | false => exact hosted.emplaceFront (some false)
  | sendWrite sent =>
      cases sent with
      | true =>
          exact ⟨emplaced.anchored.addWrite hosted.emplaced emplaced.alive hosted.fresh, emplaced.alive⟩
      | false => exact hosted.emplaceFront (some false)
  | park request => exact hosted.parkOperation (by simpa [Action.hosted] using allowed)
  | _ => contradiction

/-- The log does not matter. -/
theorem Anchored.logged (anchored : Anchored state) (log : List Event) : Anchored { state with log := log } :=
  anchored.frame ((Keeps.refl [] state).of_eq rfl rfl) le_rfl anchored.old rfl rfl (fun _ => id) rfl
    (fun _ => id) anchored.clean

theorem Hosted.recordAll (hosted : Hosted call state) (now : Nat)
    (each : ∀ action ∈ actions, action.hosted call = true) :
    Hosted call (state.recordAll now call actions) := by
  induction actions generalizing state with
  | nil => exact hosted
  | cons action rest ih =>
      have performed := hosted.perform (each action List.mem_cons_self)
      apply ih
      · exact ⟨performed.anchored.logged _, performed.alive⟩
      · exact fun other member => each other (List.mem_cons_of_mem _ member)

theorem Hosted.startStored (hosted : Hosted call state) (kind : StoredKind) (answer : State.ServerAnswer) :
    Hosted call (state.startStored call kind answer) := by
  have emplaced := hosted.emplaceFront none
  cases answer with
  | missing =>
      rw [State.startStored]
      split
      · exact hosted
      · exact hosted.emplaceFront (some false)
  | refused =>
      have subset : ∀ promise ∈ (state.storedContexts ++ [state.nextAddress]).filter
          (· != state.nextAddress), promise ∈ state.storedContexts := by
        intro promise member
        have kept := List.mem_filter.mp member
        rcases List.mem_append.mp kept.1 with old | new
        · exact old
        · rw [List.mem_singleton.mp new] at kept
          simp at kept
      refine ⟨emplaced.anchored.frame ((Keeps.setFalse _ state.nextAddress).of_eq rfl rfl) le_rfl
        (emplaced.anchored.setValue_old state.nextAddress false) rfl rfl ?_ rfl subset ?_, emplaced.alive⟩
      · intro promise held
        simp only [State.vital, List.mem_append] at held ⊢
        exact held.imp_right (Or.imp_right (Or.imp_right (Or.imp_right (subset promise))))
      · exact hosted.emplaced.setValue_clean emplaced.alive emplaced.anchored.clean false
  | accepted =>
      exact ⟨emplaced.anchored.store ⟨state.nextAddress + 1, kind, state.nextAddress, call⟩
        hosted.emplaced emplaced.alive hosted.fresh rfl, emplaced.alive⟩

theorem Action.hosted_of_direct {action : Action} (direct : action.direct = true) : action.hosted call = true := by
  cases action with
  | invoke | chainedCommand | chainedWrite | park | rearm | complete => contradiction
  | _ => rfl

theorem Begins.hosted {now index : Nat} {operation : Operation} {script : Script}
    (begins : Begins now operation script index actions) :
    ∀ action ∈ actions, action.hosted operation.call = true := by
  induction begins with
  | direct each => exact fun action member => Action.hosted_of_direct (each action member)
  | park same later requests => simp [Action.hosted, same]
  | fail invokes => simp [Action.hosted]
  | invoke invokes rest ih => simpa [Action.hosted] using ih

theorem handleResourceOp_hosted {defaultTimeoutMs : Option UInt32} {now fuel : Nat}
    {operation : Operation} {script : Script} {opType : String} {handler : ResourceHandler}
    (handled : handleResourceOp defaultTimeoutMs now operation script fuel opType handler = some actions) :
    ∀ action ∈ actions, action.hosted operation.call = true := by
  rcases handleResourceOp_begins handled with direct | ⟨function, arguments, rest, rfl, rfl, begins⟩
  · exact fun action member => Action.hosted_of_direct (direct action member)
  · simpa [Action.hosted] using begins.hosted

end Actions

section Answers
variable {pending : PendingOperation} {script : Script} {actions : List Action}

/-- The first result that is not a cached read sends a chained command or a chained write. -/
def chains (script : Script) : Nat → Nat → Bool
  | 0, index => (script index).dispatches
  | bound + 1, index => (script index).dispatches ||
      ((script index).reads && chains script bound (index + 1))

theorem chains_dispatches {bound index : Nat} (calm : chains script bound index = false) :
    (script index).dispatches = false := by
  cases bound with
  | zero => exact calm
  | succ bound =>
      rw [chains, Bool.or_eq_false_iff] at calm
      exact calm.1

/-- Without a chained dispatch, an answer runs handlers and writes slots before it closes the operation. -/
theorem Ends.calm {index bound : Nat} (ends : Ends script index pending actions)
    (enough : maxDeferralDepth ≤ pending.deferralDepth + bound)
    (calm : chains script bound index = false) :
    .chainedCommand ∉ actions ∧ .chainedWrite ∉ actions := by
  induction ends generalizing bound with
  | complete success each =>
      constructor
      · intro member
        rcases List.mem_append.mp member with inside | last
        · obtain ⟨slot, text, same⟩ := each _ inside
          contradiction
        · simp at last
      · intro member
        rcases List.mem_append.mp member with inside | last
        · obtain ⟨slot, text, same⟩ := each _ inside
          contradiction
        · simp at last
  | rearm | fail => simp
  | dispatch chained taken each =>
      rw [chains_dispatches calm] at taken
      contradiction
  | invoke room reads cached rest ih =>
      cases bound with
      | zero => exact absurd enough (Nat.not_le_of_lt room)
      | succ bound =>
          rw [chains, Bool.or_eq_false_iff, reads, Bool.true_and] at calm
          have later := ih (by change _ ≤ _ + 1 + bound; omega) calm.2
          simpa using later

theorem Answers.calm (answers : Answers script pending actions) (calm : chains script maxDeferralDepth 0 = false) :
    .chainedCommand ∉ actions ∧ .chainedWrite ∉ actions := by
  cases answers with
  | refuse => simp
  | fail answers => simp
  | proceed answers rest => simpa using rest.calm (Nat.le_add_left _ _) calm

/-- A calm answer keeps the owners alive. -/
theorem Anchored.answer {state : State} (anchored : Anchored state) (member : pending ∈ state.pendingOperations)
    (unique : ∀ other ∈ state.pendingOperations, other.id = pending.id → other = pending)
    (answers : Answers script pending actions) (calm : chains script maxDeferralDepth 0 = false)
    (now : Nat) : Anchored (state.recordAll now pending.operation.call actions) := by
  have alive := anchored.vital_of_owned (State.mem_vital_of_parked (List.mem_map_of_mem member))
    (anchored.pendings pending member)
  have dispatched := answers.calm calm
  obtain ⟨quiets, last, rfl, each, closing⟩ := answers.closes
  have hosted : Hosted pending.operation.call (state.recordAll now pending.operation.call quiets) := by
    apply Hosted.recordAll ⟨anchored, alive⟩
    intro action inside
    have quiet := each action inside
    cases action with
    | invoke | writeSlot => rfl
    | chainedCommand => exact absurd (List.mem_append_left _ inside) dispatched.1
    | chainedWrite => exact absurd (List.mem_append_left _ inside) dispatched.2
    | _ => contradiction
  have kept := state.recordAll_pendingOperations now pending.operation.call fun action inside =>
    Action.keeps_of_quiet (each action inside)
  rw [State.recordAll_append]
  cases closing with
  | complete success => exact (hosted.anchored.complete _ success).logged _
  | rearm same =>
      have renewed := hosted.anchored.rearm (kept ▸ member)
        (fun other inside equal => unique other (kept ▸ inside) (equal.trans same.id)) same
      exact (renewed.addCommand_deferred _).logged _

end Answers

section Return
variable {state : State}

/-- The call owns the promise. -/
def State.ownedBy (state : State) (call promise : Nat) : Bool :=
  (state.promise promise).any fun cell => cell.owner = .call call

/-- A callback will still access a promise or a slot of the call. -/
def State.outstanding (state : State) (call : Nat) : Bool := state.vital.any (state.ownedBy call)

theorem State.not_owned_of_not_outstanding {call promise : Nat} (done : state.outstanding call = false)
    (member : promise ∈ state.vital) : ¬Owned state promise call := by
  intro owned
  obtain ⟨cell, read, owner, _⟩ := owned.unset
  have clear := List.any_eq_false.mp done promise member
  simp [ownedBy, read, owner] at clear

/-- A call returns when no callback will access its promises and slots. -/
theorem Anchored.return (anchored : Anchored state) {id : Nat} (success : Bool)
    (free : ∀ promise ∈ state.vital, ¬Owned state promise id) :
    Anchored (state.setPhase id (.returned success)) := by
  have owned {promise call : Nat} (owned : Owned state promise call) :
      Owned (state.setPhase id (.returned success)) promise call := by
    refine ⟨owned.unset, ?_⟩
    obtain ⟨caller, read, listed⟩ := owned.listed
    by_cases same : call = id
    · subst same
      refine ⟨{ caller with phase := .returned success }, ?_, listed⟩
      have found : Cells.read Call.id call state.calls = some caller := read
      change Cells.read Call.id call (Cells.write Call.id call _ state.calls) = _
      rw [Cells.read_write]
      · rw [found]
        rfl
      · exact fun _ => rfl
    · refine ⟨caller, ?_, listed⟩
      change Cells.read Call.id call (Cells.write Call.id id _ state.calls) = _
      rw [Cells.read_write_of_ne]
      · exact read
      · exact fun _ => rfl
      · exact same
  constructor
  · exact anchored.old
  · exact anchored.distinct
  · intro promise member
    obtain ⟨call, owns, alive⟩ := anchored.vital promise member
    refine ⟨call, owned owns, ?_⟩
    have other : call ≠ id := fun same => free promise member (same ▸ owns)
    obtain ⟨caller, read, running⟩ := State.alive_iff.mp alive
    apply State.alive_iff.mpr
    refine ⟨caller, ?_, running⟩
    change Cells.read Call.id call (Cells.write Call.id id _ state.calls) = _
    rw [Cells.read_write_of_ne]
    · exact read
    · exact fun _ => rfl
    · exact other
  · exact fun pending member => owned (anchored.pendings pending member)
  · exact fun work member => owned (anchored.works work member)
  · exact anchored.workIds
  · exact anchored.workOld
  · exact anchored.contexts
  · exact anchored.clean

/-- When every promise of the call holds, no callback will access one of them. -/
theorem not_owned_of_holds {call : Call} (found : state.call call.id = some call)
    (all : call.promises.all state.holds = true) (promise : Nat) : ¬Owned state promise call.id := by
  intro owned
  obtain ⟨caller, read, listed⟩ := owned.listed
  rw [found] at read
  cases read
  obtain ⟨cell, known, _, unset⟩ := owned.unset
  have holds := List.all_eq_true.mp all promise listed
  rw [State.holds, known] at holds
  exact unset (by simpa using holds)

theorem Anchored.invalidate (anchored : Anchored state) (call : Call) : Anchored (state.invalidate call) := by
  refine anchored.frame ((Keeps.refl [] state).of_eq rfl rfl) le_rfl anchored.old rfl rfl ?_ rfl
    (fun _ => List.mem_of_mem_filter) anchored.clean
  intro promise held
  simp only [State.vital, State.invalidate, List.mem_append] at held ⊢
  exact held.imp_right (Or.imp_right (Or.imp_right (Or.imp_right List.mem_of_mem_filter)))

end Return

/-- No answer sends a chained command or a chained write, and a call that returns without success has
nothing outstanding. -/
def State.orderly (state : State) : Input → Bool
  | .commandAnswer _ _ _ script _ => !chains script maxDeferralDepth 0
  | .abortConnection id => !state.outstanding id
  | .finishWaiting id => (state.call id).all fun call =>
      if call.connected = some true then
        call.promises.all state.holds || !(state.invalidate call).outstanding id
      else !state.outstanding id
  | _ => true

theorem Anchored.finishWaiting {state : State} (anchored : Anchored state) {call : Call}
    (found : state.call call.id = some call)
    (orderly : state.orderly (.finishWaiting call.id) = true) : Anchored (finishWaitingStep state call) := by
  rw [State.orderly, found] at orderly
  unfold finishWaitingStep
  split
  · rename_i connected
    apply (anchored.invalidate call).return
    intro promise member owned
    rw [Option.all_some, if_pos connected, Bool.or_eq_true] at orderly
    rcases orderly with holds | done
    · exact not_owned_of_holds found holds promise ⟨owned.unset, owned.listed⟩
    · rw [Bool.not_eq_true'] at done
      exact State.not_owned_of_not_outstanding done member owned
  · rename_i unconnected
    apply anchored.return
    intro promise member
    rw [Option.all_some, if_neg unconnected, Bool.not_eq_true'] at orderly
    exact State.not_owned_of_not_outstanding orderly member

/-- Every orderly step keeps the owners alive. -/
theorem Anchored.step {defaultTimeoutMs : Option UInt32} {state next : State} {input : Input}
    (booked : Booked [] state) (anchored : Anchored state) (orderly : state.orderly input = true)
    (stepped : step defaultTimeoutMs state input = some next) : Anchored next := by
  cases step_stepped stepped with
  | start work =>
      refine anchored.frame ⟨fun _ _ cell read unset => ⟨cell, read, rfl, unset⟩, ?_⟩ (Nat.le_succ _) ?_ rfl
        rfl (fun _ => id) rfl (fun _ => id) anchored.clean
      · exact fun _ caller read => ⟨caller, Cells.read_append read _, rfl, fun _ => id⟩
      · exact fun cell member => Nat.lt_succ_of_lt (anchored.old cell member)
  | connectedResource found unconnected running handled =>
      have alive := State.alive_iff.mpr ⟨_, found, running⟩
      rename_i now _ _ _ _ _ _ _
      have hosted := Hosted.recordAll ⟨anchored, alive⟩ now (handleResourceOp_hosted handled)
      exact hosted.anchored.setConnected true hosted.alive
  | connectedStored found unconnected running =>
      have alive := State.alive_iff.mpr ⟨_, found, running⟩
      rename_i server call kind
      have hosted := Hosted.startStored ⟨anchored, alive⟩ kind server
      exact hosted.anchored.setConnected true hosted.alive
  | connectionFailed found unconnected running =>
      exact anchored.setConnected false (State.alive_iff.mpr ⟨_, found, running⟩)
  | connectionTimeout found waiting =>
      refine anchored.frame (Keeps.writeCall state rfl rfl (fun _ => rfl) ?_ fun _ _ member => member) le_rfl
        anchored.old rfl rfl (fun _ member => member) rfl (fun _ member => member) anchored.clean
      intro other read
      rw [found] at read
      cases read
      rw [waiting]
      rfl
  | abortConnection found aborting =>
      apply anchored.return
      intro promise member
      rw [State.orderly, Bool.not_eq_true'] at orderly
      exact State.not_owned_of_not_outstanding orderly member
  | finishWaiting found connected waiting => exact anchored.finishWaiting found orderly
  | deferredAnswer found unanswered target known handled =>
      rw [State.orderly, Bool.not_eq_true'] at orderly
      exact (anchored.answered _).answer (Cells.read_mem known)
        (fun other member same => booked.known_unique known member same)
        (handleDeferredAnswer_answers handled) orderly _
  | unknownAnswer | commandResponse => exact anchored.answered _
  | commandError found unanswered target =>
      rename_i context promise
      have vital : promise ∈ state.vital := by
        apply List.mem_append_left
        exact List.mem_filterMap.mpr ⟨context, Cells.read_mem found, by rw [CommandContext.signals, target]⟩
      obtain ⟨call, owned, alive⟩ := anchored.vital promise vital
      exact (anchored.answered _).setFalse ⟨owned.unset, owned.listed⟩ alive
  | commandDone found answered => exact anchored.commandDone (Cells.read_mem found)
  | writeResponse success found => exact anchored.writeContexts _ fun _ => rfl
  | writeError found unfailed =>
      obtain ⟨call, owned, alive⟩ := anchored.vital_write (Cells.read_mem found)
      exact (anchored.setFalse owned alive).writeContexts _ fun _ => rfl
  | writeDone found => exact anchored.writeDone (Cells.read_mem found) _
  | storedDone success found => exact anchored.finishStored (Cells.read_mem found) success

/-- In every orderly run, no step accesses a promise or a slot whose owner is gone, and every promise
in a table has an owner that is alive. -/
theorem run_lifetime {defaultTimeoutMs : Option UInt32} {inputs : List Input} {final : State}
    (orderly : Runs.Guarded (step defaultTimeoutMs) (fun state input => state.orderly input = true)
      State.initial inputs)
    (reached : run defaultTimeoutMs State.initial inputs = some final) :
    final.dangling = [] ∧
      ∀ promise, promise ∈ final.activeCommandContexts.filterMap CommandContext.signals ∨
          promise ∈ final.activeWriteContexts.map WriteContext.promise ∨
          promise ∈ final.pendingOperations.map PendingOperation.parkingPromise ∨
          promise ∈ final.storedContexts →
        ∃ cell, final.promise promise = some cell ∧ final.alive cell.owner = true := by
  obtain ⟨booked, anchored⟩ := orderly.invariant _ (fun state => Booked [] state ∧ Anchored state)
    (fun _ _ _ ⟨booked, anchored⟩ orderly stepped =>
      ⟨booked.step stepped, anchored.step booked orderly stepped⟩)
    ⟨Booked.initial, Anchored.initial⟩ reached
  refine ⟨anchored.clean, ?_⟩
  intro promise member
  have vital : promise ∈ final.vital := by
    simp only [State.vital, State.parked, List.mem_append]
    tauto
  obtain ⟨call, owned, alive⟩ := anchored.vital promise vital
  obtain ⟨cell, read, owner, _⟩ := owned.unset
  exact ⟨cell, read, owner ▸ alive⟩

/-- A deferred execution ends before its caller returns, and so does a failed command. -/
def orderlyInputs : List Input :=
  [.start (.resource "execute"), .start (.stored .rssiRead),
    .connected 0 0 requestScript 0 (.handler 0) .missing,
    .connected 1 5 requestScript 0 .deviceMissing .accepted,
    .commandAnswer 3 10 (.ok ⟨6, 0, ""⟩) requestScript 0, .commandDone 3,
    .commandAnswer 6 20 (.ok ⟨6, 0, ""⟩) successScript 0, .finishWaiting 0, .commandDone 6,
    .storedDone 5 true, .finishWaiting 1]

theorem run_lifetime_orderly : ∃ final, run none State.initial orderlyInputs = some final ∧
    final.sets = [2, 4] ∧ final.dangling = [] := by
  have computed : (run none State.initial orderlyInputs).map (·.sets) = some [2, 4] := by decide
  have orderly : Runs.Guarded (step none) (fun state input => state.orderly input = true) State.initial
      orderlyInputs := by decide
  obtain ⟨final, reached, sets⟩ := Option.map_eq_some_iff.mp computed
  exact ⟨final, reached, sets, (run_lifetime orderly reached).1⟩

/-- The command of this script is not deferred. -/
def commandScript : Script := fun _ => ⟨some (.sendCommand ⟨6, 0, "", none, none⟩ ""), sampleDevice⟩

/-- The command fails, its caller returns, and the last callback of the command comes later. -/
def failedCommandInputs : List Input :=
  [.start (.resource "execute"), .connected 0 0 commandScript 0 (.handler 0) .missing,
    .commandAnswer 2 10 (.error ⟨"busy", 5⟩) commandScript 0, .finishWaiting 0, .commandDone 2]

/-- The connection times out while the callback starts the command, and the caller returns before the answer. -/
def abortedCommandInputs : List Input :=
  [.start (.resource "execute"), .connectionTimeout 0, .connected 0 0 commandScript 0 (.handler 0) .missing,
    .abortConnection 0, .commandAnswer 2 10 (.ok ⟨6, 0, ""⟩) commandScript 0, .commandDone 2]

/-- A deferred chain sends a chained command, whose last callback comes later. -/
def chainedCommandInputs : List Input :=
  [.start (.resource "execute"), .connected 0 0 requestScript 0 (.handler 0) .missing,
    .commandAnswer 2 10 (.ok ⟨6, 0, ""⟩) commandScript 0,
    .commandAnswer 4 20 (.ok ⟨6, 0, ""⟩) commandScript 0, .commandDone 4]

/-- The last callback of a failed command sets a promise of a caller that has returned, and so does the last callback
of a command whose connection was aborted. The last callback of a chained command sets a promise of a destroyed
list. -/
theorem not_run_lifetime : (run none State.initial failedCommandInputs).map (·.dangling) = some [.call 0] ∧
      (run none State.initial abortedCommandInputs).map (·.dangling) = some [.call 0] ∧
      (run none State.initial chainedCommandInputs).map (·.dangling) = some [.temporary] := by
  decide

end Barton.Sbmd
