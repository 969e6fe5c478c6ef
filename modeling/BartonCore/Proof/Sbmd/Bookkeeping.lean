import BartonCore.Proof.Sbmd.Steps

namespace Barton.Sbmd

/-- A deferred command that has no answer yet is in flight for its operation. -/
def CommandContext.awaits (context : CommandContext) : Option Nat :=
  match context.target with
  | .deferred pendingId => if context.answered then none else some pendingId
  | .promise _ => none

/-- A command that is not deferred signals a promise. -/
def CommandContext.signals (context : CommandContext) : Option Nat :=
  match context.target with
  | .deferred _ => none
  | .promise promise => some promise

namespace State

/-- The promises of the pending operations. -/
def parked (state : State) : List Nat := state.pendingOperations.map PendingOperation.parkingPromise

/-- The promises of the commands, the writes, and the stored work with the SDK. -/
def delegated (state : State) : List Nat :=
  state.activeCommandContexts.filterMap CommandContext.signals ++
    (state.activeWriteContexts.map WriteContext.promise ++ state.storedWork.map StoredWork.promise)

end State

/-- Each pending operation is open or has one command in flight. -/
structure Flights (opened : List Nat) (pendings : List PendingOperation) (contexts : List CommandContext)
    (bound : Nat) : Prop where
  ids : (pendings.map PendingOperation.id).Nodup
  matched : (opened ++ contexts.filterMap CommandContext.awaits).Perm (pendings.map PendingOperation.id)
  senders : (contexts.map CommandContext.sender).Nodup
  old : ∀ context ∈ contexts, context.sender < bound

theorem Flights.mono {opened : List Nat} {pendings : List PendingOperation}
    {contexts : List CommandContext} {bound later : Nat} (flights : Flights opened pendings contexts bound)
    (within : bound ≤ later) : Flights opened pendings contexts later where
  ids := flights.ids
  matched := flights.matched
  senders := flights.senders
  old := fun context member => Nat.lt_of_lt_of_le (flights.old context member) within

section Flights
variable {opened : List Nat} {pendings : List PendingOperation} {contexts : List CommandContext}
  {bound : Nat}

theorem Flights.append (flights : Flights opened pendings contexts bound) {target : Target}
    {kept : List Nat} (matched : (kept ++ (contexts ++ [(⟨bound, target, false⟩ : CommandContext)]).filterMap
      CommandContext.awaits).Perm (pendings.map PendingOperation.id)) :
    Flights kept pendings (contexts ++ [⟨bound, target, false⟩]) (bound + 1) where
  ids := flights.ids
  matched := matched
  senders := Cells.nodup_append_fresh flights.senders fun context inside =>
    Nat.ne_of_lt (flights.old context inside)
  old := by
    intro context member
    rcases List.mem_append.mp member with inside | single
    · exact Nat.lt_succ_of_lt (flights.old context inside)
    · rw [List.mem_singleton.mp single]
      exact Nat.lt_succ_self bound

/-- A command that signals a promise is not in flight for an operation. -/
theorem Flights.addPlain (flights : Flights opened pendings contexts bound) (promise : Nat) :
    Flights opened pendings (contexts ++ [⟨bound, .promise promise, false⟩]) (bound + 1) := by
  apply flights.append
  rw [List.filterMap_append, List.filterMap_cons_none rfl, List.filterMap_nil, List.append_nil]
  exact flights.matched

/-- A deferred command closes its operation. -/
theorem Flights.addDeferred {id : Nat} (flights : Flights (id :: opened) pendings contexts bound) :
    Flights opened pendings (contexts ++ [⟨bound, .deferred id, false⟩]) (bound + 1) := by
  apply flights.append
  have awaited : (⟨bound, .deferred id, false⟩ : CommandContext).awaits = some id := rfl
  rw [List.filterMap_append, List.filterMap_cons_some awaited, List.filterMap_nil, ← List.append_assoc]
  exact (List.perm_append_singleton id _).trans flights.matched

/-- A new operation is open. -/
theorem Flights.register (flights : Flights opened pendings contexts bound) {pending : PendingOperation}
    (absent : ∀ other ∈ pendings, other.id ≠ pending.id) :
    Flights (pending.id :: opened) (pendings ++ [pending]) contexts bound where
  ids := Cells.nodup_append_fresh flights.ids absent
  matched := by
    rw [List.map_append, List.map_singleton, List.cons_append]
    exact (flights.matched.cons pending.id).trans (List.perm_append_singleton _ _).symm
  senders := flights.senders
  old := flights.old

/-- An open operation is registered. -/
theorem Flights.mem_ids {id : Nat} (flights : Flights (id :: opened) pendings contexts bound) :
    id ∈ pendings.map PendingOperation.id :=
  flights.matched.subset List.mem_cons_self

/-- A completed operation is not open. -/
theorem Flights.remove {before after : List PendingOperation} {pending : PendingOperation}
    (flights : Flights (pending.id :: opened) (before ++ pending :: after) contexts bound) :
    Flights opened (before ++ after) contexts bound where
  ids := Cells.nodup_remove flights.ids
  matched := by
    have matched := flights.matched
    rw [List.map_append, List.map_cons, List.cons_append] at matched
    rw [List.map_append]
    exact (matched.trans List.perm_middle).cons_inv
  senders := flights.senders
  old := flights.old

/-- A deferral keeps the id of its entry. -/
theorem Flights.replace {before after : List PendingOperation} {pending next : PendingOperation}
    (flights : Flights opened (before ++ pending :: after) contexts bound) (same : next.id = pending.id) :
    Flights opened (before ++ next :: after) contexts bound where
  ids := by
    have ids := flights.ids
    rw [List.map_append, List.map_cons] at ids ⊢
    rwa [same]
  matched := by
    have matched := flights.matched
    rw [List.map_append, List.map_cons] at matched ⊢
    rwa [same]
  senders := flights.senders
  old := flights.old

/-- The answer of a command that is in flight opens its operation. -/
theorem Flights.answer {before after : List CommandContext} {context : CommandContext}
    (flights : Flights opened pendings (before ++ context :: after) bound) :
    Flights (context.awaits.toList ++ opened) pendings
      (before ++ { context with answered := true } :: after) bound where
  ids := flights.ids
  matched := by
    have silent : ({ context with answered := true } : CommandContext).awaits = none := by
      unfold CommandContext.awaits
      split
      · rfl
      · rfl
    have matched := flights.matched
    rw [List.filterMap_append] at matched ⊢
    rw [List.filterMap_cons_none silent]
    cases awaited : context.awaits with
    | none => rwa [List.filterMap_cons_none awaited] at matched
    | some id =>
        rw [List.filterMap_cons_some awaited, ← List.append_assoc] at matched
        rw [Option.toList_some, List.cons_append, List.nil_append, List.cons_append, ← List.append_assoc]
        exact List.perm_middle.symm.trans matched
  senders := by
    have senders := flights.senders
    rw [List.map_append, List.map_cons] at senders ⊢
    exact senders
  old := by
    intro other member
    rw [List.mem_append, List.mem_cons] at member
    rcases member with left | rfl | right
    · exact flights.old other (List.mem_append_left _ left)
    · exact flights.old context (List.mem_append_right _ List.mem_cons_self)
    · exact flights.old other (List.mem_append_right _ (List.mem_cons_of_mem _ right))

/-- The last callback of a command that is not in flight changes no operation. -/
theorem Flights.forget {before after : List CommandContext} {context : CommandContext}
    (flights : Flights opened pendings (before ++ context :: after) bound)
    (silent : context.awaits = none) : Flights opened pendings (before ++ after) bound where
  ids := flights.ids
  matched := by
    have matched := flights.matched
    rwa [List.filterMap_append, List.filterMap_cons_none silent, ← List.filterMap_append] at matched
  senders := Cells.nodup_remove flights.senders
  old := fun other member => flights.old other (Cells.mem_of_mem_remove member)

end Flights

/-- Each parking promise is set when its operation is no longer pending. -/
structure Settled (parked sets parkings : List Nat) (bound : Nat) : Prop where
  distinct : parked.Nodup
  registered : ∀ promise ∈ parked, promise ∈ parkings
  known : ∀ promise ∈ parkings, promise < bound
  signaled : ∀ promise ∈ sets, promise < bound
  once : ∀ promise ∈ parkings, sets.count promise = if promise ∈ parked then 0 else 1

section Settled
variable {parked sets parkings : List Nat} {bound : Nat}

theorem Settled.mono {later : Nat} (settled : Settled parked sets parkings bound)
    (within : bound ≤ later) : Settled parked sets parkings later where
  distinct := settled.distinct
  registered := settled.registered
  known := fun promise member => Nat.lt_of_lt_of_le (settled.known promise member) within
  signaled := fun promise member => Nat.lt_of_lt_of_le (settled.signaled promise member) within
  once := settled.once

/-- Another promise does not count. -/
theorem Settled.signal (settled : Settled parked sets parkings bound) {promise : Nat}
    (old : promise < bound) (other : promise ∉ parkings) :
    Settled parked (sets ++ [promise]) parkings bound where
  distinct := settled.distinct
  registered := settled.registered
  known := settled.known
  signaled := by
    intro set member
    rcases List.mem_append.mp member with before | now
    · exact settled.signaled set before
    · rwa [List.mem_singleton.mp now]
  once := by
    intro parking member
    have different : promise ≠ parking := fun same => other (same ▸ member)
    rw [List.count_append, List.count_singleton, if_neg (by simpa using different), Nat.add_zero]
    exact settled.once parking member

/-- A new parking promise is not set. -/
theorem Settled.register (settled : Settled parked sets parkings bound) :
    Settled (parked ++ [bound]) sets (parkings ++ [bound]) (bound + 1) where
  distinct := by
    have absent : bound ∉ parked := fun member =>
      Nat.lt_irrefl _ (settled.known bound (settled.registered bound member))
    simpa using settled.distinct.concat absent
  registered := by
    intro promise member
    rcases List.mem_append.mp member with old | new
    · exact List.mem_append_left _ (settled.registered promise old)
    · exact List.mem_append_right _ new
  known := by
    intro promise member
    rcases List.mem_append.mp member with old | new
    · exact Nat.lt_succ_of_lt (settled.known promise old)
    · rw [List.mem_singleton.mp new]
      exact Nat.lt_succ_self bound
  signaled := fun promise member => Nat.lt_succ_of_lt (settled.signaled promise member)
  once := by
    intro promise member
    rcases List.mem_append.mp member with old | new
    · have different : promise ≠ bound := Nat.ne_of_lt (settled.known promise old)
      simpa [different] using settled.once promise old
    · have unset : bound ∉ sets := fun set => Nat.lt_irrefl _ (settled.signaled bound set)
      rw [List.mem_singleton.mp new, List.count_eq_zero.mpr unset]
      simp

/-- The completion of an operation sets its promise. -/
theorem Settled.complete {before after : List Nat} {promise : Nat}
    (settled : Settled (before ++ promise :: after) sets parkings bound) :
    Settled (before ++ after) (sets ++ [promise]) parkings bound where
  distinct := (List.nodup_cons.mp (List.nodup_middle.mp settled.distinct)).2
  registered := fun other member => settled.registered other (Cells.mem_of_mem_remove member)
  known := settled.known
  signaled := by
    intro set member
    rcases List.mem_append.mp member with old | now
    · exact settled.signaled set old
    · rw [List.mem_singleton.mp now]
      exact settled.known promise (settled.registered promise (by simp))
  once := by
    intro other member
    have absent : promise ∉ before ++ after :=
      (List.nodup_cons.mp (List.nodup_middle.mp settled.distinct)).1
    have counted := settled.once other member
    by_cases same : promise = other
    · subst same
      rw [if_pos (by simp)] at counted
      rw [if_neg absent, List.count_append, counted, List.count_singleton_self]
    · have equal : other ∈ before ++ promise :: after ↔ other ∈ before ++ after := by
        simp [Ne.symm same]
      rw [List.count_append, List.count_singleton, if_neg (by simpa using same), counted]
      simp only [equal, Nat.add_zero]

end Settled

/-- The tables agree while the driver handles the answers of the opened operations. -/
structure Booked (opened : List Nat) (state : State) : Prop where
  flights : Flights opened state.pendingOperations state.activeCommandContexts state.nextAddress
  settled : Settled state.parked state.sets state.parkings state.nextAddress
  delegated : ∀ promise ∈ state.delegated, promise < state.nextAddress ∧ promise ∉ state.parkings

theorem Booked.initial : Booked [] State.initial where
  flights := ⟨List.nodup_nil, .nil, List.nodup_nil, by simp [State.initial]⟩
  settled := ⟨List.nodup_nil, by simp [State.initial, State.parked], by simp [State.initial],
    by simp [State.initial], by simp [State.initial]⟩
  delegated := by simp [State.initial, State.delegated]

section Primitives
variable {opened : List Nat} {state : State} {id : Nat} {promise : Nat}

section
variable (booked : Booked opened state)
include booked

/-- New addresses and the other tables do not matter. -/
theorem Booked.frame {next : State} (pendings : next.pendingOperations = state.pendingOperations)
    (contexts : next.activeCommandContexts = state.activeCommandContexts)
    (sets : next.sets = state.sets) (parkings : next.parkings = state.parkings)
    (delegated : ∀ promise ∈ next.delegated, promise ∈ state.delegated)
    (addresses : state.nextAddress ≤ next.nextAddress) : Booked opened next where
  flights := by
    rw [pendings, contexts]
    exact booked.flights.mono addresses
  settled := by
    rw [State.parked, pendings, sets, parkings]
    exact booked.settled.mono addresses
  delegated := by
    intro promise member
    have held := booked.delegated promise (delegated promise member)
    exact ⟨Nat.lt_of_lt_of_le held.1 addresses, parkings ▸ held.2⟩

theorem Booked.touch (owner : Owner) : Booked opened (state.touch owner) :=
  booked.frame rfl rfl rfl rfl (fun _ => id) le_rfl

theorem Booked.addPromise (owner : Owner) (value : Option Bool) :
    Booked opened (state.addPromise owner value) :=
  booked.frame rfl rfl rfl rfl (fun _ => id) (Nat.le_succ _)

theorem Booked.emplaceFront (call : Nat) (value : Option Bool) :
    Booked opened (state.emplaceFront call value) :=
  booked.frame rfl rfl rfl rfl (fun _ => id) (Nat.le_succ _)

theorem Booked.disassociate (promise : Nat) :
    Booked opened (state.disassociate promise) :=
  booked.frame rfl rfl rfl rfl (fun _ => id) le_rfl

theorem Booked.setConnected (call : Nat) (success : Bool) :
    Booked opened (state.setConnected call success) :=
  booked.frame rfl rfl rfl rfl (fun _ => id) le_rfl

theorem Booked.setPhase (call : Nat) (phase : Phase) :
    Booked opened (state.setPhase call phase) :=
  booked.frame rfl rfl rfl rfl (fun _ => id) le_rfl

/-- An address that is not yet used is not a parking promise. -/
theorem Booked.fresh : state.nextAddress ∉ state.parkings :=
  fun member => Nat.lt_irrefl _ (booked.settled.known _ member)

theorem Booked.setValue (value : Bool) (old : promise < state.nextAddress) (other : promise ∉ state.parkings) :
    Booked opened (state.setValue promise value) where
  flights := booked.flights
  settled := booked.settled.signal old other
  delegated := booked.delegated

end

theorem State.mem_delegated_addCommand {held promise : Nat} :
    held ∈ (state.addCommand (.promise promise)).delegated ↔ held ∈ state.delegated ∨ held = promise := by
  have signals : (⟨state.nextAddress, .promise promise, false⟩ : CommandContext).signals = some promise :=
    rfl
  simp only [delegated, addCommand, List.filterMap_append, List.filterMap_cons_some signals,
    List.filterMap_nil, List.mem_append, List.mem_singleton]
  tauto

theorem State.delegated_addCommand (id : Nat) : (state.addCommand (.deferred id)).delegated = state.delegated := by
  have signals : (⟨state.nextAddress, .deferred id, false⟩ : CommandContext).signals = none := rfl
  simp only [delegated, addCommand, List.filterMap_append, List.filterMap_cons_none signals,
    List.filterMap_nil, List.append_nil]

theorem State.mem_delegated_addWrite {held promise : Nat} :
    held ∈ (state.addWrite promise).delegated ↔ held ∈ state.delegated ∨ held = promise := by
  simp only [delegated, addWrite, List.map_append, List.map_singleton, List.mem_append,
    List.mem_singleton]
  tauto

theorem Booked.addCommand_promise (booked : Booked opened state)
    (old : promise < state.nextAddress) (other : promise ∉ state.parkings) :
    Booked opened (state.addCommand (.promise promise)) where
  flights := booked.flights.addPlain promise
  settled := booked.settled.mono (Nat.le_succ _)
  delegated := by
    intro held member
    rcases State.mem_delegated_addCommand.mp member with inside | rfl
    · exact ⟨Nat.lt_succ_of_lt (booked.delegated held inside).1, (booked.delegated held inside).2⟩
    · exact ⟨Nat.lt_succ_of_lt old, other⟩

theorem Booked.addCommand_deferred (booked : Booked (id :: opened) state) :
    Booked opened (state.addCommand (.deferred id)) where
  flights := booked.flights.addDeferred
  settled := booked.settled.mono (Nat.le_succ _)
  delegated := by
    intro held member
    rw [State.delegated_addCommand] at member
    exact ⟨Nat.lt_succ_of_lt (booked.delegated held member).1, (booked.delegated held member).2⟩

theorem Booked.addWrite (booked : Booked opened state)
    (old : promise < state.nextAddress) (other : promise ∉ state.parkings) :
    Booked opened (state.addWrite promise) where
  flights := booked.flights.mono (Nat.le_succ _)
  settled := booked.settled.mono (Nat.le_succ _)
  delegated := by
    intro held member
    rcases State.mem_delegated_addWrite.mp member with inside | rfl
    · exact ⟨Nat.lt_succ_of_lt (booked.delegated held inside).1, (booked.delegated held inside).2⟩
    · exact ⟨Nat.lt_succ_of_lt old, other⟩

/-- An open operation has an entry. -/
theorem Booked.entry (booked : Booked (id :: opened) state) :
    ∃ pending before after, state.pending id = some pending ∧
      state.pendingOperations = before ++ pending :: after ∧ pending.id = id ∧
      ∀ other ∈ before ++ after, other.id ≠ id := by
  obtain ⟨pending, member, same⟩ := List.mem_map.mp booked.flights.mem_ids
  subst same
  have found := Cells.read_of_mem booked.flights.ids member
  obtain ⟨before, after, split, others⟩ := Cells.read_split booked.flights.ids found
  exact ⟨pending, before, after, found, split, rfl, others⟩

/-- The completion closes the operation and sets its promise. -/
theorem Booked.complete (booked : Booked (id :: opened) state) (success : Bool) :
    Booked opened (state.completePendingOperation id success) := by
  obtain ⟨pending, before, after, found, split, rfl, others⟩ := booked.entry
  have removed : Cells.delete PendingOperation.id pending.id state.pendingOperations = before ++ after := by
    rw [split]
    exact Cells.delete_split rfl others
  rw [State.completePendingOperation, found]
  constructor
  · change Flights opened (Cells.delete PendingOperation.id pending.id state.pendingOperations) _ _
    rw [removed]
    have flights := booked.flights
    rw [split] at flights
    exact flights.remove
  · change Settled ((Cells.delete PendingOperation.id pending.id state.pendingOperations).map _) _ _ _
    rw [removed, List.map_append]
    have settled := booked.settled
    rw [State.parked, split, List.map_append, List.map_cons] at settled
    exact settled.complete
  · exact booked.delegated

/-- The next command of a deferral closes the operation again. -/
theorem Booked.rearm (booked : Booked (id :: opened) state) {pending next : PendingOperation}
    (found : state.pending id = some pending) (sameId : next.id = pending.id)
    (samePromise : next.parkingPromise = pending.parkingPromise) :
    Booked opened (State.addCommand { state with
      pendingOperations := Cells.write PendingOperation.id next.id (fun _ => next)
        state.pendingOperations } (.deferred next.id)) := by
  obtain ⟨entry, before, after, read, split, rfl, others⟩ := booked.entry
  obtain rfl : entry = pending := Option.some.inj (read.symm.trans found)
  have replaced : Cells.write PendingOperation.id next.id (fun _ => next) state.pendingOperations =
      before ++ next :: after := by
    rw [split, sameId]
    exact Cells.write_split (fun _ => next) rfl others
  rw [sameId] at replaced ⊢
  apply Booked.addCommand_deferred
  rw [replaced]
  constructor
  · have flights := booked.flights
    rw [split] at flights
    exact flights.replace sameId
  · have settled := booked.settled
    rw [State.parked, split, List.map_append, List.map_cons, ← samePromise, ← List.map_cons,
      ← List.map_append] at settled
    exact settled
  · exact booked.delegated

/-- A registered operation is open and its promise is a parking promise. -/
theorem Booked.register (booked : Booked opened state) (pending : PendingOperation) (call next : Nat)
    (absent : ∀ other ∈ state.pendingOperations, other.id ≠ pending.id)
    (parking : pending.parkingPromise = state.nextAddress) :
    Booked (pending.id :: opened) { state.emplaceFront call none with
      nextPendingId := next
      pendingOperations := state.pendingOperations ++ [pending]
      parkings := state.parkings ++ [state.nextAddress] } where
  flights := (booked.flights.register absent).mono (Nat.le_succ _)
  settled := by
    change Settled ((state.pendingOperations ++ [pending]).map _) _ _ _
    rw [List.map_append, List.map_singleton, parking]
    exact booked.settled.register
  delegated := by
    intro promise member
    have held := booked.delegated promise member
    refine ⟨Nat.lt_succ_of_lt held.1, ?_⟩
    intro registered
    rcases List.mem_append.mp registered with old | new
    · exact held.2 old
    · exact Nat.ne_of_lt held.1 (List.mem_singleton.mp new)

theorem Booked.parkOperation (booked : Booked opened state) (request : Request) :
    Booked opened (state.parkOperation request) := by
  rw [State.parkOperation]
  split
  · apply Booked.emplaceFront
    exact booked.frame rfl rfl rfl rfl (fun _ => id) (Nat.le_succ _)
  · rename_i missing
    have registered := booked.register (request.pendingOperation state.nextPendingId state.nextAddress)
      request.operation.call ((state.nextPendingId + 1) % 2 ^ 64) (Cells.read_eq_none.mp missing) rfl
    split
    · exact registered.addCommand_deferred
    · exact registered.complete false

end Primitives

section Actions
variable {opened : List Nat} {state : State} {actions : List Action} {script : Script} {action : Action}

/-- These effects close no operation. -/
def Action.steady : Action → Bool
  | .rearm _ => false
  | .complete _ _ => false
  | _ => true

theorem Booked.perform (booked : Booked opened state) (call : Nat)
    (steady : action.steady = true) : Booked opened (state.perform call action) := by
  have old : state.nextAddress < state.nextAddress + 1 := Nat.lt_succ_self _
  cases action with
  | invoke handler arguments => exact booked
  | writeSlot slot text => exact booked.touch _
  | failOperation | readyPromise => exact booked.emplaceFront _ _
  | sendCommand sent =>
      cases sent with
      | true => exact (booked.emplaceFront call none).addCommand_promise old booked.fresh
      | false => exact booked.emplaceFront _ _
  | sendWrite sent =>
      cases sent with
      | true => exact (booked.emplaceFront call none).addWrite old booked.fresh
      | false => exact booked.emplaceFront _ _
  | chainedCommand => exact (booked.addPromise .temporary none).addCommand_promise old booked.fresh
  | chainedWrite => exact (booked.addPromise .temporary none).addWrite old booked.fresh
  | park request => exact booked.parkOperation request
  | rearm | complete => contradiction

/-- The log does not matter. -/
theorem Booked.logged {log : List Event} (booked : Booked opened state) : Booked opened { state with log := log } :=
  booked.frame rfl rfl rfl rfl (fun _ => id) le_rfl

theorem Booked.recordAll (booked : Booked opened state) (now call : Nat)
    (steady : ∀ action ∈ actions, action.steady = true) :
    Booked opened (state.recordAll now call actions) := by
  induction actions generalizing state with
  | nil => exact booked
  | cons action rest ih =>
      apply ih
      · exact (booked.perform call (steady action List.mem_cons_self)).logged
      · exact fun other member => steady other (List.mem_cons_of_mem _ member)

theorem Action.direct_steady (direct : action.direct = true) : action.steady = true := by
  cases action with
  | rearm | complete => contradiction
  | _ => rfl

/-- A closing effect closes the open operation. -/
theorem Booked.close {pending : PendingOperation} (booked : Booked (pending.id :: opened) state)
    (known : state.pending pending.id = some pending) (now call : Nat) {action : Action}
    (closing : Closing pending action) : Booked opened (state.record now call action) := by
  cases closing with
  | complete success => exact (booked.complete success).logged
  | rearm same => exact (booked.rearm known same.id same.parkingPromise).logged

theorem Action.quiet_steady (quiet : action.quiet = true) : action.steady = true := by
  cases action with
  | rearm | complete => contradiction
  | _ => rfl

/-- The answer of an operation closes it. -/
theorem Booked.answer {pending : PendingOperation} (booked : Booked (pending.id :: opened) state)
    (known : state.pending pending.id = some pending) (now call : Nat)
    (answers : Answers script pending actions) :
    Booked opened (state.recordAll now call actions) := by
  obtain ⟨quiets, last, rfl, each, closing⟩ := answers.closes
  rw [State.recordAll_append]
  refine Booked.close ?_ ?_ now call closing
  · exact booked.recordAll now call fun action member => Action.quiet_steady (each action member)
  · rw [State.pending, State.recordAll_pendingOperations _ _ _ fun action member =>
      Action.keeps_of_quiet (each action member)]
    exact known

/-- Nothing closes an operation before it is parked. -/
theorem Begins.steady {now index : Nat} {operation : Operation} (begins : Begins now operation script index actions) :
    ∀ action ∈ actions, action.steady = true := by
  induction begins with
  | direct each => exact fun action member => Action.direct_steady (each action member)
  | park | fail => simp [Action.steady]
  | invoke invokes rest ih => simpa [Action.steady] using ih

theorem handleResourceOp_steady {defaultTimeoutMs : Option UInt32} {now fuel : Nat}
    {operation : Operation} {opType : String} {handler : ResourceHandler}
    (handled : handleResourceOp defaultTimeoutMs now operation script fuel opType handler = some actions) :
    ∀ action ∈ actions, action.steady = true := by
  rcases handleResourceOp_begins handled with direct | ⟨function, arguments, rest, rfl, rfl, begins⟩
  · exact fun action member => Action.direct_steady (direct action member)
  · simpa [Action.steady] using begins.steady

end Actions

section Callbacks
variable {opened : List Nat} {state : State} {context : CommandContext} {promise : Nat}

theorem State.delegated_answered (sender : Nat) : (state.answered sender).delegated = state.delegated := by
  have same : (state.answered sender).activeCommandContexts.filterMap CommandContext.signals =
      state.activeCommandContexts.filterMap CommandContext.signals :=
    Cells.filterMap_write _ _ fun _ _ _ => rfl
  rw [delegated, same]
  rfl

/-- The answer of a command in flight opens its operation. -/
theorem Booked.answered (booked : Booked opened state)
    (found : Cells.read CommandContext.sender context.sender state.activeCommandContexts = some context) :
    Booked (context.awaits.toList ++ opened) (state.answered context.sender) where
  flights := by
    obtain ⟨before, after, split, others⟩ := Cells.read_split booked.flights.senders found
    have flights := booked.flights
    change Flights _ _ (Cells.write CommandContext.sender context.sender _ state.activeCommandContexts) _
    rw [split] at flights ⊢
    rw [Cells.write_split _ rfl others]
    exact flights.answer
  settled := booked.settled
  delegated := by
    rw [State.delegated_answered]
    exact booked.delegated

/-- The promise of a command is delegated. -/
theorem State.mem_delegated_of_command
    (member : context ∈ state.activeCommandContexts) (target : context.target = .promise promise) :
    promise ∈ state.delegated := by
  apply List.mem_append_left
  rw [List.mem_filterMap]
  exact ⟨context, member, by rw [CommandContext.signals, target]⟩

/-- The promise of a write is delegated. -/
theorem State.mem_delegated_of_write {context : WriteContext}
    (member : context ∈ state.activeWriteContexts) : context.promise ∈ state.delegated :=
  List.mem_append_right _ (List.mem_append_left _ (List.mem_map_of_mem member))

/-- The promise of stored work is delegated. -/
theorem State.mem_delegated_of_stored {work : StoredWork} (member : work ∈ state.storedWork) :
    work.promise ∈ state.delegated :=
  List.mem_append_right _ (List.mem_append_right _ (List.mem_map_of_mem member))

theorem Booked.setDelegated (booked : Booked opened state)
    (member : promise ∈ state.delegated) (value : Bool) : Booked opened (state.setValue promise value) :=
  booked.setValue value (booked.delegated promise member).1 (booked.delegated promise member).2

/-- A command that is not in flight may leave. -/
theorem Booked.forget (booked : Booked opened state)
    (found : Cells.read CommandContext.sender context.sender state.activeCommandContexts = some context)
    (silent : context.awaits = none) :
    Booked opened { state with
      activeCommandContexts := Cells.delete CommandContext.sender context.sender
        state.activeCommandContexts } where
  flights := by
    obtain ⟨before, after, split, others⟩ := Cells.read_split booked.flights.senders found
    have flights := booked.flights
    change Flights _ _ (Cells.delete CommandContext.sender context.sender state.activeCommandContexts) _
    rw [split] at flights ⊢
    rw [Cells.delete_split rfl others]
    exact flights.forget silent
  settled := booked.settled
  delegated := by
    intro promise member
    apply booked.delegated
    simp only [State.delegated, List.mem_append, List.mem_filterMap] at member ⊢
    rcases member with ⟨other, inside, signals⟩ | rest
    · exact .inl ⟨other, Cells.mem_of_mem_delete inside, signals⟩
    · exact .inr rest

theorem Booked.commandDone (booked : Booked opened state)
    (found : Cells.read CommandContext.sender context.sender state.activeCommandContexts = some context)
    (answered : context.answered = true) : Booked opened (commandDoneStep state context) := by
  have silent : context.awaits = none := by
    unfold CommandContext.awaits
    rw [answered]
    split
    · rfl
    · rfl
  unfold commandDoneStep
  split
  · exact booked.forget found silent
  · rename_i promise target
    have delegated := State.mem_delegated_of_command (Cells.read_mem found) target
    exact (booked.setDelegated delegated true).forget found silent

/-- The writes may change except for their promises. -/
theorem Booked.withWrites (booked : Booked opened state) {contexts : List WriteContext}
    (subset : ∀ promise ∈ contexts.map WriteContext.promise,
      promise ∈ state.activeWriteContexts.map WriteContext.promise) :
    Booked opened { state with activeWriteContexts := contexts } := by
  refine booked.frame rfl rfl rfl rfl ?_ le_rfl
  intro promise member
  simp only [State.delegated, List.mem_append] at member ⊢
  exact member.imp_right fun rest => rest.imp_left (subset promise)

/-- A change of the writes keeps their promises. -/
theorem writes_subset (contexts : List WriteContext) (client : Nat) {update : WriteContext → WriteContext}
    (same : ∀ context, (update context).promise = context.promise) :
    ∀ promise ∈ (Cells.write WriteContext.client client update contexts).map WriteContext.promise,
      promise ∈ contexts.map WriteContext.promise := by
  rw [Cells.map_write _ _ fun context _ _ => same context]
  exact fun _ => id

theorem Booked.onDeviceWorkCompleted (booked : Booked opened state)
    (old : promise < state.nextAddress) (other : promise ∉ state.parkings) (success : Bool) :
    Booked opened (state.onDeviceWorkCompleted promise success) := by
  unfold State.onDeviceWorkCompleted
  split
  · exact (booked.setValue success old other).disassociate promise
  · exact booked

theorem Booked.abandonDeviceWork (booked : Booked opened state)
    (old : promise < state.nextAddress) (other : promise ∉ state.parkings) :
    Booked opened (state.abandonDeviceWork promise) :=
  (booked.setValue false old other).disassociate promise

theorem Booked.startStored (booked : Booked opened state) (call : Nat) (kind : StoredKind)
    (answer : State.ServerAnswer) : Booked opened (state.startStored call kind answer) := by
  have old : state.nextAddress < state.nextAddress + 1 := Nat.lt_succ_self _
  have associated : Booked opened { state.emplaceFront call none with
      storedContexts := state.storedContexts ++ [state.nextAddress] } :=
    booked.frame rfl rfl rfl rfl (fun _ => id) (Nat.le_succ _)
  cases answer with
  | missing =>
      rw [State.startStored]
      split
      · exact booked
      · exact booked.emplaceFront call (some false)
  | refused => exact associated.abandonDeviceWork old booked.fresh
  | accepted =>
      constructor
      · exact associated.flights.mono (Nat.le_succ _)
      · exact associated.settled.mono (Nat.le_succ _)
      · intro promise member
        simp only [State.startStored, State.delegated, List.map_append, List.mem_append,
          List.map_singleton, List.mem_singleton] at member
        have cases : promise ∈ state.delegated ∨ promise = state.nextAddress := by
          simp only [State.delegated, List.mem_append]
          tauto
        rcases cases with inside | rfl
        · have held := booked.delegated promise inside
          exact ⟨Nat.lt_succ_of_lt (Nat.lt_succ_of_lt held.1), held.2⟩
        · exact ⟨Nat.lt_succ_of_lt old, booked.fresh⟩

theorem Booked.finishStored (booked : Booked opened state) {work : StoredWork}
    (member : work ∈ state.storedWork) (success : Bool) :
    Booked opened (state.finishStored work success) := by
  have held := booked.delegated work.promise (State.mem_delegated_of_stored member)
  have removed : Booked opened { state with
      storedWork := Cells.delete StoredWork.id work.id state.storedWork } := by
    refine booked.frame rfl rfl rfl rfl ?_ le_rfl
    intro promise inside
    simp only [State.delegated, List.mem_append, List.mem_map] at inside ⊢
    rcases inside with command | write | ⟨other, kept, same⟩
    · exact .inl command
    · exact .inr (.inl write)
    · exact .inr (.inr ⟨other, Cells.mem_of_mem_delete kept, same⟩)
  unfold State.finishStored
  dsimp only
  split
  · split
    · exact (removed.touch _).onDeviceWorkCompleted held.1 held.2 success
    · exact removed.onDeviceWorkCompleted held.1 held.2 success
  · split
    · exact (removed.touch _).onDeviceWorkCompleted held.1 held.2 true
    · exact removed.abandonDeviceWork held.1 held.2
  · exact removed.onDeviceWorkCompleted held.1 held.2 success
  · exact removed.onDeviceWorkCompleted held.1 held.2 success

/-- Every step keeps the tables in agreement. -/
theorem Booked.step {defaultTimeoutMs : Option UInt32} {input : Input} {next : State}
    (booked : Booked [] state) (stepped : step defaultTimeoutMs state input = some next) :
    Booked [] next := by
  cases step_stepped stepped with
  | start work => exact booked.frame rfl rfl rfl rfl (fun _ => id) (Nat.le_succ _)
  | connectedResource found unconnected running handled =>
      exact (booked.recordAll _ _ (handleResourceOp_steady handled)).setConnected _ true
  | connectedStored found unconnected running => exact (booked.startStored _ _ _).setConnected _ true
  | connectionFailed found unconnected running => exact booked.setConnected _ false
  | connectionTimeout | abortConnection => exact booked.setPhase _ _
  | finishWaiting found connected waiting =>
      unfold finishWaitingStep
      split
      · apply Booked.setPhase
        exact booked.frame rfl rfl rfl rfl (fun _ => id) le_rfl
      · exact booked.setPhase _ _
  | deferredAnswer found unanswered target known handled =>
      rename_i context pending actions
      have opening := booked.answered found
      have awaits : context.awaits = some pending.id := by simp [CommandContext.awaits, target, unanswered]
      rw [awaits, Option.toList_some, List.singleton_append] at opening
      exact opening.answer known _ _ (handleDeferredAnswer_answers handled)
  | unknownAnswer found unanswered target missing =>
      rename_i context id
      have awaits : context.awaits = some id := by simp [CommandContext.awaits, target, unanswered]
      have opening := booked.answered found
      rw [awaits, Option.toList_some, List.singleton_append] at opening
      obtain ⟨pending, _, _, read, _⟩ := opening.entry
      have known : state.pending id = some pending := read
      rw [missing] at known
      contradiction
  | commandResponse found unanswered target =>
      have opening := booked.answered found
      rwa [CommandContext.awaits, target] at opening
  | commandError found unanswered target =>
      have opening := booked.answered found
      rw [CommandContext.awaits, target] at opening
      apply opening.setDelegated
      rw [State.delegated_answered]
      exact State.mem_delegated_of_command (Cells.read_mem found) target
  | commandDone found answered => exact booked.commandDone found answered
  | writeResponse success found => exact booked.withWrites (writes_subset _ _ fun _ => rfl)
  | writeError found unfailed =>
      have signaled := booked.setDelegated (State.mem_delegated_of_write (Cells.read_mem found)) false
      exact signaled.withWrites (writes_subset _ _ fun _ => rfl)
  | writeDone found =>
      rename_i context
      have signaled := booked.setDelegated (State.mem_delegated_of_write (Cells.read_mem found))
        context.success
      apply signaled.withWrites
      intro promise member
      obtain ⟨other, inside, rfl⟩ := List.mem_map.mp member
      exact List.mem_map_of_mem (Cells.mem_of_mem_delete inside)
  | storedDone success found => exact booked.finishStored (Cells.read_mem found) success

end Callbacks

section Sample

/-- A device that answers every request. -/
def sampleDevice : Device where
  alive := true
  sessionValid := true
  resolveEndpoint := fun _ _ => some 1
  decodeBase64Tlv := fun _ => some []
  prepareCommand := fun _ _ _ => true
  sendCommandRequest := true
  prepareWrite := fun _ _ _ => true
  sendWriteRequest := true
  getCachedAttributeData := fun _ _ _ => some []
  encodeTlvElementToBase64 := fun _ _ => some ""

/-- Every handler of this script defers the operation. -/
def requestScript : Script := fun _ =>
  ⟨some (.requestCommand ⟨6, 0, "", none, none⟩ 0 ⟨some 1, some 2, none⟩ none), sampleDevice⟩

/-- Every handler of this script succeeds. -/
def successScript : Script := fun _ => ⟨some (.success ""), sampleDevice⟩

end Sample

end Barton.Sbmd
