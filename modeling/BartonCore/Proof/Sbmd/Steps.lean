import BartonCore.Proof.Sbmd.Shape

namespace Barton.Sbmd
variable {defaultTimeoutMs : Option UInt32} {state : State}

/-- The command of this sender has its answer. -/
def State.answered (state : State) (sender : Nat) : State :=
  { state with
    activeCommandContexts := Cells.write CommandContext.sender sender
      (fun context => { context with answered := true }) state.activeCommandContexts }

/-- A possible step has one of these forms. -/
inductive Stepped (defaultTimeoutMs : Option UInt32) (state : State) : Input → State → Prop where
  | start (work : Work) :
      Stepped defaultTimeoutMs state (.start work) { state with
        calls := state.calls ++ [⟨state.nextAddress, work, .waiting, none, []⟩]
        nextAddress := state.nextAddress + 1 }
  | connectedResource {now fuel : Nat} {script : Script} {handler : ResourceHandler}
      {server : State.ServerAnswer} {call : Call} {opType : String} {actions : List Action}
      (found : state.call call.id = some call) (unconnected : call.connected = none)
      (running : call.phase.isReturned = false)
      (handled : handleResourceOp defaultTimeoutMs now (call.operation opType) script fuel opType handler =
        some actions) :
      Stepped defaultTimeoutMs state (.connected call.id now script fuel handler server)
        ((state.recordAll now call.id actions).setConnected call.id true)
  | connectedStored {now fuel : Nat} {script : Script} {handler : ResourceHandler}
      {server : State.ServerAnswer} {call : Call} {kind : StoredKind}
      (found : state.call call.id = some call) (unconnected : call.connected = none)
      (running : call.phase.isReturned = false) :
      Stepped defaultTimeoutMs state (.connected call.id now script fuel handler server)
        ((state.startStored call.id kind server).setConnected call.id true)
  | connectionFailed {call : Call} (found : state.call call.id = some call)
      (unconnected : call.connected = none) (running : call.phase.isReturned = false) :
      Stepped defaultTimeoutMs state (.connectionFailed call.id) (state.setConnected call.id false)
  | connectionTimeout {call : Call} (found : state.call call.id = some call)
      (waiting : call.phase = .waiting) :
      Stepped defaultTimeoutMs state (.connectionTimeout call.id) (state.setPhase call.id .aborting)
  | abortConnection {call : Call} (found : state.call call.id = some call)
      (aborting : call.phase = .aborting) :
      Stepped defaultTimeoutMs state (.abortConnection call.id)
        (state.setPhase call.id (.returned false))
  | finishWaiting {call : Call} (found : state.call call.id = some call)
      (connected : call.connected ≠ none) (waiting : call.phase = .waiting) :
      Stepped defaultTimeoutMs state (.finishWaiting call.id) (finishWaitingStep state call)
  | deferredAnswer {now fuel : Nat} {answer : Except ErrorData ResponseData} {script : Script}
      {context : CommandContext} {pending : PendingOperation} {actions : List Action}
      (found : Cells.read CommandContext.sender context.sender state.activeCommandContexts = some context)
      (unanswered : context.answered = false) (target : context.target = .deferred pending.id)
      (known : state.pending pending.id = some pending)
      (handled : handleDeferredAnswer script fuel now pending answer = some actions) :
      Stepped defaultTimeoutMs state (.commandAnswer context.sender now answer script fuel)
        ((state.answered context.sender).recordAll now pending.operation.call actions)
  | unknownAnswer {now fuel : Nat} {answer : Except ErrorData ResponseData} {script : Script}
      {context : CommandContext} {id : Nat}
      (found : Cells.read CommandContext.sender context.sender state.activeCommandContexts = some context)
      (unanswered : context.answered = false) (target : context.target = .deferred id)
      (missing : state.pending id = none) :
      Stepped defaultTimeoutMs state (.commandAnswer context.sender now answer script fuel)
        (state.answered context.sender)
  | commandResponse {now fuel : Nat} {response : ResponseData} {script : Script}
      {context : CommandContext} {promise : Nat}
      (found : Cells.read CommandContext.sender context.sender state.activeCommandContexts = some context)
      (unanswered : context.answered = false) (target : context.target = .promise promise) :
      Stepped defaultTimeoutMs state (.commandAnswer context.sender now (.ok response) script fuel)
        (state.answered context.sender)
  | commandError {now fuel : Nat} {error : ErrorData} {script : Script} {context : CommandContext}
      {promise : Nat}
      (found : Cells.read CommandContext.sender context.sender state.activeCommandContexts = some context)
      (unanswered : context.answered = false) (target : context.target = .promise promise) :
      Stepped defaultTimeoutMs state (.commandAnswer context.sender now (.error error) script fuel)
        ((state.answered context.sender).setValue promise false)
  | commandDone {context : CommandContext}
      (found : Cells.read CommandContext.sender context.sender state.activeCommandContexts = some context)
      (answered : context.answered = true) :
      Stepped defaultTimeoutMs state (.commandDone context.sender) (commandDoneStep state context)
  | writeResponse {context : WriteContext} (success : Bool)
      (found : Cells.read WriteContext.client context.client state.activeWriteContexts = some context) :
      Stepped defaultTimeoutMs state (.writeResponse context.client success) { state with
        activeWriteContexts := Cells.write WriteContext.client context.client
          (fun context => { context with success := context.success && success })
          state.activeWriteContexts }
  | writeError {context : WriteContext}
      (found : Cells.read WriteContext.client context.client state.activeWriteContexts = some context)
      (unfailed : context.failed = false) :
      Stepped defaultTimeoutMs state (.writeError context.client) { state.setValue context.promise false with
        activeWriteContexts := Cells.write WriteContext.client context.client
          (fun context => { context with failed := true }) state.activeWriteContexts }
  | writeDone {context : WriteContext}
      (found : Cells.read WriteContext.client context.client state.activeWriteContexts = some context) :
      Stepped defaultTimeoutMs state (.writeDone context.client)
        { state.setValue context.promise context.success with
          activeWriteContexts := Cells.delete WriteContext.client context.client
            state.activeWriteContexts }
  | storedDone {work : StoredWork} (success : Bool)
      (found : Cells.read StoredWork.id work.id state.storedWork = some work) :
      Stepped defaultTimeoutMs state (.storedDone work.id success) (state.finishStored work success)

theorem connectedStep_stepped {call : Call} {now fuel : Nat} {script : Script} {handler : ResourceHandler}
    {server : State.ServerAnswer} {next : State} (found : state.call call.id = some call)
    (unconnected : call.connected = none) (running : call.phase.isReturned = false)
    (stepped : connectedStep defaultTimeoutMs state call now script fuel handler server = some next) :
    Stepped defaultTimeoutMs state (.connected call.id now script fuel handler server) next := by
  unfold connectedStep at stepped
  split at stepped
  · obtain ⟨actions, handled, rfl⟩ := Option.map_eq_some_iff.mp stepped
    exact .connectedResource found unconnected running handled
  · cases stepped
    exact .connectedStored found unconnected running

theorem commandAnswerStep_stepped {context : CommandContext} {now fuel : Nat}
    {answer : Except ErrorData ResponseData} {script : Script} {next : State}
    (found : Cells.read CommandContext.sender context.sender state.activeCommandContexts = some context)
    (unanswered : context.answered = false)
    (stepped : commandAnswerStep state context now answer script fuel = some next) :
    Stepped defaultTimeoutMs state (.commandAnswer context.sender now answer script fuel) next := by
  unfold commandAnswerStep at stepped
  dsimp only at stepped
  split at stepped
  · rename_i id target
    split at stepped
    · rename_i missing
      cases stepped
      exact .unknownAnswer found unanswered target missing
    · rename_i pending known
      obtain ⟨actions, handled, rfl⟩ := Option.map_eq_some_iff.mp stepped
      obtain rfl : pending.id = id := Cells.read_address known
      exact .deferredAnswer found unanswered target known handled
  · rename_i promise target
    split at stepped
    · cases stepped
      exact .commandResponse found unanswered target
    · cases stepped
      exact .commandError found unanswered target

/-- Every step has one of the listed forms. -/
theorem step_stepped {input : Input} {next : State} (stepped : step defaultTimeoutMs state input = some next) :
    Stepped defaultTimeoutMs state input next := by
  cases input with
  | start work =>
      cases stepped
      exact .start work
  | connected id now script fuel handler server =>
      obtain ⟨call, found, guarded⟩ := Option.bind_eq_some_iff.mp stepped
      obtain rfl : call.id = id := Cells.read_address found
      split at guarded
      · rename_i allowed
        exact connectedStep_stepped found allowed.1 (by simpa using allowed.2) guarded
      · contradiction
  | connectionFailed id =>
      obtain ⟨call, found, guarded⟩ := Option.bind_eq_some_iff.mp stepped
      obtain rfl : call.id = id := Cells.read_address found
      split at guarded
      · rename_i allowed
        cases guarded
        exact .connectionFailed found allowed.1 (by simpa using allowed.2)
      · contradiction
  | connectionTimeout id =>
      obtain ⟨call, found, guarded⟩ := Option.bind_eq_some_iff.mp stepped
      obtain rfl : call.id = id := Cells.read_address found
      split at guarded
      · rename_i allowed
        cases guarded
        exact .connectionTimeout found allowed.2
      · contradiction
  | abortConnection id =>
      obtain ⟨call, found, guarded⟩ := Option.bind_eq_some_iff.mp stepped
      obtain rfl : call.id = id := Cells.read_address found
      split at guarded
      · rename_i allowed
        cases guarded
        exact .abortConnection found allowed
      · contradiction
  | finishWaiting id =>
      obtain ⟨call, found, guarded⟩ := Option.bind_eq_some_iff.mp stepped
      obtain rfl : call.id = id := Cells.read_address found
      split at guarded
      · rename_i allowed
        cases guarded
        exact .finishWaiting found allowed.1 allowed.2
      · contradiction
  | commandAnswer sender now answer script fuel =>
      obtain ⟨context, found, guarded⟩ := Option.bind_eq_some_iff.mp stepped
      obtain rfl : context.sender = sender := Cells.read_address found
      split at guarded
      · contradiction
      · rename_i unanswered
        exact commandAnswerStep_stepped found (by simpa using unanswered) guarded
  | commandDone sender =>
      obtain ⟨context, found, guarded⟩ := Option.bind_eq_some_iff.mp stepped
      obtain rfl : context.sender = sender := Cells.read_address found
      split at guarded
      · rename_i answered
        cases guarded
        exact .commandDone found answered
      · contradiction
  | writeResponse client success =>
      obtain ⟨context, found, rest⟩ := Option.bind_eq_some_iff.mp stepped
      obtain rfl : context.client = client := Cells.read_address found
      cases rest
      exact .writeResponse success found
  | writeError client =>
      obtain ⟨context, found, guarded⟩ := Option.bind_eq_some_iff.mp stepped
      obtain rfl : context.client = client := Cells.read_address found
      split at guarded
      · contradiction
      · rename_i unfailed
        cases guarded
        exact .writeError found (by simpa using unfailed)
  | writeDone client =>
      obtain ⟨context, found, rest⟩ := Option.bind_eq_some_iff.mp stepped
      obtain rfl : context.client = client := Cells.read_address found
      cases rest
      exact .writeDone found
  | storedDone id success =>
      obtain ⟨work, found, rest⟩ := Option.bind_eq_some_iff.mp stepped
      obtain rfl : work.id = id := Cells.read_address found
      cases rest
      exact .storedDone success found

section Recording

/-- These effects change no pending operation. -/
def Action.keeps : Action → Bool
  | .park _ => false
  | .rearm _ => false
  | .complete _ _ => false
  | _ => true

theorem Action.keeps_of_quiet {action : Action} (quiet : action.quiet = true) : action.keeps = true := by
  cases action with
  | park | rearm | complete => contradiction
  | _ => rfl

theorem Action.keeps_of_direct {action : Action} (direct : action.direct = true) : action.keeps = true := by
  cases action with
  | park | rearm | complete => contradiction
  | _ => rfl

theorem State.recordAll_append (state : State) (now call : Nat) (first second : List Action) :
    state.recordAll now call (first ++ second) =
      (state.recordAll now call first).recordAll now call second :=
  List.foldl_append

theorem State.perform_pendingOperations (state : State) (call : Nat) {action : Action}
    (keeps : action.keeps = true) :
    (state.perform call action).pendingOperations = state.pendingOperations := by
  cases action with
  | sendCommand sent | sendWrite sent => cases sent <;> rfl
  | park | rearm | complete => contradiction
  | _ => rfl

theorem State.recordAll_pendingOperations (state : State) (now call : Nat) {actions : List Action}
    (each : ∀ action ∈ actions, action.keeps = true) :
    (state.recordAll now call actions).pendingOperations = state.pendingOperations := by
  induction actions generalizing state with
  | nil => rfl
  | cons action rest ih =>
      have later := ih (state.record now call action) fun other member =>
        each other (List.mem_cons_of_mem _ member)
      exact later.trans (state.perform_pendingOperations call (each action List.mem_cons_self))

theorem State.completePendingOperation_log (state : State) (id : Nat) (success : Bool) :
    (state.completePendingOperation id success).log = state.log := by
  unfold completePendingOperation
  split
  · rfl
  · rfl

theorem State.perform_log (state : State) (call : Nat) (action : Action) :
    (state.perform call action).log = state.log := by
  cases action with
  | sendCommand sent | sendWrite sent => cases sent <;> rfl
  | park request =>
      change (state.parkOperation request).log = state.log
      unfold parkOperation
      dsimp only
      split
      · rfl
      · split
        · rfl
        · exact completePendingOperation_log _ _ _
  | complete id success => exact state.completePendingOperation_log id success
  | _ => rfl

/-- The log grows by the recorded actions. -/
theorem State.recordAll_log (state : State) (now call : Nat) (actions : List Action) :
    (state.recordAll now call actions).log = state.log ++ actions.map (Event.mk now call) := by
  induction actions generalizing state with
  | nil => rw [List.map_nil, List.append_nil]; rfl
  | cons action rest ih =>
      have first : (state.record now call action).log = state.log ++ [⟨now, call, action⟩] := by
        change (state.perform call action).log ++ [_] = _
        rw [state.perform_log]
      change ((state.record now call action).recordAll now call rest).log = _
      rw [ih, first, List.append_assoc]
      rfl

end Recording
end Barton.Sbmd
