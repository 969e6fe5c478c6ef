/-
This file contains the client threads, the Matter thread, and the tables that they share.
-/

import BartonCore.ToMathlib.Cells
import BartonCore.ToMathlib.Runs
import BartonCore.Construction.Sbmd.Chain

namespace Barton.Sbmd

/-- The pending operation of a request starts at depth zero. -/
def Request.pendingOperation (request : Request) (id parkingPromise : Nat) : PendingOperation where
  id := id
  parkingPromise := parkingPromise
  operation := request.operation
  onResponse := request.callbacks.onResponse
  onError := request.callbacks.onError
  context := request.callbacks.context
  overallDeadline := request.overallDeadline
  deferralDepth := 0

/-- A promise is in the list of a call or in a temporary list of a chain step. -/
inductive Owner where
  | call (id : Nat)
  | temporary
  deriving DecidableEq

structure Promise where
  id : Nat
  owner : Owner
  value : Option Bool
  deriving DecidableEq

/-- A promise keeps its first value, and a second `set_value` throws. -/
def Promise.satisfy (value : Bool) (promise : Promise) : Promise :=
  { promise with value := some (promise.value.getD value) }

/-- A command reports to a promise, or it is deferred and reports to a pending operation. -/
inductive Target where
  | promise (id : Nat)
  | deferred (pendingId : Nat)
  deriving DecidableEq

/-- This is `CommandContext`. The SDK has delivered the response or the error of an answered command. -/
structure CommandContext where
  sender : Nat
  target : Target
  answered : Bool
  deriving DecidableEq

/-- This is `WriteContext`. The SDK has delivered the error of a failed write. -/
structure WriteContext where
  client : Nat
  promise : Nat
  success : Bool
  failed : Bool
  deriving DecidableEq

/-- The driver gives the SDK a stored promise for these kinds of work. -/
inductive StoredKind where
  | rssiRead
  | identifyWrite
  | fabricIndexRead
  | otaProviderWrite
  deriving DecidableEq

/-- This context is with the SDK until its callback. -/
structure StoredWork where
  id : Nat
  kind : StoredKind
  promise : Nat
  call : Nat
  deriving DecidableEq

/-- A call of `ConnectAndExecute` runs a resource operation or stored work. -/
inductive Work where
  | resource (opType : String)
  | stored (kind : StoredKind)
  deriving DecidableEq

/-- The client thread waits for the connection, cancels it, or has returned. -/
inductive Phase where
  | waiting
  | aborting
  | returned (success : Bool)
  deriving DecidableEq

def Phase.isReturned : Phase → Bool
  | .returned _ => true
  | _ => false

structure Call where
  id : Nat
  work : Work
  phase : Phase
  /-- the value of `connectPromise` -/
  connected : Option Bool
  /-- the list `promises` -/
  promises : List Nat
  deriving DecidableEq

/-- An action happens at a time and belongs to the operation of a call. -/
structure Event where
  time : Nat
  call : Nat
  action : Action
  deriving DecidableEq

structure State where
  pendingOperations : List PendingOperation
  nextPendingId : Nat
  activeCommandContexts : List CommandContext
  activeWriteContexts : List WriteContext
  storedContexts : List Nat
  storedWork : List StoredWork
  promises : List Promise
  calls : List Call
  /-- the next address of a promise or a context -/
  nextAddress : Nat
  /-- the promises of all `set_value` calls in order -/
  sets : List Nat
  /-- the parking promises of all registered operations -/
  parkings : List Nat
  /-- the owners of destroyed promises and slots that a step touched -/
  dangling : List Owner
  log : List Event
  deriving DecidableEq

/-- The driver starts without operations. -/
def State.initial : State where
  pendingOperations := []
  nextPendingId := 1
  activeCommandContexts := []
  activeWriteContexts := []
  storedContexts := []
  storedWork := []
  promises := []
  calls := []
  nextAddress := 0
  sets := []
  parkings := []
  dangling := []
  log := []

namespace State

def call (state : State) (id : Nat) : Option Call := Cells.read Call.id id state.calls

/-- The promises and slots of a call live until the call returns. A temporary list is gone after its step. -/
def alive (state : State) : Owner → Bool
  | .call id =>
      match state.call id with
      | some call => !call.phase.isReturned
      | none => false
  | .temporary => false

/-- The access is dangling when the owner is gone. -/
def danglingAccess (state : State) (owner : Owner) : List Owner :=
  if state.alive owner then [] else [owner]

/-- A step accesses an object of this owner. -/
def touch (state : State) (owner : Owner) : State :=
  { state with dangling := state.dangling ++ state.danglingAccess owner }

def promise (state : State) (id : Nat) : Option Promise := Cells.read Promise.id id state.promises

/-- A new promise. -/
def addPromise (state : State) (owner : Owner) (value : Option Bool) : State :=
  { state with
    promises := state.promises ++ [{ id := state.nextAddress, owner := owner, value := value }]
    nextAddress := state.nextAddress + 1 }

/-- The front of the promises of a call is a new promise. -/
def emplaceFront (state : State) (id : Nat) (value : Option Bool) : State :=
  { state.addPromise (.call id) value with
    calls := Cells.write Call.id id
      (fun call => { call with promises := state.nextAddress :: call.promises }) state.calls }

/-- An access to a promise is an access to its list. -/
def promiseAccess (state : State) (id : Nat) : List Owner :=
  match state.promise id with
  | some promise => state.danglingAccess promise.owner
  | none => []

/-- This is `promise.set_value(value)`. -/
def setValue (state : State) (id : Nat) (value : Bool) : State :=
  { state with
    promises := Cells.write Promise.id id (Promise.satisfy value) state.promises
    sets := state.sets ++ [id]
    dangling := state.dangling ++ state.promiseAccess id }

/-- The SDK takes a command. -/
def addCommand (state : State) (target : Target) : State :=
  { state with
    activeCommandContexts := state.activeCommandContexts ++
      [{ sender := state.nextAddress, target := target, answered := false }]
    nextAddress := state.nextAddress + 1 }

/-- The SDK takes a write. -/
def addWrite (state : State) (promise : Nat) : State :=
  { state with
    activeWriteContexts := state.activeWriteContexts ++
      [{ client := state.nextAddress, promise := promise, success := true, failed := false }]
    nextAddress := state.nextAddress + 1 }

def pending (state : State) (id : Nat) : Option PendingOperation :=
  Cells.read PendingOperation.id id state.pendingOperations

/-- This is `CompletePendingOperation`. -/
def completePendingOperation (state : State) (id : Nat) (success : Bool) : State :=
  match state.pending id with
  | none => state
  | some pending =>
      let completed := state.setValue pending.parkingPromise success
      { completed with
        pendingOperations := Cells.delete PendingOperation.id id completed.pendingOperations }

/-- This is the rest of `ExecuteRequestCommand` from the parking promise on. -/
def parkOperation (state : State) (request : Request) : State :=
  let pendingId := state.nextPendingId
  let parked : State :=
    { state.emplaceFront request.operation.call none with nextPendingId := (pendingId + 1) % 2 ^ 64 }
  match parked.pending pendingId with
  | some _ => parked.emplaceFront request.operation.call (some false)
  | none =>
      let stored : State :=
        { parked with
          pendingOperations := parked.pendingOperations ++
            [request.pendingOperation pendingId state.nextAddress]
          parkings := parked.parkings ++ [state.nextAddress] }
      if request.sent then stored.addCommand (.deferred pendingId)
      else stored.completePendingOperation pendingId false

/-- The state after one effect of the operation of a call. -/
def perform (call : Nat) (state : State) : Action → State
  | .invoke _ _ => state
  | .writeSlot _ _ => state.touch (.call call)
  | .failOperation => state.emplaceFront call (some false)
  | .readyPromise => state.emplaceFront call (some true)
  | .sendCommand sent =>
      if sent then (state.emplaceFront call none).addCommand (.promise state.nextAddress)
      else state.emplaceFront call (some false)
  | .sendWrite sent =>
      if sent then (state.emplaceFront call none).addWrite state.nextAddress
      else state.emplaceFront call (some false)
  | .chainedCommand => (state.addPromise .temporary none).addCommand (.promise state.nextAddress)
  | .chainedWrite => (state.addPromise .temporary none).addWrite state.nextAddress
  | .park request => state.parkOperation request
  | .rearm pending =>
      { state with
        pendingOperations := Cells.write PendingOperation.id pending.id (fun _ => pending)
          state.pendingOperations }.addCommand (.deferred pending.id)
  | .complete id success => state.completePendingOperation id success

/-- The log records each action. -/
def record (now call : Nat) (state : State) (action : Action) : State :=
  let next := state.perform call action
  { next with log := next.log ++ [{ time := now, call := call, action := action }] }

def recordAll (now call : Nat) (state : State) (actions : List Action) : State :=
  actions.foldl (record now call) state

/-- The connection callback satisfies `connectPromise`. -/
def setConnected (state : State) (id : Nat) (success : Bool) : State :=
  { state.touch (.call id) with
    calls := Cells.write Call.id id (fun call => { call with connected := some success }) state.calls }

def setPhase (state : State) (id : Nat) (phase : Phase) : State :=
  { state with calls := Cells.write Call.id id (fun call => { call with phase := phase }) state.calls }

/-- This is `DisassociateStoredContext`. -/
def disassociate (state : State) (promise : Nat) : State :=
  { state with storedContexts := state.storedContexts.filter (· != promise) }

/-- This is `OnDeviceWorkCompleted`, which ignores an invalidated promise. -/
def onDeviceWorkCompleted (state : State) (promise : Nat) (success : Bool) : State :=
  if promise ∈ state.storedContexts then (state.setValue promise success).disassociate promise else state

/-- This is `AbandonDeviceWork`. -/
def abandonDeviceWork (state : State) (promise : Nat) : State :=
  (state.setValue promise false).disassociate promise

/-- A cluster server is missing, or it refuses or accepts the work. -/
inductive ServerAnswer where
  | missing
  | refused
  | accepted

/-- The driver starts stored work with a promise that it associates first. -/
def startStored (state : State) (call : Nat) (kind : StoredKind) (answer : ServerAnswer) : State :=
  let promise := state.nextAddress
  let emplaced := state.emplaceFront call none
  let associated := { emplaced with storedContexts := emplaced.storedContexts ++ [promise] }
  match answer with
  | .missing => if kind = .otaProviderWrite then state else state.emplaceFront call (some false)
  | .refused => associated.abandonDeviceWork promise
  | .accepted =>
      { associated with
        storedWork := associated.storedWork ++
          [{ id := associated.nextAddress, kind := kind, promise := promise, call := call }]
        nextAddress := associated.nextAddress + 1 }

/-- The callback of stored work. A read writes the result of the call before it looks for the promise. -/
def finishStored (state : State) (work : StoredWork) (success : Bool) : State :=
  let next := { state with storedWork := Cells.delete StoredWork.id work.id state.storedWork }
  match work.kind with
  | .rssiRead =>
      (if success then next.touch (.call work.call) else next).onDeviceWorkCompleted work.promise success
  | .fabricIndexRead =>
      if success then (next.touch (.call work.call)).onDeviceWorkCompleted work.promise true
      else next.abandonDeviceWork work.promise
  | .identifyWrite => next.onDeviceWorkCompleted work.promise success
  | .otaProviderWrite => next.onDeviceWorkCompleted work.promise success

/-- The promise is satisfied with `true`. -/
def holds (state : State) (promise : Nat) : Bool :=
  (state.promise promise).any fun promise => promise.value = some true

/-- The stored contexts of a call are invalidated before its promises expire. -/
def invalidate (state : State) (call : Call) : State :=
  { state with storedContexts := state.storedContexts.filter fun promise => promise ∉ call.promises }

end State

/-- The operation of a resource call has a value slot for a read and a response slot for an execution. -/
def Call.operation (call : Call) (opType : String) : Operation where
  call := call.id
  readValue := opType = "read"
  executeResponse := opType = "execute"

/-- The client threads and the SDK drive the machine with these inputs. -/
inductive Input where
  | start (work : Work)
  | connected (call now : Nat) (script : Script) (fuel : Nat) (handler : ResourceHandler)
      (server : State.ServerAnswer)
  | connectionFailed (call : Nat)
  | connectionTimeout (call : Nat)
  | abortConnection (call : Nat)
  | finishWaiting (call : Nat)
  | commandAnswer (sender now : Nat) (answer : Except ErrorData ResponseData) (script : Script) (fuel : Nat)
  | commandDone (sender : Nat)
  | writeResponse (client : Nat) (success : Bool)
  | writeError (client : Nat)
  | writeDone (client : Nat)
  | storedDone (work : Nat) (success : Bool)

/-- An answer with a success status is a response. Any other answer is an error. -/
def handleDeferredAnswer (script : Script) (fuel now : Nat) (pending : PendingOperation) :
    Except ErrorData ResponseData → Option (List Action)
  | .ok response => handleDeferredCommandResponse script fuel now pending response
  | .error error => handleDeferredCommandError script fuel pending error

section Steps
variable (defaultTimeoutMs : Option UInt32) (state : State)

/-- The connection callback runs the work of the call. -/
def connectedStep (call : Call) (now : Nat) (script : Script) (fuel : Nat) (handler : ResourceHandler)
    (server : State.ServerAnswer) : Option State :=
  match call.work with
  | .resource opType =>
      (handleResourceOp defaultTimeoutMs now (call.operation opType) script fuel opType handler).map
        fun actions => (state.recordAll now call.id actions).setConnected call.id true
  | .stored kind => some ((state.startStored call.id kind server).setConnected call.id true)

/-- The SDK delivers one response or one error for each command. -/
def commandAnswerStep (context : CommandContext) (now : Nat) (answer : Except ErrorData ResponseData)
    (script : Script) (fuel : Nat) : Option State :=
  let answered := { state with
    activeCommandContexts := Cells.write CommandContext.sender context.sender
      (fun context => { context with answered := true }) state.activeCommandContexts }
  match context.target with
  | .deferred pendingId =>
      match answered.pending pendingId with
      | none => some answered
      | some pending =>
          (handleDeferredAnswer script fuel now pending answer).map
            (answered.recordAll now pending.operation.call)
  | .promise promise =>
      match answer with
      | .ok _ => some answered
      | .error _ => some (answered.setValue promise false)

/-- The last callback of a command removes its context. -/
def commandDoneStep (context : CommandContext) : State :=
  let signaled := match context.target with
    | .deferred _ => state
    | .promise promise => state.setValue promise true
  { signaled with
    activeCommandContexts := Cells.delete CommandContext.sender context.sender
      signaled.activeCommandContexts }

/-- The client thread leaves `ConnectAndExecute`, because every promise holds, because the first
promise that does not hold is false, or because the wait for it timed out. -/
def finishWaitingStep (call : Call) : State :=
  if call.connected = some true then
    (state.invalidate call).setPhase call.id (.returned (call.promises.all state.holds))
  else state.setPhase call.id (.returned false)

/-- A step of the machine. An input that cannot occur has no next state. -/
def step : Input → Option State
  | .start work =>
      some { state with
        calls := state.calls ++
          [{ id := state.nextAddress, work := work, phase := .waiting, connected := none, promises := [] }]
        nextAddress := state.nextAddress + 1 }
  | .connected id now script fuel handler server =>
      (state.call id).bind fun call =>
        if call.connected = none ∧ ¬call.phase.isReturned then
          connectedStep defaultTimeoutMs state call now script fuel handler server
        else none
  | .connectionFailed id =>
      (state.call id).bind fun call =>
        if call.connected = none ∧ ¬call.phase.isReturned then some (state.setConnected id false) else none
  | .connectionTimeout id =>
      (state.call id).bind fun call =>
        if call.connected = none ∧ call.phase = .waiting then some (state.setPhase id .aborting) else none
  | .abortConnection id =>
      (state.call id).bind fun call =>
        if call.phase = .aborting then some (state.setPhase id (.returned false)) else none
  | .finishWaiting id =>
      (state.call id).bind fun call =>
        if call.connected ≠ none ∧ call.phase = .waiting then some (finishWaitingStep state call) else none
  | .commandAnswer sender now answer script fuel =>
      (Cells.read CommandContext.sender sender state.activeCommandContexts).bind fun context =>
        if context.answered then none else commandAnswerStep state context now answer script fuel
  | .commandDone sender =>
      (Cells.read CommandContext.sender sender state.activeCommandContexts).bind fun context =>
        if context.answered then some (commandDoneStep state context) else none
  | .writeResponse client success =>
      (Cells.read WriteContext.client client state.activeWriteContexts).bind fun _ =>
        some { state with
          activeWriteContexts := Cells.write WriteContext.client client
            (fun context => { context with success := context.success && success })
            state.activeWriteContexts }
  | .writeError client =>
      (Cells.read WriteContext.client client state.activeWriteContexts).bind fun context =>
        if context.failed then none
        else
          let signaled := state.setValue context.promise false
          some { signaled with
            activeWriteContexts := Cells.write WriteContext.client client
              (fun context => { context with failed := true }) signaled.activeWriteContexts }
  | .writeDone client =>
      (Cells.read WriteContext.client client state.activeWriteContexts).bind fun context =>
        let signaled := state.setValue context.promise context.success
        some { signaled with
          activeWriteContexts := Cells.delete WriteContext.client client signaled.activeWriteContexts }
  | .storedDone id success =>
      (Cells.read StoredWork.id id state.storedWork).bind fun work =>
        some (state.finishStored work success)

end Steps

/-- A run of the machine. -/
def run (defaultTimeoutMs : Option UInt32) (start : State) (inputs : List Input) : Option State :=
  Runs.run (step defaultTimeoutMs) start inputs

end Barton.Sbmd
