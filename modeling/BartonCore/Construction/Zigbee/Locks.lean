/-
This file contains the mutexes of the Zigbee HAL and the points at which its threads take and release them.
What the queues and the tables hold is left to the choice of the schedule. A thread that is started can begin
at any moment, and a join can end at any moment.
-/

import BartonCore.ToMathlib.Locking

namespace Barton.ZigbeeLocks
open Locking

inductive Mutex where
  | initializedMtx
  | deviceQueuesMutex
  | asyncRequestsMutex
  | workerMutex
  | requestIdMutex
  | startupMtx
  | lastApsSeqNumsMtx
  /-- `mutex` of a `DeviceQueue` -/
  | deviceQueue (address : Nat)
  /-- `mtx` of a `WorkItem` -/
  | item (address : Nat)
  deriving DecidableEq

/-- A work item and the queue that it belongs to. -/
structure WorkItem where
  address : Nat
  deviceQueue : Nat
  deriving DecidableEq

/-- What decides a branch that does not depend on the modelled globals. -/
structure Choice where
  branch : Bool
  /-- the queue or item that is found or created -/
  address : Nat
  /-- the pending items of `zhalTerm` -/
  items : List WorkItem

/-- The globals that decide which mutexes are taken. -/
structure Data where
  initialized : Bool
  /-- `deviceQueues` is not `NULL`. -/
  deviceQueues : Bool
  workerShutdown : Bool
  deriving DecidableEq

/-- `workerShutdown` starts as true. -/
def Data.initial : Data := ⟨false, false, true⟩

/-- `zhalInit` is at one of these points. The name says what comes next. -/
inductive Init where
  | lockDeviceQueues
  | createDeviceQueues
  | lockAsyncRequests
  | createAsyncRequests
  | lockLastApsSeqNums
  | createLastApsSeqNums
  | lockStartup
  | createReceiver
  /-- `incrementalCondTimedWait` on `STARTUP_COND` without the mutex -/
  | waitStartup
  | readStarted
  | lockWorker
  | clearShutdown
  | lockInitialized
  | setInitialized
  | returned
  deriving DecidableEq

/-- `zhalSendRequest` is at one of these points. -/
inductive Send where
  | lockInitialized
  | readInitialized
  | lockDeviceQueues (initialized : Bool)
  /-- the `NULL` check, the lookup and the creation of the queue -/
  | lookup
  | createItem (deviceQueue : Nat)
  | getNextRequestId (deviceQueue : Nat)
  | lockItem (item : WorkItem)
  | lockQueue (item : WorkItem)
  | queuePush (item : WorkItem)
  | lockWorker (item : WorkItem)
  | signalWorker (item : WorkItem)
  | enterWait (item : WorkItem)
  /-- `incrementalCondTimedWait` without the mutex -/
  | waiting (item : WorkItem)
  /-- the result of the wait -/
  | woken (item : WorkItem)
  | lockAsyncRequests (item : WorkItem)
  | deleteAsync (item : WorkItem)
  | lockQueueAgain (item : WorkItem)
  | queueDelete (item : WorkItem)
  | lockWorkerAgain (item : WorkItem)
  | signalWorkerAgain (item : WorkItem)
  | unlockItem (item : WorkItem)
  | returned
  deriving DecidableEq

/-- `zhalTerm` is at one of these points. -/
inductive Term where
  /-- `zhalNetworkTerm` is a request -/
  | zhalNetworkTerm (point : Send)
  | lockInitialized
  | clearInitialized
  | lockStartup
  | stopReceiver
  | joinReceiver
  | lockWorker
  | setShutdown
  | joinWorker
  | lockAsyncRequests
  | destroyAsyncRequests
  | lockDeviceQueues (pendingWorkItems : List WorkItem)
  | destroyDeviceQueues (pendingWorkItems : List WorkItem)
  | lockItems (pendingWorkItems : List WorkItem)
  | signalItem (item : WorkItem) (pendingWorkItems : List WorkItem)
  | lockLastApsSeqNums
  | destroyLastApsSeqNums
  | returned
  deriving DecidableEq

/-- `workerThreadProc` with `getAvailableWork` and `workOnItem` is at one of these points. -/
inductive Worker where
  | lockWorker
  | checkShutdown
  | lockDeviceQueues
  /-- the loop over the queues -/
  | iterate (availableWork : List WorkItem)
  | queuePop (deviceQueue : Nat) (availableWork : List WorkItem)
  /-- the result of `getAvailableWork` -/
  | evaluate (availableWork : List WorkItem)
  /-- `pthread_cond_wait` without the mutex -/
  | waiting
  | woken
  | unlockWorker (availableWork : List WorkItem)
  | lockItem (availableWork : List WorkItem)
  | checkTimedOut (item : WorkItem) (rest : List WorkItem)
  | lockAsyncRequests (item : WorkItem) (rest : List WorkItem)
  | putAsync (item : WorkItem) (rest : List WorkItem)
  | lockQueue (item : WorkItem) (rest : List WorkItem)
  | setBusy (item : WorkItem) (rest : List WorkItem)
  | xmit (item : WorkItem) (rest : List WorkItem)
  | lockAsyncRequestsAgain (item : WorkItem) (rest : List WorkItem)
  | deleteAsync (item : WorkItem) (rest : List WorkItem)
  | lockQueueAgain (item : WorkItem) (rest : List WorkItem)
  | clearBusy (item : WorkItem) (rest : List WorkItem)
  | signalItem (item : WorkItem) (rest : List WorkItem)
  | returned
  deriving DecidableEq

/-- `handleIpcResponse` is at one of these points. -/
inductive Handler where
  | handleIpcResponse
  | lookup
  | lockQueue (item : WorkItem)
  | clearBusy (item : WorkItem)
  | lockItem (item : WorkItem)
  | complete (item : WorkItem)
  | lockWorker
  | signalWorker
  | returned
  deriving DecidableEq

/-- The start of `asyncReceiverThreadProc`. -/
inductive Receiver where
  | lockStartup
  | setRunning
  | returned
  deriving DecidableEq

/-- `isDuplicateApsSequenceNumber` in the thread of an event. -/
inductive Event where
  | lockLastApsSeqNums
  | compare
  | returned
  deriving DecidableEq

inductive Point where
  | zhalInit (point : Init)
  | zhalSendRequest (point : Send)
  | zhalTerm (point : Term)
  | worker (point : Worker)
  | handler (point : Handler)
  | receiver (point : Receiver)
  | event (point : Event)
  deriving DecidableEq

/-- The call or the thread has returned. -/
def Point.finished : Point → Bool
  | .zhalInit .returned => true
  | .zhalSendRequest .returned => true
  | .zhalTerm .returned => true
  | .worker .returned => true
  | .handler .returned => true
  | .receiver .returned => true
  | .event .returned => true
  | _ => false

section
variable (data : Data)

def nextInit : Init → Option (Operation Mutex × Data × Init)
  | .lockDeviceQueues => some (.lock .deviceQueuesMutex, data, .createDeviceQueues)
  | .createDeviceQueues => some (.unlock .deviceQueuesMutex, { data with deviceQueues := true }, .lockAsyncRequests)
  | .lockAsyncRequests => some (.lock .asyncRequestsMutex, data, .createAsyncRequests)
  | .createAsyncRequests => some (.unlock .asyncRequestsMutex, data, .lockLastApsSeqNums)
  | .lockLastApsSeqNums => some (.lock .lastApsSeqNumsMtx, data, .createLastApsSeqNums)
  | .createLastApsSeqNums => some (.unlock .lastApsSeqNumsMtx, data, .lockStartup)
  | .lockStartup => some (.lock .startupMtx, data, .createReceiver)
  | .createReceiver => some (.unlock .startupMtx, data, .waitStartup)
  | .waitStartup => some (.lock .startupMtx, data, .readStarted)
  | .readStarted => some (.unlock .startupMtx, data, .lockWorker)
  | .lockWorker => some (.lock .workerMutex, data, .clearShutdown)
  | .clearShutdown => some (.unlock .workerMutex, { data with workerShutdown := false }, .lockInitialized)
  | .lockInitialized => some (.lock .initializedMtx, data, .setInitialized)
  | .setInitialized => some (.unlock .initializedMtx, { data with initialized := true }, .returned)
  | .returned => none

/-- The `NULL` check returns without a release of `deviceQueuesMutex`. -/
def nextSend (choice : Choice) : Send → Option (Operation Mutex × Data × Send)
  | .lockInitialized => some (.lock .initializedMtx, data, .readInitialized)
  | .readInitialized => some (.unlock .initializedMtx, data, .lockDeviceQueues data.initialized)
  | .lockDeviceQueues false => some (.pass, data, .returned)
  | .lockDeviceQueues true => some (.lock .deviceQueuesMutex, data, .lookup)
  | .lookup =>
      if data.deviceQueues then
        if choice.branch then some (.unlock .deviceQueuesMutex, data, .createItem choice.address)
        else some (.unlock .deviceQueuesMutex, data, .returned)
      else some (.pass, data, .returned)
  | .createItem deviceQueue =>
      if choice.branch then some (.lock .requestIdMutex, data, .getNextRequestId deviceQueue)
      else some (.pass, data, .returned)
  | .getNextRequestId deviceQueue =>
      some (.unlock .requestIdMutex, data, .lockItem ⟨choice.address, deviceQueue⟩)
  | .lockItem item => some (.lock (.item item.address), data, .lockQueue item)
  | .lockQueue item => some (.lock (.deviceQueue item.deviceQueue), data, .queuePush item)
  | .queuePush item => some (.unlock (.deviceQueue item.deviceQueue), data, .lockWorker item)
  | .lockWorker item => some (.lock .workerMutex, data, .signalWorker item)
  | .signalWorker item => some (.unlock .workerMutex, data, .enterWait item)
  | .enterWait item => some (.unlock (.item item.address), data, .waiting item)
  | .waiting item => some (.lock (.item item.address), data, .woken item)
  | .woken item => some (.pass, data, if choice.branch then .lockAsyncRequests item else .unlockItem item)
  | .lockAsyncRequests item => some (.lock .asyncRequestsMutex, data, .deleteAsync item)
  | .deleteAsync item => some (.unlock .asyncRequestsMutex, data, .lockQueueAgain item)
  | .lockQueueAgain item => some (.lock (.deviceQueue item.deviceQueue), data, .queueDelete item)
  | .queueDelete item => some (.unlock (.deviceQueue item.deviceQueue), data, .lockWorkerAgain item)
  | .lockWorkerAgain item => some (.lock .workerMutex, data, .signalWorkerAgain item)
  | .signalWorkerAgain item => some (.unlock .workerMutex, data, .unlockItem item)
  | .unlockItem item => some (.unlock (.item item.address), data, .returned)
  | .returned => none

def nextTerm (choice : Choice) : Term → Option (Operation Mutex × Data × Term)
  | .zhalNetworkTerm .returned => some (.pass, data, .lockInitialized)
  | .zhalNetworkTerm point =>
      (nextSend data choice point).map fun taken => (taken.1, taken.2.1, .zhalNetworkTerm taken.2.2)
  | .lockInitialized => some (.lock .initializedMtx, data, .clearInitialized)
  | .clearInitialized => some (.unlock .initializedMtx, { data with initialized := false }, .lockStartup)
  | .lockStartup => some (.lock .startupMtx, data, .stopReceiver)
  | .stopReceiver => some (.unlock .startupMtx, data, .joinReceiver)
  | .joinReceiver => some (.pass, data, .lockWorker)
  | .lockWorker => some (.lock .workerMutex, data, .setShutdown)
  | .setShutdown => some (.unlock .workerMutex, { data with workerShutdown := true }, .joinWorker)
  | .joinWorker => some (.pass, data, .lockAsyncRequests)
  | .lockAsyncRequests => some (.lock .asyncRequestsMutex, data, .destroyAsyncRequests)
  | .destroyAsyncRequests => some (.unlock .asyncRequestsMutex, data, .lockDeviceQueues choice.items)
  | .lockDeviceQueues pendingWorkItems =>
      some (.lock .deviceQueuesMutex, data, .destroyDeviceQueues pendingWorkItems)
  | .destroyDeviceQueues pendingWorkItems =>
      some (.unlock .deviceQueuesMutex, { data with deviceQueues := false },
        .lockItems (pendingWorkItems ++ choice.items))
  | .lockItems [] => some (.pass, data, .lockLastApsSeqNums)
  | .lockItems (item :: rest) => some (.lock (.item item.address), data, .signalItem item rest)
  | .signalItem item rest => some (.unlock (.item item.address), data, .lockItems rest)
  | .lockLastApsSeqNums => some (.lock .lastApsSeqNumsMtx, data, .destroyLastApsSeqNums)
  | .destroyLastApsSeqNums => some (.unlock .lastApsSeqNumsMtx, data, .returned)
  | .returned => none

def nextWorker (choice : Choice) : Worker → Option (Operation Mutex × Data × Worker)
  | .lockWorker => some (.lock .workerMutex, data, .checkShutdown)
  | .checkShutdown =>
      if data.workerShutdown then some (.unlock .workerMutex, data, .returned)
      else some (.pass, data, .lockDeviceQueues)
  | .lockDeviceQueues => some (.lock .deviceQueuesMutex, data, .iterate [])
  | .iterate availableWork =>
      if choice.branch then
        some (.lock (.deviceQueue choice.address), data, .queuePop choice.address availableWork)
      else some (.unlock .deviceQueuesMutex, data, .evaluate availableWork)
  | .queuePop deviceQueue availableWork =>
      some (.unlock (.deviceQueue deviceQueue), data,
        .iterate (if choice.branch then availableWork ++ [⟨choice.address, deviceQueue⟩] else availableWork))
  | .evaluate [] => some (.unlock .workerMutex, data, .waiting)
  | .evaluate availableWork => some (.pass, data, .unlockWorker availableWork)
  | .waiting => some (.lock .workerMutex, data, .woken)
  | .woken =>
      if choice.branch || data.workerShutdown then some (.pass, data, .unlockWorker [])
      else some (.pass, data, .lockDeviceQueues)
  | .unlockWorker availableWork =>
      some (.unlock .workerMutex, data,
        if data.workerShutdown then .returned else .lockItem availableWork)
  | .lockItem [] => some (.pass, data, .lockWorker)
  | .lockItem (item :: rest) => some (.lock (.item item.address), data, .checkTimedOut item rest)
  | .checkTimedOut item rest =>
      if choice.branch then some (.unlock (.item item.address), data, .lockItem rest)
      else some (.pass, data, .lockAsyncRequests item rest)
  | .lockAsyncRequests item rest => some (.lock .asyncRequestsMutex, data, .putAsync item rest)
  | .putAsync item rest => some (.unlock .asyncRequestsMutex, data, .lockQueue item rest)
  | .lockQueue item rest => some (.lock (.deviceQueue item.deviceQueue), data, .setBusy item rest)
  | .setBusy item rest => some (.unlock (.deviceQueue item.deviceQueue), data, .xmit item rest)
  | .xmit item rest =>
      if choice.branch then some (.unlock (.item item.address), data, .lockItem rest)
      else some (.pass, data, .lockAsyncRequestsAgain item rest)
  | .lockAsyncRequestsAgain item rest => some (.lock .asyncRequestsMutex, data, .deleteAsync item rest)
  | .deleteAsync item rest => some (.unlock .asyncRequestsMutex, data, .lockQueueAgain item rest)
  | .lockQueueAgain item rest => some (.lock (.deviceQueue item.deviceQueue), data, .clearBusy item rest)
  | .clearBusy item rest => some (.unlock (.deviceQueue item.deviceQueue), data, .signalItem item rest)
  | .signalItem item rest => some (.unlock (.item item.address), data, .lockItem rest)
  | .returned => none

def nextHandler (choice : Choice) : Handler → Option (Operation Mutex × Data × Handler)
  | .handleIpcResponse =>
      if choice.branch then some (.lock .asyncRequestsMutex, data, .lookup) else some (.pass, data, .lockWorker)
  | .lookup =>
      some (.unlock .asyncRequestsMutex, data,
        match choice.items with
        | [] => .lockWorker
        | item :: _ => .lockQueue item)
  | .lockQueue item => some (.lock (.deviceQueue item.deviceQueue), data, .clearBusy item)
  | .clearBusy item => some (.unlock (.deviceQueue item.deviceQueue), data, .lockItem item)
  | .lockItem item => some (.lock (.item item.address), data, .complete item)
  | .complete item => some (.unlock (.item item.address), data, .lockWorker)
  | .lockWorker => some (.lock .workerMutex, data, .signalWorker)
  | .signalWorker => some (.unlock .workerMutex, data, .returned)
  | .returned => none

def nextReceiver : Receiver → Option (Operation Mutex × Data × Receiver)
  | .lockStartup => some (.lock .startupMtx, data, .setRunning)
  | .setRunning => some (.unlock .startupMtx, data, .returned)
  | .returned => none

def nextEvent : Event → Option (Operation Mutex × Data × Event)
  | .lockLastApsSeqNums => some (.lock .lastApsSeqNumsMtx, data, .compare)
  | .compare => some (.unlock .lastApsSeqNumsMtx, data, .returned)
  | .returned => none

end

/-- The code of all threads. -/
def next (data : Data) (point : Point) (choice : Choice) : Option (Operation Mutex × Data × Point) :=
  match point with
  | .zhalInit point => (nextInit data point).map fun taken => (taken.1, taken.2.1, .zhalInit taken.2.2)
  | .zhalSendRequest point =>
      (nextSend data choice point).map fun taken => (taken.1, taken.2.1, .zhalSendRequest taken.2.2)
  | .zhalTerm point => (nextTerm data choice point).map fun taken => (taken.1, taken.2.1, .zhalTerm taken.2.2)
  | .worker point => (nextWorker data choice point).map fun taken => (taken.1, taken.2.1, .worker taken.2.2)
  | .handler point => (nextHandler data choice point).map fun taken => (taken.1, taken.2.1, .handler taken.2.2)
  | .receiver point => (nextReceiver data point).map fun taken => (taken.1, taken.2.1, .receiver taken.2.2)
  | .event point => (nextEvent data point).map fun taken => (taken.1, taken.2.1, .event taken.2.2)

/-- A call or a thread starts at one of these points. -/
def Point.starting : Point → Bool
  | .zhalInit .lockDeviceQueues => true
  | .zhalSendRequest .lockInitialized => true
  | .zhalTerm (.zhalNetworkTerm .lockInitialized) => true
  | .worker .lockWorker => true
  | .handler .handleIpcResponse => true
  | .receiver .lockStartup => true
  | .event .lockLastApsSeqNums => true
  | _ => false

/-- A run of the HAL interleaves its calls and its threads. -/
def run (start : Threads.Configuration (Shared Mutex Data) (Thread Point)) (schedule : List (Nat × Choice)) :
    Option (Threads.Configuration (Shared Mutex Data) (Thread Point)) :=
  Threads.run (move next) start schedule

end Barton.ZigbeeLocks
