/-
This file contains the request queues of the Zigbee HAL between `zhalInit` and `zhalTerm`.
Each section under a mutex is one move. The locks that are held over several moves are part of the state.
-/

import Mathlib.Data.Rat.Defs
import Mathlib.Tactic
import BartonCore.ToMathlib.Threads

namespace Barton.Zigbee

/-- The fields of `WorkItem` that do not change. The address stands for the pointer. -/
structure WorkItem where
  address : Nat
  eui64 : UInt64
  requestId : UInt32
  deriving DecidableEq

/-- An item of a datagram. The value of a number is that of its `double`. -/
inductive JsonItem where
  | null
  | bool (value : Bool)
  | number (value : ℚ)
  | string (value : String)
  | array
  | object
  deriving DecidableEq

/-- `cJSON_Parse` fills the field `valueint` of every item. It cuts a number off and limits it to an `int`. -/
def JsonItem.valueint : JsonItem → Int32
  | .number value =>
      if 2147483647 ≤ value then Int32.maxValue
      else if value ≤ -2147483648 then Int32.minValue
      else Int32.ofInt (value.num.tdiv value.den)
  | .bool true => 1
  | _ => 0

/-- A received `ipcResponse`. The datagrams are numbered, and `requestId` is the item under this name. -/
structure Response where
  number : Nat
  requestId : Option JsonItem
  deriving DecidableEq

/-- The type of the item is not checked, and its `valueint` is compared as an unsigned number. -/
def Response.rid (response : Response) : Option UInt32 :=
  response.requestId.map fun requestIdJson => requestIdJson.valueint.toUInt32

/-- The fields of `WorkItem` that change. -/
structure ItemState where
  response : Option Response
  timedOut : Bool
  /-- `mtx` is held -/
  locked : Bool
  deriving DecidableEq

/-- The worker thread is at one of these points. -/
inductive Worker where
  /-- `getAvailableWork` under `workerMutex` and `deviceQueuesMutex`, with the queues that it has not reached -/
  | scanning (remaining : List UInt64) (availableWork : List WorkItem)
  /-- `pthread_cond_wait` on `workerCond` -/
  | waiting (signaled : Bool)
  /-- the loop over the items -/
  | working (availableWork : List WorkItem)
  /-- the item is locked and has not timed out -/
  | adding (item : WorkItem) (rest : List WorkItem)
  /-- the item is in `asyncRequests`, and the queue is not marked as busy -/
  | marking (item : WorkItem) (rest : List WorkItem)
  | sending (item : WorkItem) (rest : List WorkItem)
  /-- `xmit` has sent the request -/
  | transmitting (item : WorkItem) (rest : List WorkItem)
  /-- `xmit` failed -/
  | failing (item : WorkItem) (rest : List WorkItem)
  /-- the result of the deletion from `asyncRequests` -/
  | clearing (item : WorkItem) (rest : List WorkItem) (didDeleteFromAsyncRequests : Bool)
  deriving DecidableEq

/-- A call of `zhalSendRequest` is at one of these points. -/
inductive Caller where
  | zhalSendRequest (targetEui64 : UInt64)
  /-- the queue of the device exists -/
  | createItem (targetEui64 : UInt64)
  /-- the item is locked -/
  | queuePush (item : WorkItem)
  | signalWorker (item : WorkItem)
  | enterWait (item : WorkItem)
  /-- `incrementalCondTimedWait` without the lock of the item -/
  | waiting (item : WorkItem)
  /-- the wait has returned `ETIMEDOUT` -/
  | timedOut (item : WorkItem)
  /-- the result of the deletion from `asyncRequests` -/
  | queueDelete (item : WorkItem) (didDeleteFromAsyncRequests : Bool)
  | signalTimeout (item : WorkItem)
  /-- the wait has ended in time -/
  | takeResponse (item : WorkItem)
  | unlockItem (item : WorkItem) (result : Option Response)
  | returned (item : WorkItem) (result : Option Response)
  deriving DecidableEq

/-- A call of `handleIpcResponse` is at one of these points. -/
inductive Handler where
  | handleIpcResponse (response : Response)
  /-- the item is no longer in `asyncRequests` -/
  | clearBusy (response : Response) (item : WorkItem)
  | complete (response : Response) (item : WorkItem)
  | signalWorker (response : Response) (item : Option WorkItem)
  | returned (response : Response) (item : Option WorkItem)
  deriving DecidableEq

/-- There is one worker, and its state is shared. -/
inductive Party where
  | worker
  | caller (caller : Caller)
  | handler (handler : Handler)
  deriving DecidableEq

/-- The globals of the HAL. -/
structure Zhal where
  /-- the keys of `deviceQueues` in the order of its iterator -/
  deviceQueues : List UInt64
  queue : UInt64 → List WorkItem
  isBusy : UInt64 → Int
  asyncRequests : List WorkItem
  requestId : UInt32
  items : WorkItem → ItemState
  worker : Worker
  /-- every created item -/
  created : List WorkItem
  /-- every item that was pushed to a queue, in order -/
  pushed : List WorkItem
  /-- every item that was sent, in order -/
  transmitted : List WorkItem

def Zhal.initial (requestId : UInt32) : Zhal where
  deviceQueues := []
  queue _ := []
  isBusy _ := 0
  asyncRequests := []
  requestId := requestId
  items _ := ⟨none, false, false⟩
  worker := .working []
  created := []
  pushed := []
  transmitted := []

/-- `getNextRequestId` wraps after `INT32_MAX`. -/
def nextRequestId (requestId : UInt32) : UInt32 :=
  if 2147483647 < requestId + 1 then 0 else requestId + 1

/-- The worker holds `workerMutex` and `deviceQueuesMutex` during a scan. -/
def Worker.scans : Worker → Bool
  | .scanning _ _ => true
  | _ => false

/-- A signal on `workerCond` is lost when the worker does not wait. -/
def Worker.signal : Worker → Worker
  | .waiting _ => .waiting true
  | worker => worker

section
variable (zhal : Zhal)

def Zhal.lock (item : WorkItem) (locked : Bool) : Zhal :=
  { zhal with items := Function.update zhal.items item { zhal.items item with locked := locked } }

def Zhal.addBusy (eui64 : UInt64) (change : Int) : Zhal :=
  { zhal with isBusy := Function.update zhal.isBusy eui64 (zhal.isBusy eui64 + change) }

def Zhal.findAsync (requestId : UInt32) : Option WorkItem :=
  zhal.asyncRequests.find? fun item => item.requestId = requestId

/-- `hashMapDelete` on `asyncRequests` -/
def Zhal.deleteAsync (requestId : UInt32) : Zhal :=
  { zhal with asyncRequests := zhal.asyncRequests.eraseP fun item => item.requestId = requestId }

/-- `hashMapPut` refuses a key that is present. -/
def Zhal.putAsync (item : WorkItem) : Zhal :=
  if (zhal.findAsync item.requestId).isSome then zhal
  else { zhal with asyncRequests := zhal.asyncRequests ++ [item] }

/-- The busy count is lowered only when it is positive. -/
def Zhal.clearBusy (eui64 : UInt64) : Zhal :=
  if 0 < zhal.isBusy eui64 then zhal.addBusy eui64 (-1) else zhal

/-- One queue of `getAvailableWork`. -/
def scanQueue (eui64 : UInt64) (remaining : List UInt64) (availableWork : List WorkItem) : Zhal :=
  if zhal.isBusy eui64 = 0 then
    match zhal.queue eui64 with
    | [] => { zhal with worker := .scanning remaining availableWork }
    | item :: rest =>
        { zhal with
          queue := Function.update zhal.queue eui64 rest
          worker := .scanning remaining (availableWork ++ [item]) }
  else { zhal with worker := .scanning remaining availableWork }

/-- The move of the worker. The choice is the result of `xmit`. -/
def moveWorker (choice : Bool) : Option Zhal :=
  match zhal.worker with
  | .scanning (eui64 :: remaining) availableWork => some (scanQueue zhal eui64 remaining availableWork)
  | .scanning [] [] => some { zhal with worker := .waiting false }
  | .scanning [] availableWork => some { zhal with worker := .working availableWork }
  | .waiting _ => some { zhal with worker := .scanning zhal.deviceQueues [] }
  | .working [] => some { zhal with worker := .scanning zhal.deviceQueues [] }
  | .working (item :: rest) =>
      if (zhal.items item).locked then none
      else if (zhal.items item).timedOut then some { zhal with worker := .working rest }
      else some { zhal.lock item true with worker := .adding item rest }
  | .adding item rest => some { zhal.putAsync item with worker := .marking item rest }
  | .marking item rest => some { zhal.addBusy item.eui64 1 with worker := .sending item rest }
  | .sending item rest =>
      some { zhal with
        transmitted := zhal.transmitted ++ [item]
        worker := .transmitting item rest }
  | .transmitting item rest =>
      if choice then some { zhal.lock item false with worker := .working rest }
      else some { zhal with worker := .failing item rest }
  | .failing item rest =>
      some { zhal.deleteAsync item.requestId with
        worker := .clearing item rest (zhal.findAsync item.requestId).isSome }
  | .clearing item rest didDeleteFromAsyncRequests =>
      let cleared := if didDeleteFromAsyncRequests then zhal.clearBusy item.eui64 else zhal
      some { cleared.lock item false with worker := .working rest }

/-- The signal waits for `workerMutex`. -/
def Zhal.signalWorker : Option Zhal :=
  if zhal.worker.scans then none else some { zhal with worker := zhal.worker.signal }

/-- The section of a timed out call under the mutex of its queue. -/
def Zhal.deleteQueued (item : WorkItem) (didDeleteFromAsyncRequests : Bool) : Zhal :=
  let didDeleteFromQueue := item ∈ zhal.queue item.eui64
  let deleted := { zhal with
    queue := Function.update zhal.queue item.eui64 ((zhal.queue item.eui64).erase item) }
  if didDeleteFromAsyncRequests then deleted.addBusy item.eui64 (-1)
  else if didDeleteFromQueue then deleted
  else { deleted with
    items := Function.update deleted.items item { deleted.items item with timedOut := true } }

/-- The move of a caller. The wait can end at any moment, and the choice says whether it has timed out. POSIX
allows it to end without a signal. -/
def moveCaller (caller : Caller) (choice : Bool) : Option (Zhal × Caller) :=
  match caller with
  | .zhalSendRequest targetEui64 =>
      if zhal.worker.scans then none
      else some ({ zhal with
        deviceQueues := if targetEui64 ∈ zhal.deviceQueues then zhal.deviceQueues
          else zhal.deviceQueues ++ [targetEui64] }, .createItem targetEui64)
  | .createItem targetEui64 =>
      let item : WorkItem := ⟨zhal.created.length, targetEui64, zhal.requestId⟩
      some ({ zhal with
        requestId := nextRequestId zhal.requestId
        created := zhal.created ++ [item]
        items := Function.update zhal.items item ⟨none, false, true⟩ }, .queuePush item)
  | .queuePush item =>
      some ({ zhal with
        queue := Function.update zhal.queue item.eui64 (zhal.queue item.eui64 ++ [item])
        pushed := zhal.pushed ++ [item] }, .signalWorker item)
  | .signalWorker item => zhal.signalWorker.map fun next => (next, .enterWait item)
  | .enterWait item => some (zhal.lock item false, .waiting item)
  | .waiting item =>
      if (zhal.items item).locked then none
      else some (zhal.lock item true, if choice then .timedOut item else .takeResponse item)
  | .timedOut item =>
      some (zhal.deleteAsync item.requestId,
        .queueDelete item (zhal.findAsync item.requestId).isSome)
  | .queueDelete item didDeleteFromAsyncRequests =>
      some (zhal.deleteQueued item didDeleteFromAsyncRequests, .signalTimeout item)
  | .signalTimeout item => zhal.signalWorker.map fun next => (next, .unlockItem item none)
  | .takeResponse item =>
      some ({ zhal with items := Function.update zhal.items item { zhal.items item with response := none } },
        .unlockItem item (zhal.items item).response)
  | .unlockItem item result => some (zhal.lock item false, .returned item result)
  | .returned _ _ => none

/-- The move of a call of `handleIpcResponse`. -/
def moveHandler (handler : Handler) : Option (Zhal × Handler) :=
  match handler with
  | .handleIpcResponse response =>
      match response.rid with
      | none => some (zhal, .signalWorker response none)
      | some rid =>
          match zhal.findAsync rid with
          | none => some (zhal, .signalWorker response none)
          | some item => some (zhal.deleteAsync rid, .clearBusy response item)
  | .clearBusy response item => some (zhal.clearBusy item.eui64, .complete response item)
  | .complete response item =>
      if (zhal.items item).locked then none
      else some ({ zhal with
        items := Function.update zhal.items item { zhal.items item with response := some response } },
          .signalWorker response (some item))
  | .signalWorker response item => zhal.signalWorker.map fun next => (next, .returned response item)
  | .returned _ _ => none

def move (party : Party) (choice : Bool) : Option (Zhal × Party) :=
  match party with
  | .worker => (moveWorker zhal choice).map fun next => (next, .worker)
  | .caller caller => (moveCaller zhal caller choice).map fun moved => (moved.1, .caller moved.2)
  | .handler handler => (moveHandler zhal handler).map fun moved => (moved.1, .handler moved.2)

end

/-- A run interleaves the callers, the worker and the handlers. -/
def run (start : Threads.Configuration Zhal Party) (schedule : List (Nat × Bool)) :
    Option (Threads.Configuration Zhal Party) :=
  Threads.run move start schedule

end Barton.Zigbee
