import BartonCore.Construction.Zigbee.Requests

namespace Barton.Zigbee

section
variable (zhal : Zhal)

/-- A possible move of the worker has one of these forms. -/
inductive WorkerStep : Zhal → Prop where
  | pass {eui64 : UInt64} {remaining : List UInt64} {availableWork : List WorkItem}
      (point : zhal.worker = .scanning (eui64 :: remaining) availableWork)
      (idle : zhal.isBusy eui64 ≠ 0 ∨ zhal.queue eui64 = []) :
      WorkerStep { zhal with worker := .scanning remaining availableWork }
  | pop {eui64 : UInt64} {remaining : List UInt64} {availableWork rest : List WorkItem} {item : WorkItem}
      (point : zhal.worker = .scanning (eui64 :: remaining) availableWork)
      (free : zhal.isBusy eui64 = 0) (queued : zhal.queue eui64 = item :: rest) :
      WorkerStep { zhal with
        queue := Function.update zhal.queue eui64 rest
        worker := .scanning remaining (availableWork ++ [item]) }
  | sleep (point : zhal.worker = .scanning [] []) : WorkerStep { zhal with worker := .waiting false }
  | work {availableWork : List WorkItem} (point : zhal.worker = .scanning [] availableWork)
      (some : availableWork ≠ []) : WorkerStep { zhal with worker := .working availableWork }
  | scan (point : (∃ signaled, zhal.worker = .waiting signaled) ∨ zhal.worker = .working []) :
      WorkerStep { zhal with worker := .scanning zhal.deviceQueues [] }
  | skip {item : WorkItem} {rest : List WorkItem} (point : zhal.worker = .working (item :: rest)) :
      WorkerStep { zhal with worker := .working rest }
  | lock {item : WorkItem} {rest : List WorkItem} (point : zhal.worker = .working (item :: rest))
      (free : (zhal.items item).locked = false) :
      WorkerStep { zhal.lock item true with worker := .adding item rest }
  | add {item : WorkItem} {rest : List WorkItem} (point : zhal.worker = .adding item rest)
      (unknown : zhal.findAsync item.requestId = none) :
      WorkerStep { zhal with
        asyncRequests := zhal.asyncRequests ++ [item]
        worker := .marking item rest }
  | refuse {item entry : WorkItem} {rest : List WorkItem} (point : zhal.worker = .adding item rest)
      (found : zhal.findAsync item.requestId = some entry) :
      WorkerStep { zhal with worker := .marking item rest }
  | mark {item : WorkItem} {rest : List WorkItem} (point : zhal.worker = .marking item rest) :
      WorkerStep { zhal.addBusy item.eui64 1 with worker := .sending item rest }
  | send {item : WorkItem} {rest : List WorkItem} (point : zhal.worker = .sending item rest) :
      WorkerStep { zhal with
        transmitted := zhal.transmitted ++ [item]
        worker := .transmitting item rest }
  | sent {item : WorkItem} {rest : List WorkItem} (point : zhal.worker = .transmitting item rest) :
      WorkerStep { zhal.lock item false with worker := .working rest }
  | fail {item : WorkItem} {rest : List WorkItem} (point : zhal.worker = .transmitting item rest) :
      WorkerStep { zhal with worker := .failing item rest }
  | withdraw {item entry : WorkItem} {rest : List WorkItem} (point : zhal.worker = .failing item rest)
      (found : zhal.findAsync item.requestId = some entry) :
      WorkerStep { zhal.deleteAsync item.requestId with worker := .clearing item rest true }
  | miss {item : WorkItem} {rest : List WorkItem} (point : zhal.worker = .failing item rest)
      (unknown : zhal.findAsync item.requestId = none) :
      WorkerStep { zhal with worker := .clearing item rest false }
  | lower {item : WorkItem} {rest : List WorkItem} (point : zhal.worker = .clearing item rest true)
      (busy : 0 < zhal.isBusy item.eui64) :
      WorkerStep { (zhal.addBusy item.eui64 (-1)).lock item false with worker := .working rest }
  | keep {item : WorkItem} {rest : List WorkItem} {deleted : Bool}
      (point : zhal.worker = .clearing item rest deleted)
      (idle : deleted = true → zhal.isBusy item.eui64 ≤ 0) :
      WorkerStep { zhal.lock item false with worker := .working rest }

/-- A possible move of a caller has one of these forms. -/
inductive CallerStep : Caller → Zhal → Caller → Prop where
  | lookup {targetEui64 : UInt64} (free : zhal.worker.scans = false) :
      CallerStep (.zhalSendRequest targetEui64)
        { zhal with
          deviceQueues := if targetEui64 ∈ zhal.deviceQueues then zhal.deviceQueues
            else zhal.deviceQueues ++ [targetEui64] }
        (.createItem targetEui64)
  | create {targetEui64 : UInt64} {item : WorkItem}
      (made : item = ⟨zhal.created.length, targetEui64, zhal.requestId⟩) :
      CallerStep (.createItem targetEui64)
        { zhal with
          requestId := nextRequestId zhal.requestId
          created := zhal.created ++ [item]
          items := Function.update zhal.items item ⟨none, false, true⟩ }
        (.queuePush item)
  | push {item : WorkItem} :
      CallerStep (.queuePush item)
        { zhal with
          queue := Function.update zhal.queue item.eui64 (zhal.queue item.eui64 ++ [item])
          pushed := zhal.pushed ++ [item] }
        (.signalWorker item)
  | signal {item : WorkItem} (free : zhal.worker.scans = false) :
      CallerStep (.signalWorker item) { zhal with worker := zhal.worker.signal } (.enterWait item)
  | enterWait {item : WorkItem} :
      CallerStep (.enterWait item) (zhal.lock item false) (.waiting item)
  | timeOut {item : WorkItem} (free : (zhal.items item).locked = false) :
      CallerStep (.waiting item) (zhal.lock item true) (.timedOut item)
  | wake {item : WorkItem} (free : (zhal.items item).locked = false) :
      CallerStep (.waiting item) (zhal.lock item true) (.takeResponse item)
  | withdraw {item entry : WorkItem} (found : zhal.findAsync item.requestId = some entry) :
      CallerStep (.timedOut item) (zhal.deleteAsync item.requestId) (.queueDelete item true)
  | miss {item : WorkItem} (unknown : zhal.findAsync item.requestId = none) :
      CallerStep (.timedOut item) zhal (.queueDelete item false)
  | lower {item : WorkItem} :
      CallerStep (.queueDelete item true)
        { zhal with
          queue := Function.update zhal.queue item.eui64 ((zhal.queue item.eui64).erase item)
          isBusy := Function.update zhal.isBusy item.eui64 (zhal.isBusy item.eui64 + -1) }
        (.signalTimeout item)
  | dequeue {item : WorkItem} (queued : item ∈ zhal.queue item.eui64) :
      CallerStep (.queueDelete item false)
        { zhal with
          queue := Function.update zhal.queue item.eui64 ((zhal.queue item.eui64).erase item) }
        (.signalTimeout item)
  | abandon {item : WorkItem} (absent : item ∉ zhal.queue item.eui64) :
      CallerStep (.queueDelete item false)
        { zhal with
          queue := Function.update zhal.queue item.eui64 ((zhal.queue item.eui64).erase item)
          items := Function.update zhal.items item { zhal.items item with timedOut := true } }
        (.signalTimeout item)
  | signalTimeout {item : WorkItem} (free : zhal.worker.scans = false) :
      CallerStep (.signalTimeout item) { zhal with worker := zhal.worker.signal } (.unlockItem item none)
  | take {item : WorkItem} :
      CallerStep (.takeResponse item)
        { zhal with
          items := Function.update zhal.items item { zhal.items item with response := none } }
        (.unlockItem item (zhal.items item).response)
  | unlock {item : WorkItem} {result : Option Response} :
      CallerStep (.unlockItem item result) (zhal.lock item false) (.returned item result)

/-- A possible move of a handler has one of these forms. -/
inductive HandlerStep : Handler → Zhal → Handler → Prop where
  | ignore {response : Response} (unknown : response.rid.bind zhal.findAsync = none) :
      HandlerStep (.handleIpcResponse response) zhal (.signalWorker response none)
  | find {response : Response} {rid : UInt32} {item : WorkItem} (carried : response.rid = some rid)
      (found : zhal.findAsync rid = some item) :
      HandlerStep (.handleIpcResponse response) (zhal.deleteAsync rid) (.clearBusy response item)
  | lower {response : Response} {item : WorkItem} (busy : 0 < zhal.isBusy item.eui64) :
      HandlerStep (.clearBusy response item) (zhal.addBusy item.eui64 (-1)) (.complete response item)
  | keep {response : Response} {item : WorkItem} (idle : zhal.isBusy item.eui64 ≤ 0) :
      HandlerStep (.clearBusy response item) zhal (.complete response item)
  | complete {response : Response} {item : WorkItem} (free : (zhal.items item).locked = false) :
      HandlerStep (.complete response item)
        { zhal with
          items := Function.update zhal.items item { zhal.items item with response := some response } }
        (.signalWorker response (some item))
  | signal {response : Response} {item : Option WorkItem} (free : zhal.worker.scans = false) :
      HandlerStep (.signalWorker response item) { zhal with worker := zhal.worker.signal }
        (.returned response item)

/-- A possible move has one of these forms. -/
inductive Step : Party → Zhal → Party → Prop where
  | worker {next : Zhal} (taken : WorkerStep zhal next) : Step .worker next .worker
  | caller {caller moved : Caller} {next : Zhal} (taken : CallerStep zhal caller next moved) :
      Step (.caller caller) next (.caller moved)
  | handler {handler moved : Handler} {next : Zhal} (taken : HandlerStep zhal handler next moved) :
      Step (.handler handler) next (.handler moved)

end

section
variable {zhal next : Zhal} {choice : Bool}

theorem signalWorker_cases (signaled : zhal.signalWorker = some next) :
    zhal.worker.scans = false ∧ next = { zhal with worker := zhal.worker.signal } := by
  unfold Zhal.signalWorker at signaled
  split at signaled
  · contradiction
  · rename_i free
    cases signaled
    exact ⟨by simpa using free, rfl⟩

theorem deleteAsync_of_none {requestId : UInt32} (unknown : zhal.findAsync requestId = none) :
    zhal.deleteAsync requestId = zhal := by
  have absent := List.find?_eq_none.mp unknown
  unfold Zhal.deleteAsync
  rw [List.eraseP_of_forall_not absent]

theorem moveWorker_step (taken : moveWorker zhal choice = some next) : WorkerStep zhal next := by
  unfold moveWorker at taken
  split at taken
  · rename_i eui64 remaining availableWork point
    cases taken
    unfold scanQueue
    split
    · rename_i free
      split
      · rename_i empty
        exact .pass point (Or.inr empty)
      · rename_i item rest queued
        exact .pop point free queued
    · rename_i busy
      exact .pass point (Or.inl busy)
  · rename_i point
    cases taken
    exact .sleep point
  · rename_i availableWork some point
    cases taken
    exact .work point some
  · rename_i signaled point
    cases taken
    exact .scan (Or.inl ⟨signaled, point⟩)
  · rename_i point
    cases taken
    exact .scan (Or.inr point)
  · rename_i item rest point
    split at taken
    · contradiction
    · rename_i free
      split at taken
      · cases taken
        exact .skip point
      · cases taken
        exact .lock point (by simpa using free)
  · rename_i item rest point
    cases taken
    cases known : zhal.findAsync item.requestId with
    | none =>
        unfold Zhal.putAsync
        rw [known]
        exact .add point known
    | some entry =>
        unfold Zhal.putAsync
        rw [known]
        exact .refuse point known
  · cases taken
    exact .mark ‹_›
  · cases taken
    exact .send ‹_›
  · split at taken
    · cases taken
      exact .sent ‹_›
    · cases taken
      exact .fail ‹_›
  · rename_i item rest point
    cases taken
    cases known : zhal.findAsync item.requestId with
    | none =>
        rw [deleteAsync_of_none known]
        exact .miss point known
    | some entry => exact .withdraw point known
  · rename_i item rest deleted point
    cases taken
    cases deleted with
    | false => exact .keep point nofun
    | true =>
        simp only [↓reduceIte, Zhal.clearBusy]
        split
        · rename_i busy
          exact .lower point busy
        · rename_i idle
          exact .keep point fun _ => not_lt.mp idle

theorem moveCaller_step {caller moved : Caller} (taken : moveCaller zhal caller choice = some (next, moved)) :
    CallerStep zhal caller next moved := by
  cases caller with
  | zhalSendRequest targetEui64 =>
      rw [moveCaller] at taken
      split at taken
      · contradiction
      · rename_i free
        cases taken
        exact .lookup (by simpa using free)
  | signalWorker item =>
      obtain ⟨after, signaled, same⟩ := Option.map_eq_some_iff.mp taken
      obtain ⟨free, rfl⟩ := signalWorker_cases signaled
      cases same
      exact .signal free
  | signalTimeout item =>
      obtain ⟨after, signaled, same⟩ := Option.map_eq_some_iff.mp taken
      obtain ⟨free, rfl⟩ := signalWorker_cases signaled
      cases same
      exact .signalTimeout free
  | waiting item =>
      rw [moveCaller] at taken
      split at taken
      · contradiction
      · rename_i free
        cases choice with
        | true =>
            cases taken
            exact .timeOut (by simpa using free)
        | false =>
            cases taken
            exact .wake (by simpa using free)
  | createItem targetEui64 =>
      cases taken
      exact .create rfl
  | queuePush item =>
      cases taken
      exact .push
  | enterWait item =>
      cases taken
      exact .enterWait
  | timedOut item =>
      cases taken
      cases known : zhal.findAsync item.requestId with
      | none =>
          rw [deleteAsync_of_none known]
          exact .miss known
      | some entry => exact .withdraw known
  | queueDelete item deleted =>
      cases taken
      cases deleted with
      | true => exact .lower
      | false =>
          by_cases queued : item ∈ zhal.queue item.eui64
          · simp only [Zhal.deleteQueued, Bool.false_eq_true, ↓reduceIte, if_pos queued]
            exact .dequeue queued
          · simp only [Zhal.deleteQueued, Bool.false_eq_true, ↓reduceIte, if_neg queued]
            exact .abandon queued
  | takeResponse item =>
      cases taken
      exact .take
  | unlockItem item result =>
      cases taken
      exact .unlock
  | returned item result => contradiction

theorem moveHandler_step {handler moved : Handler} (taken : moveHandler zhal handler = some (next, moved)) :
    HandlerStep zhal handler next moved := by
  cases handler with
  | handleIpcResponse response =>
      cases carried : response.rid with
      | none =>
          rw [moveHandler, carried] at taken
          cases taken
          exact .ignore (by rw [carried]; rfl)
      | some rid =>
          cases found : zhal.findAsync rid with
          | none =>
              simp only [moveHandler, carried, found] at taken
              cases taken
              exact .ignore (by rw [carried]; exact found)
          | some item =>
              simp only [moveHandler, carried, found] at taken
              cases taken
              exact .find carried found
  | clearBusy response item =>
      cases taken
      unfold Zhal.clearBusy
      split
      · rename_i busy
        exact .lower busy
      · rename_i idle
        exact .keep (not_lt.mp idle)
  | complete response item =>
      rw [moveHandler] at taken
      split at taken
      · contradiction
      · rename_i free
        cases taken
        exact .complete (by simpa using free)
  | signalWorker response item =>
      obtain ⟨after, signaled, same⟩ := Option.map_eq_some_iff.mp taken
      obtain ⟨free, rfl⟩ := signalWorker_cases signaled
      cases same
      exact .signal free
  | returned response item => contradiction

theorem move_step {party moved : Party} (taken : move zhal party choice = some (next, moved)) :
    Step zhal party next moved := by
  cases party with
  | worker =>
      obtain ⟨after, made, same⟩ := Option.map_eq_some_iff.mp taken
      cases same
      exact .worker (moveWorker_step made)
  | caller caller =>
      obtain ⟨⟨after, point⟩, made, same⟩ := Option.map_eq_some_iff.mp taken
      cases same
      exact .caller (moveCaller_step made)
  | handler handler =>
      obtain ⟨⟨after, point⟩, made, same⟩ := Option.map_eq_some_iff.mp taken
      cases same
      exact .handler (moveHandler_step made)

end

end Barton.Zigbee
