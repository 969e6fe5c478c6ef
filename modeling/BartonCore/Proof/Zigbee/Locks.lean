import BartonCore.Construction.Zigbee.Locks

namespace Barton.ZigbeeLocks
open Threads Locking

section Held

def Init.held : Init → List Mutex
  | .createDeviceQueues => [.deviceQueuesMutex]
  | .createAsyncRequests => [.asyncRequestsMutex]
  | .createLastApsSeqNums => [.lastApsSeqNumsMtx]
  | .createReceiver => [.startupMtx]
  | .readStarted => [.startupMtx]
  | .clearShutdown => [.workerMutex]
  | .setInitialized => [.initializedMtx]
  | _ => []

def Send.held : Send → List Mutex
  | .readInitialized => [.initializedMtx]
  | .lookup => [.deviceQueuesMutex]
  | .getNextRequestId _ => [.requestIdMutex]
  | .lockQueue item => [.item item.address]
  | .queuePush item => [.deviceQueue item.deviceQueue, .item item.address]
  | .lockWorker item => [.item item.address]
  | .signalWorker item => [.workerMutex, .item item.address]
  | .enterWait item => [.item item.address]
  | .woken item => [.item item.address]
  | .lockAsyncRequests item => [.item item.address]
  | .deleteAsync item => [.asyncRequestsMutex, .item item.address]
  | .lockQueueAgain item => [.item item.address]
  | .queueDelete item => [.deviceQueue item.deviceQueue, .item item.address]
  | .lockWorkerAgain item => [.item item.address]
  | .signalWorkerAgain item => [.workerMutex, .item item.address]
  | .unlockItem item => [.item item.address]
  | _ => []

def Term.held : Term → List Mutex
  | .zhalNetworkTerm point => point.held
  | .clearInitialized => [.initializedMtx]
  | .stopReceiver => [.startupMtx]
  | .setShutdown => [.workerMutex]
  | .destroyAsyncRequests => [.asyncRequestsMutex]
  | .destroyDeviceQueues _ => [.deviceQueuesMutex]
  | .signalItem item _ => [.item item.address]
  | .destroyLastApsSeqNums => [.lastApsSeqNumsMtx]
  | _ => []

def Worker.held : Worker → List Mutex
  | .checkShutdown => [.workerMutex]
  | .lockDeviceQueues => [.workerMutex]
  | .iterate _ => [.deviceQueuesMutex, .workerMutex]
  | .queuePop deviceQueue _ => [.deviceQueue deviceQueue, .deviceQueuesMutex, .workerMutex]
  | .evaluate _ => [.workerMutex]
  | .woken => [.workerMutex]
  | .unlockWorker _ => [.workerMutex]
  | .checkTimedOut item _ => [.item item.address]
  | .lockAsyncRequests item _ => [.item item.address]
  | .putAsync item _ => [.asyncRequestsMutex, .item item.address]
  | .lockQueue item _ => [.item item.address]
  | .setBusy item _ => [.deviceQueue item.deviceQueue, .item item.address]
  | .xmit item _ => [.item item.address]
  | .lockAsyncRequestsAgain item _ => [.item item.address]
  | .deleteAsync item _ => [.asyncRequestsMutex, .item item.address]
  | .lockQueueAgain item _ => [.item item.address]
  | .clearBusy item _ => [.deviceQueue item.deviceQueue, .item item.address]
  | .signalItem item _ => [.item item.address]
  | _ => []

def Handler.held : Handler → List Mutex
  | .lookup => [.asyncRequestsMutex]
  | .clearBusy item => [.deviceQueue item.deviceQueue]
  | .complete item => [.item item.address]
  | .signalWorker => [.workerMutex]
  | _ => []

def Receiver.held : Receiver → List Mutex
  | .setRunning => [.startupMtx]
  | _ => []

def Event.held : Event → List Mutex
  | .compare => [.lastApsSeqNumsMtx]
  | _ => []

/-- The mutexes that a thread holds at a point. -/
def Point.held : Point → List Mutex
  | .zhalInit point => point.held
  | .zhalSendRequest point => point.held
  | .zhalTerm point => point.held
  | .worker point => point.held
  | .handler point => point.held
  | .receiver point => point.held
  | .event point => point.held

/-- The point is in the section of `deviceQueuesMutex` of a request. -/
def Point.looksUp : Point → Bool
  | .zhalSendRequest .lookup => true
  | .zhalTerm (.zhalNetworkTerm .lookup) => true
  | _ => false

end Held

section Follow
variable {data after : Data} {choice : Choice} {operation : Operation Mutex}

/-- A part of the code follows as the whole does. -/
theorem follows_lift {Whole Part : Type} {held : Whole → List Mutex} {partHeld : Part → List Mutex}
    {lift : Part → Whole} (same : ∀ point, held (lift point) = partHeld point) {point : Part}
    {taken : Option (Operation Mutex × Data × Part)} {moved : Whole}
    (follow : ∀ next, taken = some (operation, after, next) → Follows partHeld point next operation)
    (lifted : taken.map (fun taken => (taken.1, taken.2.1, lift taken.2.2)) = some (operation, after, moved)) :
    Follows held (lift point) moved operation := by
  obtain ⟨⟨first, second, next⟩, made, equal⟩ := Option.map_eq_some_iff.mp lifted
  simp only [Prod.mk.injEq] at equal
  obtain ⟨rfl, rfl, rfl⟩ := equal
  have part := follow next made
  cases first with
  | pass | lock =>
      intro other
      rw [same, same]
      exact part other
  | unlock mutex =>
      unfold Follows at part ⊢
      simpa only [same] using part

theorem follows_nextInit {point moved : Init} (taken : nextInit data point = some (operation, after, moved)) :
    Follows Init.held point moved operation := by
  cases point <;> cases taken <;> first | exact follows_lock rfl | exact follows_unlock rfl (by simp [Init.held])

/-- A request keeps no mutex when the queues exist. -/
theorem follows_nextSend {point moved : Send} (present : point = .lookup → data.deviceQueues = true)
    (taken : nextSend data choice point = some (operation, after, moved)) :
    Follows Send.held point moved operation := by
  cases point with
  | lookup =>
      rw [nextSend, if_pos (present rfl)] at taken
      split at taken
      · cases taken
        exact follows_unlock rfl (by simp [Send.held])
      · cases taken
        exact follows_unlock rfl (by simp [Send.held])
  | lockDeviceQueues initialized =>
      cases initialized with
      | true =>
          cases taken
          exact follows_lock rfl
      | false =>
          cases taken
          exact follows_pass rfl
  | createItem deviceQueue =>
      rw [nextSend] at taken
      split at taken
      · cases taken
        exact follows_lock rfl
      · cases taken
        exact follows_pass rfl
  | woken item =>
      cases taken
      refine follows_pass ?_
      split
      · rfl
      · rfl
  | returned => cases taken
  | _ =>
      cases taken
      first | exact follows_lock rfl | exact follows_unlock rfl (by simp [Send.held])

theorem follows_nextTerm {point moved : Term}
    (present : point = .zhalNetworkTerm .lookup → data.deviceQueues = true)
    (taken : nextTerm data choice point = some (operation, after, moved)) :
    Follows Term.held point moved operation := by
  cases point with
  | zhalNetworkTerm sends =>
      by_cases done : sends = .returned
      · subst done
        cases taken
        exact follows_pass rfl
      · exact follows_lift (fun _ => rfl)
          (fun next sent => follows_nextSend (fun same => present (by rw [same])) sent)
          (by rwa [nextTerm] at taken; exact done)
  | lockItems items =>
      cases items with
      | nil =>
          cases taken
          exact follows_pass rfl
      | cons item rest =>
          cases taken
          exact follows_lock rfl
  | returned => cases taken
  | joinReceiver | joinWorker =>
      cases taken
      exact follows_pass rfl
  | _ =>
      cases taken
      first | exact follows_lock rfl | exact follows_unlock rfl (by simp [Term.held])

theorem follows_nextWorker {point moved : Worker}
    (taken : nextWorker data choice point = some (operation, after, moved)) :
    Follows Worker.held point moved operation := by
  cases point with
  | checkShutdown | checkTimedOut | xmit =>
      rw [nextWorker] at taken
      split at taken
      · cases taken
        exact follows_unlock rfl (by simp [Worker.held])
      · cases taken
        exact follows_pass rfl
  | iterate availableWork =>
      rw [nextWorker] at taken
      split at taken
      · cases taken
        exact follows_lock rfl
      · cases taken
        exact follows_unlock rfl (by simp [Worker.held])
  | evaluate availableWork =>
      cases availableWork with
      | nil =>
          cases taken
          exact follows_unlock rfl (by simp [Worker.held])
      | cons item rest =>
          cases taken
          exact follows_pass rfl
  | woken =>
      rw [nextWorker] at taken
      split at taken
      · cases taken
        exact follows_pass rfl
      · cases taken
        exact follows_pass rfl
  | unlockWorker availableWork =>
      cases taken
      split
      · exact follows_unlock rfl (by simp [Worker.held])
      · exact follows_unlock rfl (by simp [Worker.held])
  | lockItem availableWork =>
      cases availableWork with
      | nil =>
          cases taken
          exact follows_pass rfl
      | cons item rest =>
          cases taken
          exact follows_lock rfl
  | returned => cases taken
  | _ =>
      cases taken
      first | exact follows_lock rfl | exact follows_unlock rfl (by simp [Worker.held])

theorem follows_nextHandler {point moved : Handler}
    (taken : nextHandler data choice point = some (operation, after, moved)) :
    Follows Handler.held point moved operation := by
  cases point with
  | handleIpcResponse =>
      rw [nextHandler] at taken
      split at taken
      · cases taken
        exact follows_lock rfl
      · cases taken
        exact follows_pass rfl
  | lookup =>
      cases taken
      split
      · exact follows_unlock rfl (by simp [Handler.held])
      · exact follows_unlock rfl (by simp [Handler.held])
  | returned => cases taken
  | _ =>
      cases taken
      first | exact follows_lock rfl | exact follows_unlock rfl (by simp [Handler.held])

theorem follows_nextReceiver {point moved : Receiver}
    (taken : nextReceiver data point = some (operation, after, moved)) :
    Follows Receiver.held point moved operation := by
  cases point <;> cases taken <;>
    first | exact follows_lock rfl | exact follows_unlock rfl (by simp [Receiver.held])

theorem follows_nextEvent {point moved : Event} (taken : nextEvent data point = some (operation, after, moved)) :
    Follows Event.held point moved operation := by
  cases point <;> cases taken <;> first | exact follows_lock rfl | exact follows_unlock rfl (by simp [Event.held])

/-- Every thread holds what its point says when the queues exist at a lookup. -/
theorem follows_next {point moved : Point} (present : point.looksUp = true → data.deviceQueues = true)
    (taken : next data point choice = some (operation, after, moved)) :
    Follows Point.held point moved operation := by
  cases point with
  | zhalInit point => exact follows_lift (fun _ => rfl) (fun _ => follows_nextInit) taken
  | zhalSendRequest point =>
      exact follows_lift (fun _ => rfl)
        (fun _ => follows_nextSend fun same => present (by rw [same]; rfl)) taken
  | zhalTerm point =>
      exact follows_lift (fun _ => rfl)
        (fun _ => follows_nextTerm fun same => present (by rw [same]; rfl)) taken
  | worker point => exact follows_lift (fun _ => rfl) (fun _ => follows_nextWorker) taken
  | handler point => exact follows_lift (fun _ => rfl) (fun _ => follows_nextHandler) taken
  | receiver point => exact follows_lift (fun _ => rfl) (fun _ => follows_nextReceiver) taken
  | event point => exact follows_lift (fun _ => rfl) (fun _ => follows_nextEvent) taken

end Follow

section Runs

/-- A request does not find the queues destroyed. -/
def queuesPresent (current : Configuration (Shared Mutex Data) (Thread Point)) (input : Nat × Choice) : Bool :=
  match current.threads[input.1]? with
  | some thread => !thread.point.looksUp || current.shared.data.deviceQueues
  | none => true

variable {current next : Configuration (Shared Mutex Data) (Thread Point)}

theorem queuesPresent_lookup {input : Nat × Choice} (allowed : queuesPresent current input = true)
    {thread : Thread Point} (found : current.threads[input.1]? = some thread)
    (looksUp : thread.point.looksUp = true) : current.shared.data.deviceQueues = true := by
  unfold queuesPresent at allowed
  rw [found] at allowed
  simpa [looksUp] using allowed

theorem starting_held {point : Point} (starting : point.starting = true) : point.held = [] := by
  cases point with
  | zhalInit point | zhalSendRequest point | worker point | handler point | receiver point | event point =>
      cases point <;> first | rfl | cases starting
  | zhalTerm point =>
      cases point with
      | zhalNetworkTerm point => cases point <;> first | rfl | cases starting
      | _ => cases starting

theorem finished_held {point : Point} (finished : point.finished = true) : point.held = [] := by
  cases point with
  | zhalInit point | zhalSendRequest point | zhalTerm point | worker point | handler point | receiver point
  | event point => cases point <;> first | rfl | cases finished

/-- A call that has returned owns no mutex, and every owner is still running, when no request finds the queues
destroyed. -/
theorem run_released {threads : List (Thread Point)} {schedule : List (Nat × Choice)}
    {final : Configuration (Shared Mutex Data) (Thread Point)}
    (starting : ∀ thread ∈ threads, thread.point.starting = true) (ids : (threads.map Thread.id).Nodup)
    (allowed : Runs.Guarded (Threads.step (move ZigbeeLocks.next))
      (fun current input => queuesPresent current input = true)
        ⟨⟨Data.initial, fun _ => none⟩, threads⟩ schedule)
    (reached : run ⟨⟨Data.initial, fun _ => none⟩, threads⟩ schedule = some final) :
    (∀ thread ∈ final.threads, thread.point.finished = true →
      ∀ mutex, final.shared.owner mutex ≠ some thread.id) ∧
    ∀ mutex id, final.shared.owner mutex = some id →
      ∃ thread ∈ final.threads, thread.id = id ∧ thread.point.finished = false := by
  have owned : Owned Point.held final := Runs.Guarded.invariant _ (Owned Point.held)
    (fun _ _ _ owned guard stepped => owned.step
      (fun _ _ _ _ found taken => follows_next (queuesPresent_lookup guard found) taken) stepped)
    allowed (owned_initial ids fun thread member => starting_held (starting thread member)) reached
  constructor
  · intro thread member finished mutex owner
    have holds := owned.holds member owner
    rw [finished_held finished] at holds
    cases holds
  · intro mutex id owner
    obtain ⟨thread, member, same, holds⟩ := (owned.owner mutex id).mp owner
    refine ⟨thread, member, same, ?_⟩
    cases finished : thread.point.finished with
    | false => rfl
    | true =>
        rw [finished_held finished] at holds
        cases holds

/-- One initialization, a request, two terminations, the worker and the receiver. -/
def lateRequest : List (Thread Point) :=
  [⟨0, .zhalInit .lockDeviceQueues⟩, ⟨1, .zhalSendRequest .lockInitialized⟩,
    ⟨2, .zhalTerm (.zhalNetworkTerm .lockInitialized)⟩, ⟨3, .zhalTerm (.zhalNetworkTerm .lockInitialized)⟩,
    ⟨4, .worker .lockWorker⟩, ⟨5, .receiver .lockStartup⟩]

/-- The thread makes a number of moves. -/
def moves (thread count : Nat) : List (Nat × Choice) := List.replicate count (thread, ⟨true, 0, []⟩)

theorem run_released_lateRequest :
    ∃ final, run ⟨⟨Data.initial, fun _ => none⟩, lateRequest⟩
        (moves 0 8 ++ moves 5 2 ++ moves 0 6 ++ moves 1 21 ++ moves 2 29 ++ moves 4 2 ++ moves 2 8) =
          some final ∧
      (∀ thread ∈ final.threads, thread.point.finished = true →
        ∀ mutex, final.shared.owner mutex ≠ some thread.id) := by
  have computed : (run ⟨⟨Data.initial, fun _ => none⟩, lateRequest⟩
      (moves 0 8 ++ moves 5 2 ++ moves 0 6 ++ moves 1 21 ++ moves 2 29 ++ moves 4 2 ++ moves 2 8)).isSome =
        true := by decide +kernel
  obtain ⟨final, reached⟩ := Option.isSome_iff_exists.mp computed
  exact ⟨final, reached, (run_released (by decide) (by decide) (by decide +kernel) reached).1⟩

/-- The queues are destroyed between the check of a request and its lookup. The request returns with
`deviceQueuesMutex`, and the next termination cannot take it. -/
theorem not_run_released :
    ∃ final, run ⟨⟨Data.initial, fun _ => none⟩, lateRequest⟩
        (moves 0 8 ++ moves 5 2 ++ moves 0 6 ++ moves 1 2 ++ moves 2 29 ++ moves 4 2 ++ moves 2 8 ++
          moves 1 2 ++ moves 3 14) = some final ∧
      final.threads.map Thread.point = [.zhalInit .returned, .zhalSendRequest .returned, .zhalTerm .returned,
        .zhalTerm (.lockDeviceQueues []), .worker .returned, .receiver .returned] ∧
      final.shared.owner .deviceQueuesMutex = some 1 ∧ run final (moves 3 1) = none := by
  have computed : (run ⟨⟨Data.initial, fun _ => none⟩, lateRequest⟩
        (moves 0 8 ++ moves 5 2 ++ moves 0 6 ++ moves 1 2 ++ moves 2 29 ++ moves 4 2 ++ moves 2 8 ++
          moves 1 2 ++ moves 3 14)).map (fun final => (final.threads.map Thread.point,
            final.shared.owner .deviceQueuesMutex, (run final (moves 3 1)).isNone)) =
      some ([.zhalInit .returned, .zhalSendRequest .returned, .zhalTerm .returned,
        .zhalTerm (.lockDeviceQueues []), .worker .returned, .receiver .returned], some 1, true) := by
    decide +kernel
  obtain ⟨final, reached, shown⟩ := Option.map_eq_some_iff.mp computed
  simp only [Prod.mk.injEq, Option.isNone_iff_eq_none] at shown
  exact ⟨final, reached, shown⟩

end Runs

end Barton.ZigbeeLocks
