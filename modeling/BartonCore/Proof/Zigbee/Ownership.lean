import BartonCore.Proof.Zigbee.Steps

namespace Barton.Zigbee
open Threads

section Points

/-- The items that the worker has taken from the queues and not yet counted as busy. -/
def Worker.inHand : Worker → List WorkItem
  | .scanning _ availableWork => availableWork
  | .working availableWork => availableWork
  | .adding item rest => item :: rest
  | .marking item rest => item :: rest
  | .sending _ rest => rest
  | .transmitting _ rest => rest
  | .failing _ rest => rest
  | .clearing _ rest _ => rest
  | .waiting _ => []

/-- The items that the worker has taken from the queues and not yet sent. -/
def Worker.unsent : Worker → List WorkItem
  | .sending item rest => item :: rest
  | worker => worker.inHand

/-- The item that the worker has locked. -/
def Worker.locks : Worker → Option WorkItem
  | .adding item _ => some item
  | .marking item _ => some item
  | .sending item _ => some item
  | .transmitting item _ => some item
  | .failing item _ => some item
  | .clearing item _ _ => some item
  | _ => none

/-- The item that is in `asyncRequests` and not yet counted as busy. -/
def Worker.marks : Worker → Option WorkItem
  | .marking item _ => some item
  | _ => none

/-- The item that is counted as busy and no longer in `asyncRequests`. -/
def Worker.lowers : Worker → Option WorkItem
  | .clearing item _ true => some item
  | _ => none

/-- The item of a call. -/
def Caller.item : Caller → Option WorkItem
  | .zhalSendRequest _ => none
  | .createItem _ => none
  | .queuePush item => some item
  | .signalWorker item => some item
  | .enterWait item => some item
  | .waiting item => some item
  | .timedOut item => some item
  | .queueDelete item _ => some item
  | .signalTimeout item => some item
  | .takeResponse item => some item
  | .unlockItem item _ => some item
  | .returned item _ => some item

/-- The item that a call has locked. -/
def Party.locks : Party → Option WorkItem
  | .caller (.waiting _) => none
  | .caller (.returned _ _) => none
  | .caller point => point.item
  | _ => none

/-- The item that is counted as busy and no longer in `asyncRequests`. -/
def Party.lowers : Party → Option WorkItem
  | .caller (.queueDelete item true) => some item
  | .handler (.clearBusy _ item) => some item
  | _ => none

/-- The party signals the worker before it returns or waits. -/
def Party.willSignal : Party → Bool
  | .caller (.signalWorker _) => true
  | .caller (.timedOut _) => true
  | .caller (.queueDelete _ _) => true
  | .caller (.signalTimeout _) => true
  | .handler (.clearBusy _ _) => true
  | .handler (.complete _ _) => true
  | .handler (.signalWorker _ _) => true
  | _ => false

/-- A party before its first move. -/
def Party.starting : Party → Bool
  | .worker => true
  | .caller (.zhalSendRequest _) => true
  | .handler (.handleIpcResponse _) => true
  | _ => false

end Points

/-- A new request id is fresh, and no response is looked up for a request that the worker has not yet counted. -/
def orderly (current : Configuration Zhal Party) (input : Nat × Bool) : Bool :=
  match current.threads[input.1]? with
  | some (.caller (.createItem _)) =>
      current.shared.created.all fun item => item.requestId ≠ current.shared.requestId
  | some (.handler (.handleIpcResponse response)) =>
      current.shared.worker.marks.all fun item => response.rid ≠ some item.requestId
  | _ => true

section Known

/-- The items of the worker, of the queues and of the table are created items. -/
structure Known (zhal : Zhal) : Prop where
  numbered : ∀ item ∈ zhal.created, item.address < zhal.created.length
  pending : ∀ item ∈ zhal.asyncRequests, item ∈ zhal.created
  queued : ∀ eui64, ∀ item ∈ zhal.queue eui64, item ∈ zhal.created ∧ item.eui64 = eui64
  inHand : ∀ item ∈ zhal.worker.inHand, item ∈ zhal.created
  locked : ∀ item ∈ zhal.worker.locks, item ∈ zhal.created

def Party.Known (zhal : Zhal) (party : Party) : Prop :=
  ∀ caller item, party = .caller caller → caller.item = some item → item ∈ zhal.created

variable {zhal next : Zhal}

/-- A step that changes the tables only by items that are known. -/
theorem Known.of_subset (known : Known zhal) (created : next.created = zhal.created)
    (pending : next.asyncRequests ⊆ zhal.asyncRequests)
    (queued : ∀ eui64, next.queue eui64 ⊆ zhal.queue eui64)
    (inHand : ∀ item ∈ next.worker.inHand, item ∈ zhal.created)
    (locked : ∀ item ∈ next.worker.locks, item ∈ zhal.created) : Known next := by
  refine ⟨?_, ?_, ?_, ?_, ?_⟩
  · rw [created]
    exact known.numbered
  · intro item member
    rw [created]
    exact known.pending item (pending member)
  · intro eui64 item member
    rw [created]
    exact known.queued eui64 item (queued eui64 member)
  · rw [created]
    exact inHand
  · rw [created]
    exact locked

theorem deleteAsync_subset (requestId : UInt32) : (zhal.deleteAsync requestId).asyncRequests ⊆ zhal.asyncRequests :=
  List.eraseP_subset

theorem update_subset {eui64 : UInt64} {items : List WorkItem} (smaller : items ⊆ zhal.queue eui64)
    (other : UInt64) : Function.update zhal.queue eui64 items other ⊆ zhal.queue other := by
  by_cases same : other = eui64
  · subst same
    rw [Function.update_self]
    exact smaller
  · rw [Function.update_of_ne same]
    exact List.Subset.refl _

theorem signal_inHand (worker : Worker) : worker.signal.inHand = worker.inHand := by
  cases worker <;> rfl

theorem signal_locks (worker : Worker) : worker.signal.locks = worker.locks := by
  cases worker <;> rfl

theorem WorkerStep.created (taken : WorkerStep zhal next) : next.created = zhal.created := by
  cases taken <;> rfl

theorem Known.workerStep (known : Known zhal) (taken : WorkerStep zhal next) : Known next := by
  have hand := known.inHand
  have lock := known.locked
  have refl (eui64 : UInt64) : zhal.queue eui64 ⊆ zhal.queue eui64 := List.Subset.refl _
  cases taken with
  | pass point | work point | sent point | lower point | keep point =>
      rw [point] at hand
      exact known.of_subset rfl (List.Subset.refl _) refl hand nofun
  | pop point free queued =>
      rename_i eui64 remaining availableWork rest item
      rw [point] at hand
      refine known.of_subset rfl (List.Subset.refl _) (update_subset ?_) ?_ nofun
      · rw [queued]
        exact List.subset_cons_self _ _
      · intro other member
        rcases List.mem_append.mp member with old | new
        · exact hand other old
        · rw [List.mem_singleton.mp new]
          exact (known.queued eui64 item (by rw [queued]; exact List.mem_cons_self)).1
  | sleep | scan => exact known.of_subset rfl (List.Subset.refl _) refl nofun nofun
  | skip point =>
      rw [point] at hand
      exact known.of_subset rfl (List.Subset.refl _) refl
        (fun item member => hand item (List.mem_cons_of_mem _ member)) nofun
  | lock point free =>
      rw [point] at hand
      refine known.of_subset rfl (List.Subset.refl _) refl hand ?_
      intro item same
      cases same
      exact hand _ List.mem_cons_self
  | add point unknown =>
      rw [point] at hand lock
      refine ⟨known.numbered, ?_, known.queued, hand, lock⟩
      intro item member
      rcases List.mem_append.mp member with old | new
      · exact known.pending item old
      · rw [List.mem_singleton.mp new]
        exact hand _ List.mem_cons_self
  | refuse point | send point | fail point | miss point =>
      rw [point] at hand lock
      exact known.of_subset rfl (List.Subset.refl _) refl hand lock
  | mark point =>
      rw [point] at hand lock
      exact known.of_subset rfl (List.Subset.refl _) refl
        (fun item member => hand item (List.mem_cons_of_mem _ member)) lock
  | withdraw point found =>
      rw [point] at hand lock
      exact known.of_subset rfl (deleteAsync_subset _) refl hand lock

theorem Known.same (known : Known zhal) (created : next.created = zhal.created)
    (pending : next.asyncRequests ⊆ zhal.asyncRequests)
    (queued : ∀ eui64, next.queue eui64 ⊆ zhal.queue eui64)
    (worker : next.worker = zhal.worker ∨ next.worker = zhal.worker.signal) : Known next := by
  have hand : next.worker.inHand = zhal.worker.inHand := by
    rcases worker with same | same
    · rw [same]
    · rw [same, signal_inHand]
  have lock : next.worker.locks = zhal.worker.locks := by
    rcases worker with same | same
    · rw [same]
    · rw [same, signal_locks]
  refine known.of_subset created pending queued ?_ ?_
  · rw [hand]
    exact known.inHand
  · rw [lock]
    exact known.locked

/-- A caller adds only its own new item. -/
theorem Known.callerStep (known : Known zhal) {caller moved : Caller}
    (own : ∀ item, caller.item = some item → item ∈ zhal.created)
    (taken : CallerStep zhal caller next moved) :
    Known next ∧ (∀ item, moved.item = some item → item ∈ next.created) ∧
      zhal.created ⊆ next.created := by
  have refl (eui64 : UInt64) : zhal.queue eui64 ⊆ zhal.queue eui64 := List.Subset.refl _
  have all : zhal.asyncRequests ⊆ zhal.asyncRequests := List.Subset.refl _
  have kept : zhal.created ⊆ zhal.created := List.Subset.refl _
  cases taken with
  | lookup free => exact ⟨known.same rfl all refl (Or.inl rfl), nofun, kept⟩
  | create made =>
      rename_i targetEui64 item
      have grows : zhal.created ⊆ zhal.created ++ [item] := List.subset_append_left _ _
      refine ⟨⟨?_, ?_, ?_, ?_, ?_⟩, ?_, grows⟩
      · intro other member
        rw [List.length_append, List.length_singleton]
        rcases List.mem_append.mp member with old | new
        · exact Nat.lt_succ_of_lt (known.numbered other old)
        · rw [List.mem_singleton.mp new, made]
          exact Nat.lt_succ_self _
      · exact fun other member => grows (known.pending other member)
      · exact fun eui64 other member =>
          ⟨grows (known.queued eui64 other member).1, (known.queued eui64 other member).2⟩
      · exact fun other member => grows (known.inHand other member)
      · exact fun other member => grows (known.locked other member)
      · intro other same
        cases same
        exact List.mem_append_right _ (List.mem_singleton_self _)
  | push =>
      rename_i item
      have mine := own item rfl
      refine ⟨⟨known.numbered, known.pending, ?_, known.inHand, known.locked⟩, own, kept⟩
      intro eui64 other member
      change other ∈ Function.update zhal.queue item.eui64 _ eui64 at member
      by_cases same : eui64 = item.eui64
      · subst same
        rw [Function.update_self] at member
        rcases List.mem_append.mp member with old | new
        · exact known.queued _ other old
        · rw [List.mem_singleton.mp new]
          exact ⟨mine, rfl⟩
      · rw [Function.update_of_ne same] at member
        exact known.queued eui64 other member
  | signal | signalTimeout => exact ⟨known.same rfl all refl (Or.inr rfl), own, kept⟩
  | enterWait | timeOut | wake | take | unlock => exact ⟨known.same rfl all refl (Or.inl rfl), own, kept⟩
  | withdraw found => exact ⟨known.same rfl (deleteAsync_subset _) refl (Or.inl rfl), own, kept⟩
  | miss unknown => exact ⟨known, own, kept⟩
  | lower | dequeue | abandon =>
      exact ⟨known.same rfl all (update_subset (List.erase_subset)) (Or.inl rfl), own, kept⟩

theorem Known.handlerStep (known : Known zhal) {handler moved : Handler}
    (taken : HandlerStep zhal handler next moved) : Known next ∧ next.created = zhal.created := by
  have refl (eui64 : UInt64) : zhal.queue eui64 ⊆ zhal.queue eui64 := List.Subset.refl _
  have all : zhal.asyncRequests ⊆ zhal.asyncRequests := List.Subset.refl _
  cases taken with
  | ignore | keep => exact ⟨known, rfl⟩
  | find carried found => exact ⟨known.same rfl (deleteAsync_subset _) refl (Or.inl rfl), rfl⟩
  | lower | complete => exact ⟨known.same rfl all refl (Or.inl rfl), rfl⟩
  | signal free => exact ⟨known.same rfl all refl (Or.inr rfl), rfl⟩

/-- Every party keeps the tables known. -/
theorem Known.step (known : Known zhal) {party moved : Party} (own : party.Known zhal)
    (taken : Step zhal party next moved) :
    Known next ∧ moved.Known next ∧ zhal.created ⊆ next.created := by
  cases taken with
  | worker works =>
      refine ⟨known.workerStep works, nofun, ?_⟩
      rw [works.created]
      exact List.Subset.refl _
  | caller calls =>
      have kept := known.callerStep (fun item point => own _ item rfl point) calls
      refine ⟨kept.1, ?_, kept.2.2⟩
      intro caller item same point
      cases same
      exact kept.2.1 item point
  | handler handles =>
      have kept := known.handlerStep handles
      refine ⟨kept.1, nofun, ?_⟩
      rw [kept.2]
      exact List.Subset.refl _

/-- The shared tables and the items of the calls are known. -/
def AllKnown (current : Configuration Zhal Party) : Prop :=
  Known current.shared ∧ ∀ party ∈ current.threads, party.Known current.shared

theorem AllKnown.step {current next : Configuration Zhal Party} {input : Nat × Bool} (known : AllKnown current)
    (stepped : Threads.step move current input = some next) : AllKnown next := by
  refine step_facts known.2 stepped ?_
  intro party shared moved found moves
  have kept := known.1.step (known.2 party (List.mem_of_getElem? found)) (move_step moves)
  refine ⟨kept.1, kept.2.1, ?_⟩
  intro other own caller item same point
  exact kept.2.2 (own caller item same point)

end Known

section Locks
variable {zhal next : Zhal}

/-- One party holds the lock of the item. -/
def holds (item : WorkItem) (point : Option WorkItem) : ℤ := if point = some item then 1 else 0

/-- The lock as the item shows it. -/
def Zhal.shownLock (zhal : Zhal) (item : WorkItem) : ℤ := if (zhal.items item).locked then 1 else 0

theorem holds_nonneg (item : WorkItem) (point : Option WorkItem) : 0 ≤ holds item point := by
  unfold holds
  split
  · exact zero_le_one
  · exact le_rfl

@[simp] theorem holds_none (item : WorkItem) : holds item none = 0 := by simp [holds]

theorem shownLock_lock (zhal : Zhal) (item other : WorkItem) (locked : Bool) :
    (zhal.lock item locked).shownLock other =
      if other = item then if locked then 1 else 0 else zhal.shownLock other := by
  unfold Zhal.shownLock Zhal.lock
  by_cases same : other = item
  · subst same
    simp
  · simp [same]

/-- A change of an item that keeps its lock. -/
theorem shownLock_update {mine : WorkItem} {state : ItemState}
    (items : next.items = Function.update zhal.items mine state)
    (same : state.locked = (zhal.items mine).locked) (item : WorkItem) :
    next.shownLock item = zhal.shownLock item := by
  unfold Zhal.shownLock
  rw [items]
  by_cases equal : item = mine
  · subst equal
    rw [Function.update_self, same]
  · rw [Function.update_of_ne equal]

/-- The worker takes and releases only locks that are free and its own. -/
theorem lock_workerStep (own : ∀ item, zhal.worker.locks = some item → (zhal.items item).locked = true)
    (taken : WorkerStep zhal next) (item : WorkItem) :
    holds item next.worker.locks - next.shownLock item =
      holds item zhal.worker.locks - zhal.shownLock item := by
  have release {mine : WorkItem} (point : zhal.worker.locks = some mine) :
      holds item none - (zhal.lock mine false).shownLock item =
        holds item zhal.worker.locks - zhal.shownLock item := by
    have set := own mine point
    rw [shownLock_lock, point]
    by_cases same : item = mine
    · subst same
      simp [holds, Zhal.shownLock, set]
    · simp [holds, same, Ne.symm same]
  cases taken with
  | pass point | pop point | sleep point | work point | skip point | add point | refuse point | mark point
  | send point | fail point | withdraw point | miss point =>
      rw [point]
      rfl
  | scan point =>
      rcases point with ⟨signaled, point⟩ | point
      · rw [point]; rfl
      · rw [point]; rfl
  | lock point free =>
      rename_i mine rest
      change holds item (some mine) - (zhal.lock mine true).shownLock item = _
      rw [shownLock_lock, point]
      by_cases same : item = mine
      · subst same
        simp [holds, Worker.locks, Zhal.shownLock, free]
      · simp [holds, Worker.locks, same, Ne.symm same]
  | sent point | lower point | keep point =>
      apply release
      rw [point]
      rfl

/-- A caller takes and releases only locks that are free and its own. -/
theorem lock_callerStep {caller moved : Caller}
    (own : ∀ item, (Party.caller caller).locks = some item → (zhal.items item).locked = true)
    (fresh : ∀ targetEui64, caller = .createItem targetEui64 →
      (zhal.items ⟨zhal.created.length, targetEui64, zhal.requestId⟩).locked = false)
    (taken : CallerStep zhal caller next moved) (item : WorkItem) :
    next.worker.locks = zhal.worker.locks ∧
      holds item (Party.caller moved).locks - next.shownLock item =
        holds item (Party.caller caller).locks - zhal.shownLock item := by
  have release {mine : WorkItem} (point : (Party.caller caller).locks = some mine) :
      holds item none - (zhal.lock mine false).shownLock item =
        holds item (Party.caller caller).locks - zhal.shownLock item := by
    have set := own mine point
    rw [shownLock_lock, point]
    by_cases same : item = mine
    · subst same
      simp [holds, Zhal.shownLock, set]
    · simp [holds, same, Ne.symm same]
  have acquire {mine : WorkItem} (free : (zhal.items mine).locked = false) :
      holds item (some mine) - (zhal.lock mine true).shownLock item =
        holds item none - zhal.shownLock item := by
    rw [shownLock_lock]
    by_cases same : item = mine
    · subst same
      simp [holds, Zhal.shownLock, free]
    · simp [holds, same, Ne.symm same]
  cases taken with
  | lookup | push | withdraw | miss | lower | dequeue => exact ⟨rfl, rfl⟩
  | create made =>
      rename_i targetEui64 mine
      have free := fresh targetEui64 rfl
      rw [← made] at free
      refine ⟨rfl, ?_⟩
      change holds item (some mine) - _ = holds item none - _
      rw [← acquire free]
      congr 1
      unfold Zhal.shownLock Zhal.lock
      by_cases same : item = mine
      · subst same
        simp
      · simp [same]
  | signal | signalTimeout => exact ⟨signal_locks _, rfl⟩
  | enterWait | unlock => exact ⟨rfl, release rfl⟩
  | timeOut free | wake free => exact ⟨rfl, acquire free⟩
  | abandon | take =>
      refine ⟨rfl, ?_⟩
      rw [shownLock_update (by rfl) (by rfl)]
      rfl

theorem lock_handlerStep {handler moved : Handler} (taken : HandlerStep zhal handler next moved)
    (item : WorkItem) : next.worker.locks = zhal.worker.locks ∧ next.shownLock item = zhal.shownLock item := by
  cases taken with
  | ignore | find | lower | keep => exact ⟨rfl, rfl⟩
  | complete free => exact ⟨rfl, shownLock_update (by rfl) (by rfl) item⟩
  | signal free => exact ⟨signal_locks _, rfl⟩

theorem lock_step {party moved : Party}
    (worker : ∀ item, zhal.worker.locks = some item → (zhal.items item).locked = true)
    (own : ∀ item, party.locks = some item → (zhal.items item).locked = true)
    (fresh : ∀ targetEui64, party = .caller (.createItem targetEui64) →
      (zhal.items ⟨zhal.created.length, targetEui64, zhal.requestId⟩).locked = false)
    (taken : Step zhal party next moved) (item : WorkItem) :
    holds item moved.locks + holds item next.worker.locks - next.shownLock item =
      holds item party.locks + holds item zhal.worker.locks - zhal.shownLock item := by
  cases taken with
  | worker taken =>
      have kept := lock_workerStep worker taken item
      omega
  | caller taken =>
      have kept := lock_callerStep own (fun targetEui64 same => fresh targetEui64 (by rw [same])) taken item
      rw [kept.1]
      omega
  | handler taken =>
      have kept := lock_handlerStep taken item
      rw [kept.1, kept.2]
      rfl

end Locks

section Owned

/-- The ids are distinct, and every lock that is shown has one holder. -/
structure Owned (current : Configuration Zhal Party) : Prop where
  allKnown : AllKnown current
  distinct : (current.shared.created.map WorkItem.requestId).Nodup
  locks : ∀ item, (current.threads.map fun party => holds item party.locks).sum +
    holds item current.shared.worker.locks = current.shared.shownLock item

variable {current next : Configuration Zhal Party} {item : WorkItem} {party : Party}

theorem shownLock_le_one (zhal : Zhal) (item : WorkItem) : zhal.shownLock item ≤ 1 := by
  unfold Zhal.shownLock
  split
  · exact le_rfl
  · exact zero_le_one

theorem locked_of_shownLock {zhal : Zhal} (shown : 0 < zhal.shownLock item) : (zhal.items item).locked = true := by
  unfold Zhal.shownLock at shown
  split at shown
  · assumption
  · contradiction

/-- A party of the configuration holds no more than all parties together. -/
theorem holds_le_sum {threads : List Party} (member : party ∈ threads) (item : WorkItem) :
    holds item party.locks ≤ (threads.map fun party => holds item party.locks).sum := by
  refine List.single_le_sum ?_ _ (List.mem_map_of_mem member)
  intro share inside
  obtain ⟨other, _, rfl⟩ := List.mem_map.mp inside
  exact holds_nonneg item other.locks

theorem sum_holds_nonneg (threads : List Party) (item : WorkItem) :
    0 ≤ (threads.map fun party => holds item party.locks).sum := by
  refine List.sum_nonneg ?_
  intro share inside
  obtain ⟨other, _, rfl⟩ := List.mem_map.mp inside
  exact holds_nonneg item other.locks

theorem holds_self {point : Option WorkItem} (same : point = some item) : holds item point = 1 := if_pos same

theorem Owned.worker_locked (owned : Owned current)
    (point : current.shared.worker.locks = some item) : (current.shared.items item).locked = true := by
  have total := owned.locks item
  have others := sum_holds_nonneg current.threads item
  have mine := holds_self point
  exact locked_of_shownLock (by omega)

theorem Owned.party_locked (owned : Owned current) (member : party ∈ current.threads)
    (point : party.locks = some item) : (current.shared.items item).locked = true := by
  have total := owned.locks item
  have worker := holds_nonneg item current.shared.worker.locks
  have mine := holds_self point
  have part := holds_le_sum member item
  exact locked_of_shownLock (by omega)

/-- The worker and a caller never hold the same lock. -/
theorem Owned.exclusive (owned : Owned current) (member : party ∈ current.threads)
    (point : party.locks = some item) : current.shared.worker.locks ≠ some item := by
  intro worker
  have total := owned.locks item
  have limit := shownLock_le_one current.shared item
  have first := holds_self point
  have second := holds_self worker
  have part := holds_le_sum member item
  omega

theorem locks_item {caller : Caller} (point : (Party.caller caller).locks = some item) : caller.item = some item := by
  cases caller <;> first | exact point | cases point

/-- Nobody has locked an item that does not exist. -/
theorem Owned.unlocked (owned : Owned current) (absent : item ∉ current.shared.created) :
    (current.shared.items item).locked = false := by
  have total := owned.locks item
  have worker : holds item current.shared.worker.locks = 0 := by
    refine if_neg ?_
    intro point
    exact absent (owned.allKnown.1.locked item point)
  have others : (current.threads.map fun party => holds item party.locks).sum = 0 := by
    refine List.sum_eq_zero ?_
    intro share inside
    obtain ⟨party, member, rfl⟩ := List.mem_map.mp inside
    refine if_neg ?_
    intro point
    cases party with
    | worker | handler => cases point
    | caller caller => exact absent (owned.allKnown.2 _ member caller item rfl (locks_item point))
  unfold Zhal.shownLock at total
  split at total
  · omega
  · rename_i free
    simpa using free

theorem orderly_createItem {input : Nat × Bool} (allowed : orderly current input = true) {targetEui64 : UInt64}
    (found : current.threads[input.1]? = some (.caller (.createItem targetEui64))) :
    ∀ item ∈ current.shared.created, item.requestId ≠ current.shared.requestId := by
  unfold orderly at allowed
  rw [found] at allowed
  simpa using allowed

/-- A new item has a fresh id. -/
theorem distinct_step {zhal next : Zhal} {party moved : Party}
    (distinct : (zhal.created.map WorkItem.requestId).Nodup)
    (fresh : ∀ targetEui64, party = .caller (.createItem targetEui64) →
      ∀ item ∈ zhal.created, item.requestId ≠ zhal.requestId)
    (taken : Step zhal party next moved) : (next.created.map WorkItem.requestId).Nodup := by
  cases taken with
  | worker works =>
      rw [works.created]
      exact distinct
  | handler handles => cases handles <;> exact distinct
  | caller calls =>
      cases calls with
      | create made =>
          rename_i targetEui64 item
          rw [List.map_append, List.map_singleton]
          refine List.Nodup.append distinct (List.nodup_singleton _) ?_
          intro id old new
          obtain ⟨other, member, rfl⟩ := List.mem_map.mp old
          rw [List.mem_singleton, made] at new
          exact fresh targetEui64 rfl other member new
      | _ => exact distinct

theorem Owned.step {input : Nat × Bool} (owned : Owned current) (allowed : orderly current input = true)
    (stepped : Threads.step move current input = some next) : Owned next := by
  have known := owned.allKnown.step stepped
  obtain ⟨before, party, after, shared, moved, split, position, moves, rfl⟩ := step_split stepped
  have found : current.threads[input.1]? = some party := by
    rw [split, ← position]
    simp
  have member : party ∈ current.threads := List.mem_of_getElem? found
  have taken := move_step moves
  have fresh (targetEui64 : UInt64) (same : party = .caller (.createItem targetEui64)) :
      ∀ item ∈ current.shared.created, item.requestId ≠ current.shared.requestId :=
    orderly_createItem allowed (by rw [found, same])
  refine ⟨known, distinct_step owned.distinct fresh taken, ?_⟩
  intro item
  have change := lock_step (fun item point => owned.worker_locked point)
    (fun item point => owned.party_locked member point)
    (fun targetEui64 same => owned.unlocked fun inside => fresh targetEui64 same _ inside rfl) taken item
  have total := owned.locks item
  have sums := sum_replace (fun party : Party => holds item party.locks) before after party moved
  rw [split] at total
  dsimp only
  omega

end Owned

end Barton.Zigbee
