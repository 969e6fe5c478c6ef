import BartonCore.Proof.Zigbee.Ownership

namespace Barton.Zigbee
open Threads

section Count
variable {zhal next : Zhal} {item : WorkItem}

/-- The point concerns the device. -/
def share (eui64 : UInt64) (point : Option WorkItem) : ℤ :=
  if point.map WorkItem.eui64 = some eui64 then 1 else 0

/-- The number of items of the device. -/
def count (eui64 : UInt64) (items : List WorkItem) : ℤ := (items.map fun item => share eui64 (some item)).sum

/-- What the busy count and the table do not yet agree on. -/
def Zhal.unsettled (zhal : Zhal) (eui64 : UInt64) : ℤ :=
  zhal.isBusy eui64 + share eui64 zhal.worker.marks - share eui64 zhal.worker.lowers -
    count eui64 zhal.asyncRequests

@[simp] theorem share_none (eui64 : UInt64) : share eui64 none = 0 := rfl

theorem share_some (eui64 : UInt64) (item : WorkItem) :
    share eui64 (some item) = if eui64 = item.eui64 then 1 else 0 := by
  simp [share, eq_comm]

theorem share_nonneg (eui64 : UInt64) (point : Option WorkItem) : 0 ≤ share eui64 point := by
  unfold share
  split
  · exact zero_le_one
  · exact le_rfl

@[simp] theorem count_nil (eui64 : UInt64) : count eui64 [] = 0 := rfl

@[simp] theorem count_cons (eui64 : UInt64) (item : WorkItem) (items : List WorkItem) :
    count eui64 (item :: items) = share eui64 (some item) + count eui64 items := rfl

@[simp] theorem count_append (eui64 : UInt64) (first second : List WorkItem) :
    count eui64 (first ++ second) = count eui64 first + count eui64 second := by
  simp [count]

theorem count_nonneg (eui64 : UInt64) (items : List WorkItem) : 0 ≤ count eui64 items := by
  induction items with
  | nil => exact le_rfl
  | cons item rest ih =>
      have first := share_nonneg eui64 (some item)
      rw [count_cons]
      omega

theorem share_le_count (eui64 : UInt64) {items : List WorkItem} (member : item ∈ items) :
    share eui64 (some item) ≤ count eui64 items := by
  induction items with
  | nil => cases member
  | cons head rest ih =>
      have first := share_nonneg eui64 (some head)
      have later := count_nonneg eui64 rest
      rw [count_cons]
      rcases List.mem_cons.mp member with rfl | inside
      · omega
      · have part := ih inside
        omega

theorem count_eraseP (eui64 : UInt64) {test : WorkItem → Bool} {items : List WorkItem}
    (found : items.find? test = some item) :
    count eui64 (items.eraseP test) = count eui64 items - share eui64 (some item) := by
  induction items with
  | nil => cases found
  | cons head rest ih =>
      cases matched : test head with
      | true =>
          rw [List.find?_cons_of_pos matched] at found
          cases found
          rw [List.eraseP_cons_of_pos matched, count_cons]
          omega
      | false =>
          have other : ¬ test head = true := by simp [matched]
          rw [List.find?_cons_of_neg other] at found
          rw [List.eraseP_cons_of_neg other, count_cons, count_cons, ih found]
          omega

theorem count_deleteAsync (eui64 : UInt64) {requestId : UInt32} (found : zhal.findAsync requestId = some item) :
    count eui64 (zhal.deleteAsync requestId).asyncRequests =
      count eui64 zhal.asyncRequests - share eui64 (some item) :=
  count_eraseP eui64 found

theorem update_isBusy (zhal : Zhal) (item : WorkItem) (change : ℤ) (eui64 : UInt64) :
    Function.update zhal.isBusy item.eui64 (zhal.isBusy item.eui64 + change) eui64 =
      zhal.isBusy eui64 + change * share eui64 (some item) := by
  rw [share_some]
  by_cases same : eui64 = item.eui64
  · subst same
    simp
  · simp [same]

theorem findAsync_mem {requestId : UInt32} (found : zhal.findAsync requestId = some item) :
    item ∈ zhal.asyncRequests ∧ item.requestId = requestId :=
  ⟨List.mem_of_find?_eq_some found, by simpa using List.find?_some found⟩

/-- The table holds at most one request with a given id. -/
theorem Known.findAsync_item (known : Known zhal) (distinct : (zhal.created.map WorkItem.requestId).Nodup)
    {item entry : WorkItem} (created : item ∈ zhal.created)
    (found : zhal.findAsync item.requestId = some entry) : entry = item := by
  obtain ⟨member, same⟩ := findAsync_mem found
  exact List.inj_on_of_nodup_map distinct (known.pending entry member) created same

theorem signal_marks (worker : Worker) : worker.signal.marks = worker.marks := by
  cases worker <;> rfl

theorem signal_lowers (worker : Worker) : worker.signal.lowers = worker.lowers := by
  cases worker <;> rfl

/-- The worker settles what it opens. -/
theorem unsettled_workerStep (known : Known zhal) (distinct : (zhal.created.map WorkItem.requestId).Nodup)
    (absent : ∀ item rest, zhal.worker = .adding item rest → zhal.findAsync item.requestId = none)
    (busy : ∀ item, zhal.worker.lowers = some item → 0 < zhal.isBusy item.eui64)
    (taken : WorkerStep zhal next) (eui64 : UInt64) : next.unsettled eui64 = zhal.unsettled eui64 := by
  have locked := known.locked
  unfold Zhal.unsettled
  cases taken with
  | pass point | pop point | sleep point | work point | skip point | lock point | send point | sent point
  | fail point | miss point =>
      rw [point]
      rfl
  | scan point =>
      rcases point with ⟨signaled, point⟩ | point
      · rw [point]; rfl
      · rw [point]; rfl
  | add point unknown =>
      rw [point]
      simp only [Worker.marks, Worker.lowers, count_append, count_cons, count_nil, share_none]
      omega
  | refuse point found =>
      rw [absent _ _ point] at found
      cases found
  | mark point =>
      rw [point]
      simp only [Worker.marks, Worker.lowers, Zhal.addBusy, update_isBusy, share_none]
      omega
  | withdraw point found =>
      rename_i item entry rest
      rw [point] at locked
      obtain rfl := known.findAsync_item distinct (locked item rfl) found
      rw [count_deleteAsync eui64 found, point]
      simp only [Worker.marks, Worker.lowers, Zhal.deleteAsync, share_none]
      omega
  | lower point positive =>
      rw [point]
      simp only [Worker.marks, Worker.lowers, Zhal.addBusy, Zhal.lock, update_isBusy, share_none]
      omega
  | keep point idle =>
      rename_i item rest deleted
      cases deleted with
      | false => rw [point]; rfl
      | true =>
          have positive := busy item (by rw [point]; rfl)
          have none := idle rfl
          omega

/-- A caller opens what it has taken from the table until it lowers the count. -/
theorem unsettled_callerStep (known : Known zhal) (distinct : (zhal.created.map WorkItem.requestId).Nodup)
    {caller moved : Caller}
    (own : ∀ item, caller.item = some item → item ∈ zhal.created)
    (taken : CallerStep zhal caller next moved) (eui64 : UInt64) :
    next.unsettled eui64 - share eui64 (Party.caller moved).lowers =
      zhal.unsettled eui64 - share eui64 (Party.caller caller).lowers := by
  unfold Zhal.unsettled
  cases taken with
  | lookup | create | push | enterWait | timeOut | wake | miss | dequeue | abandon | take | unlock => rfl
  | signal | signalTimeout =>
      rw [signal_marks, signal_lowers]
      rfl
  | withdraw found =>
      rename_i item entry
      obtain rfl := known.findAsync_item distinct (own item rfl) found
      rw [count_deleteAsync eui64 found]
      simp only [Party.lowers, Zhal.deleteAsync, share_none]
      omega
  | lower =>
      simp only [Party.lowers, update_isBusy, share_none]
      omega

/-- A handler opens what it has taken from the table until it lowers the count. -/
theorem unsettled_handlerStep {handler moved : Handler}
    (busy : ∀ item, (Party.handler handler).lowers = some item → 0 < zhal.isBusy item.eui64)
    (taken : HandlerStep zhal handler next moved) (eui64 : UInt64) :
    next.unsettled eui64 - share eui64 (Party.handler moved).lowers =
      zhal.unsettled eui64 - share eui64 (Party.handler handler).lowers := by
  unfold Zhal.unsettled
  cases taken with
  | ignore | complete => rfl
  | find carried found =>
      rw [count_deleteAsync eui64 found]
      simp only [Party.lowers, Zhal.deleteAsync, share_none]
      omega
  | lower positive =>
      simp only [Party.lowers, Zhal.addBusy, update_isBusy, share_none]
      omega
  | keep idle =>
      have positive := busy _ rfl
      omega
  | signal free => rw [signal_marks, signal_lowers]; rfl

end Count

section Scan
variable {zhal next : Zhal}

/-- A scan takes at most one item of each device. -/
def Worker.Scans : Worker → Prop
  | .scanning remaining availableWork =>
      remaining.Nodup ∧ ∀ item ∈ availableWork, item.eui64 ∉ remaining
  | _ => True

/-- The table of the queues has no device twice, and the scan follows it. -/
structure Scanned (zhal : Zhal) : Prop where
  devices : zhal.deviceQueues.Nodup
  scan : zhal.worker.Scans

theorem Scanned.workerStep (scanned : Scanned zhal) (known : Known zhal) (taken : WorkerStep zhal next) :
    Scanned next := by
  have scan := scanned.scan
  have devices := scanned.devices
  cases taken with
  | pass point idle =>
      rw [point] at scan
      exact ⟨devices, scan.1.of_cons, fun item member inside =>
        scan.2 item member (List.mem_cons_of_mem _ inside)⟩
  | pop point free queued =>
      rename_i eui64 remaining availableWork rest item
      rw [point] at scan
      refine ⟨devices, scan.1.of_cons, ?_⟩
      intro other member inside
      rcases List.mem_append.mp member with old | new
      · exact scan.2 other old (List.mem_cons_of_mem _ inside)
      · rw [List.mem_singleton.mp new,
          (known.queued eui64 item (by rw [queued]; exact List.mem_cons_self)).2] at inside
        exact (List.nodup_cons.mp scan.1).1 inside
  | scan point => exact ⟨devices, devices, nofun⟩
  | sleep | work | skip | lock | add | refuse | mark | send | sent | fail | withdraw | miss | lower | keep =>
      exact ⟨devices, trivial⟩

theorem signal_scans {worker : Worker} (scan : worker.Scans) : worker.signal.Scans := by
  cases worker <;> exact scan

theorem Scanned.callerStep (scanned : Scanned zhal) {caller moved : Caller}
    (taken : CallerStep zhal caller next moved) : Scanned next := by
  have scan := scanned.scan
  have devices := scanned.devices
  cases taken with
  | lookup free =>
      refine ⟨?_, scan⟩
      dsimp only
      split
      · exact devices
      · rename_i targetEui64 absent
        refine List.Nodup.append devices (List.nodup_singleton _) ?_
        intro eui64 old new
        rw [List.mem_singleton.mp new] at old
        exact absent old
  | signal | signalTimeout => exact ⟨devices, signal_scans scan⟩
  | create | push | enterWait | timeOut | wake | withdraw | miss | lower | dequeue | abandon | take | unlock =>
      exact ⟨devices, scan⟩

theorem Scanned.handlerStep (scanned : Scanned zhal) {handler moved : Handler}
    (taken : HandlerStep zhal handler next moved) : Scanned next := by
  cases taken with
  | signal free => exact ⟨scanned.devices, signal_scans scanned.scan⟩
  | ignore | keep => exact scanned
  | find | lower | complete => exact ⟨scanned.devices, scanned.scan⟩

/-- What the worker has taken for a device and what it counts as busy. -/
def Zhal.load (zhal : Zhal) (eui64 : UInt64) : ℤ := count eui64 zhal.worker.inHand + zhal.isBusy eui64

theorem count_eq_zero {eui64 : UInt64} {items : List WorkItem} (absent : ∀ item ∈ items, item.eui64 ≠ eui64) :
    count eui64 items = 0 := by
  induction items with
  | nil => rfl
  | cons item rest ih =>
      rw [count_cons, ih fun other member => absent other (List.mem_cons_of_mem _ member), share_some,
        if_neg (Ne.symm (absent item List.mem_cons_self))]
      rfl

/-- The worker takes an item only from a device without load. -/
theorem load_workerStep (scanned : Scanned zhal) (known : Known zhal) (taken : WorkerStep zhal next)
    {eui64 : UInt64} (single : zhal.load eui64 ≤ 1) : next.load eui64 ≤ 1 := by
  have scan := scanned.scan
  unfold Zhal.load at single ⊢
  cases taken with
  | pop point free queued =>
      rename_i other remaining availableWork rest item
      have device := (known.queued other item (by rw [queued]; exact List.mem_cons_self)).2
      rw [point] at single scan
      simp only [Worker.inHand, count_append, count_cons, count_nil, share_some, device] at single ⊢
      by_cases same : eui64 = other
      · subst same
        have none : count eui64 availableWork = 0 :=
          count_eq_zero fun item member equal => scan.2 item member (by rw [equal]; exact List.mem_cons_self)
        rw [none, free, if_pos rfl]
        omega
      · rw [if_neg same]
        omega
  | mark point =>
      rw [point] at single
      simp only [Worker.inHand, Zhal.addBusy, update_isBusy, count_cons] at single ⊢
      omega
  | skip point =>
      rename_i item rest
      have positive := share_nonneg eui64 (some item)
      rw [point] at single
      simp only [Worker.inHand, count_cons] at single ⊢
      omega
  | lower point busy =>
      rename_i item rest
      have positive := share_nonneg eui64 (some item)
      rw [point] at single
      simp only [Worker.inHand, Zhal.lock, Zhal.addBusy, update_isBusy] at single ⊢
      omega
  | scan point =>
      rcases point with ⟨signaled, point⟩ | point
      · rw [point] at single; exact single
      · rw [point] at single; exact single
  | pass point | sleep point | work point | lock point | add point | refuse point | send point | sent point
  | fail point | withdraw point | miss point | keep point =>
      rw [point] at single
      exact single

/-- Nobody else adds load. -/
theorem load_callerStep {caller moved : Caller} (taken : CallerStep zhal caller next moved) (eui64 : UInt64) :
    next.load eui64 ≤ zhal.load eui64 := by
  unfold Zhal.load
  cases taken with
  | lower =>
      rename_i item
      have positive := share_nonneg eui64 (some item)
      simp only [update_isBusy]
      omega
  | signal | signalTimeout => rw [signal_inHand]
  | lookup | create | push | enterWait | timeOut | wake | withdraw | miss | dequeue | abandon | take | unlock =>
      exact le_rfl

theorem load_handlerStep {handler moved : Handler} (taken : HandlerStep zhal handler next moved)
    (eui64 : UInt64) : next.load eui64 ≤ zhal.load eui64 := by
  unfold Zhal.load
  cases taken with
  | lower busy =>
      rename_i response item
      have positive := share_nonneg eui64 (some item)
      simp only [Zhal.addBusy, update_isBusy]
      omega
  | signal free => rw [signal_inHand]
  | ignore | find | keep | complete => exact le_rfl

end Scan

section Balance

/-- The items of the device that are counted as busy and that the parties have taken from the table. -/
def lowering (eui64 : UInt64) (threads : List Party) : ℤ := (threads.map fun party => share eui64 party.lowers).sum

/-- The busy counts agree with the table except for what the parties are about to change. -/
structure Balanced (current : Configuration Zhal Party) : Prop where
  owned : Owned current
  scanned : Scanned current.shared
  single : ∀ eui64, current.shared.load eui64 ≤ 1
  marked : ∀ item, current.shared.worker.marks = some item → item ∈ current.shared.asyncRequests
  settled : ∀ eui64, current.shared.unsettled eui64 = lowering eui64 current.threads

variable {current next : Configuration Zhal Party} {item : WorkItem} {input : Nat × Bool}

theorem lowering_nonneg (eui64 : UInt64) (threads : List Party) : 0 ≤ lowering eui64 threads := by
  refine List.sum_nonneg ?_
  intro part inside
  obtain ⟨other, _, rfl⟩ := List.mem_map.mp inside
  exact share_nonneg eui64 other.lowers

theorem share_le_lowering (eui64 : UInt64) {threads : List Party} {party : Party} (member : party ∈ threads) :
    share eui64 party.lowers ≤ lowering eui64 threads := by
  refine List.single_le_sum ?_ _ (List.mem_map_of_mem member)
  intro part inside
  obtain ⟨other, _, rfl⟩ := List.mem_map.mp inside
  exact share_nonneg eui64 other.lowers

theorem share_self (item : WorkItem) : share item.eui64 (some item) = 1 := if_pos rfl

theorem Balanced.marks_le (balanced : Balanced current) (eui64 : UInt64) :
    share eui64 current.shared.worker.marks ≤ count eui64 current.shared.asyncRequests := by
  cases marks : current.shared.worker.marks with
  | none => exact count_nonneg eui64 _
  | some item => exact share_le_count eui64 (balanced.marked item marks)

theorem Balanced.isBusy_nonneg (balanced : Balanced current) (eui64 : UInt64) : 0 ≤ current.shared.isBusy eui64 := by
  have settled := balanced.settled eui64
  have marks := balanced.marks_le eui64
  have parties := lowering_nonneg eui64 current.threads
  have worker := share_nonneg eui64 current.shared.worker.lowers
  unfold Zhal.unsettled at settled
  omega

/-- A count that a party is about to lower is positive. -/
theorem Balanced.party_busy (balanced : Balanced current) {party : Party} (member : party ∈ current.threads)
    (point : party.lowers = some item) : 0 < current.shared.isBusy item.eui64 := by
  have settled := balanced.settled item.eui64
  have marks := balanced.marks_le item.eui64
  have part := share_le_lowering item.eui64 member
  have worker := share_nonneg item.eui64 current.shared.worker.lowers
  rw [point, share_self] at part
  unfold Zhal.unsettled at settled
  omega

theorem Balanced.worker_busy (balanced : Balanced current)
    (point : current.shared.worker.lowers = some item) : 0 < current.shared.isBusy item.eui64 := by
  have settled := balanced.settled item.eui64
  have marks := balanced.marks_le item.eui64
  have parties := lowering_nonneg item.eui64 current.threads
  unfold Zhal.unsettled at settled
  rw [point, share_self] at settled
  omega

/-- An item that the worker is about to add is not yet in the table. -/
theorem Balanced.absent (balanced : Balanced current) {rest : List WorkItem}
    (point : current.shared.worker = .adding item rest) : current.shared.findAsync item.requestId = none := by
  cases found : current.shared.findAsync item.requestId with
  | none => rfl
  | some entry =>
      exfalso
      have locked := balanced.owned.allKnown.1.locked
      rw [point] at locked
      obtain rfl := balanced.owned.allKnown.1.findAsync_item balanced.owned.distinct (locked item rfl) found
      have inside := share_le_count entry.eui64 (findAsync_mem found).1
      have single := balanced.single entry.eui64
      have settled := balanced.settled entry.eui64
      have parties := lowering_nonneg entry.eui64 current.threads
      have others := count_nonneg entry.eui64 rest
      unfold Zhal.load at single
      unfold Zhal.unsettled at settled
      rw [point] at single settled
      simp only [Worker.inHand, Worker.marks, Worker.lowers, count_cons, share_self, share_none] at single settled inside
      omega

theorem deleteAsync_mem {zhal : Zhal} {requestId : UInt32} (member : item ∈ zhal.asyncRequests)
    (other : item.requestId ≠ requestId) : item ∈ (zhal.deleteAsync requestId).asyncRequests :=
  (List.mem_eraseP_of_neg (by simpa using other)).mpr member

theorem marked_workerStep {zhal next : Zhal} (taken : WorkerStep zhal next)
    (absent : ∀ item rest, zhal.worker = .adding item rest → zhal.findAsync item.requestId = none) :
    ∀ item, next.worker.marks = some item → item ∈ next.asyncRequests := by
  intro item point
  cases taken with
  | add started unknown =>
      cases point
      exact List.mem_append_right _ (List.mem_singleton_self _)
  | refuse started found =>
      rw [absent _ _ started] at found
      cases found
  | pass | pop | sleep | work | scan | skip | lock | mark | send | sent | fail | withdraw | miss | lower | keep =>
      cases point

/-- A caller takes from the table only the item that it has locked. -/
theorem marked_callerStep {zhal next : Zhal} {caller moved : Caller} (taken : CallerStep zhal caller next moved)
    (other : ∀ mine, (Party.caller caller).locks = some mine → mine.requestId ≠ item.requestId)
    (member : item ∈ zhal.asyncRequests) : item ∈ next.asyncRequests := by
  cases taken with
  | withdraw found => exact deleteAsync_mem member (Ne.symm (other _ rfl))
  | lookup | create | push | signal | enterWait | timeOut | wake | miss | lower | dequeue | abandon
  | signalTimeout | take | unlock => exact member

theorem CallerStep.marks {zhal next : Zhal} {caller moved : Caller} (taken : CallerStep zhal caller next moved) :
    next.worker.marks = zhal.worker.marks := by
  cases taken <;> first | rfl | exact signal_marks _

theorem HandlerStep.marks {zhal next : Zhal} {handler moved : Handler}
    (taken : HandlerStep zhal handler next moved) : next.worker.marks = zhal.worker.marks := by
  cases taken <;> first | rfl | exact signal_marks _

theorem marks_locks {worker : Worker} (point : worker.marks = some item) : worker.locks = some item := by
  cases worker <;> first | exact point | cases point

theorem orderly_response (allowed : orderly current input = true) {response : Response}
    (found : current.threads[input.1]? = some (.handler (.handleIpcResponse response)))
    (point : current.shared.worker.marks = some item) : response.rid ≠ some item.requestId := by
  unfold orderly at allowed
  rw [found] at allowed
  simpa [point] using allowed

/-- The item that the worker is about to count stays in the table. -/
theorem Balanced.marked_step (balanced : Balanced current)
    (allowed : orderly current input = true) {party moved : Party} {shared : Zhal}
    (found : current.threads[input.1]? = some party) (taken : Step current.shared party shared moved) :
    ∀ item, shared.worker.marks = some item → item ∈ shared.asyncRequests := by
  have member : party ∈ current.threads := List.mem_of_getElem? found
  intro item point
  cases taken with
  | worker works => exact marked_workerStep works (fun item rest point => balanced.absent point) item point
  | caller calls =>
      rw [calls.marks] at point
      have inside := balanced.marked item point
      refine marked_callerStep calls ?_ inside
      intro mine locked same
      have created := balanced.owned.allKnown.2 _ member _ mine rfl (locks_item locked)
      have equal := List.inj_on_of_nodup_map balanced.owned.distinct created
        (balanced.owned.allKnown.1.pending item inside) same
      rw [equal] at locked
      exact balanced.owned.exclusive member locked (marks_locks point)
  | handler handles =>
      rw [handles.marks] at point
      have inside := balanced.marked item point
      cases handles with
      | find carried known =>
          have other := orderly_response allowed found point
          rw [carried] at other
          exact deleteAsync_mem inside fun same => other (by rw [same])
      | ignore | lower | keep | complete | signal => exact inside

theorem Balanced.unsettled_step (balanced : Balanced current) {party moved : Party} {shared : Zhal}
    (member : party ∈ current.threads) (taken : Step current.shared party shared moved) (eui64 : UInt64) :
    shared.unsettled eui64 - share eui64 moved.lowers =
      current.shared.unsettled eui64 - share eui64 party.lowers := by
  cases taken with
  | worker works =>
      rw [unsettled_workerStep balanced.owned.allKnown.1 balanced.owned.distinct (fun item rest point => balanced.absent point)
        (fun item point => balanced.worker_busy point) works]
  | caller calls =>
      exact unsettled_callerStep balanced.owned.allKnown.1 balanced.owned.distinct
        (fun item point => balanced.owned.allKnown.2 _ member _ item rfl point) calls eui64
  | handler handles =>
      exact unsettled_handlerStep (fun item point => balanced.party_busy member point) handles eui64

theorem Balanced.step (balanced : Balanced current)
    (allowed : orderly current input = true) (stepped : Threads.step move current input = some next) :
    Balanced next := by
  have owned := balanced.owned.step allowed stepped
  obtain ⟨before, party, after, shared, moved, split, position, moves, rfl⟩ := step_split stepped
  have found : current.threads[input.1]? = some party := by
    rw [split, ← position]
    simp
  have member : party ∈ current.threads := List.mem_of_getElem? found
  have taken := move_step moves
  refine ⟨owned, ?_, ?_, balanced.marked_step allowed found taken, ?_⟩
  · cases taken with
    | worker works => exact balanced.scanned.workerStep balanced.owned.allKnown.1 works
    | caller calls => exact balanced.scanned.callerStep calls
    | handler handles => exact balanced.scanned.handlerStep handles
  · intro eui64
    have single := balanced.single eui64
    cases taken with
    | worker works => exact load_workerStep balanced.scanned balanced.owned.allKnown.1 works single
    | caller calls => exact (load_callerStep calls eui64).trans single
    | handler handles => exact (load_handlerStep handles eui64).trans single
  · intro eui64
    have change := balanced.unsettled_step member taken eui64
    have total := balanced.settled eui64
    have sums := sum_replace (fun party : Party => share eui64 party.lowers) before after party moved
    unfold lowering at total ⊢
    rw [split] at total
    dsimp only
    omega

/-- At most one request of each device is in flight. -/
theorem Balanced.count_le_one (balanced : Balanced current) (eui64 : UInt64) :
    count eui64 current.shared.asyncRequests ≤ 1 := by
  have settled := balanced.settled eui64
  have single := balanced.single eui64
  have parties := lowering_nonneg eui64 current.threads
  have worker := share_nonneg eui64 current.shared.worker.lowers
  have taken : share eui64 current.shared.worker.marks ≤ count eui64 current.shared.worker.inHand := by
    cases point : current.shared.worker with
    | marking item rest =>
        have later := count_nonneg eui64 rest
        simp only [Worker.marks, Worker.inHand, count_cons]
        omega
    | _ => exact count_nonneg eui64 _
  unfold Zhal.load at single
  unfold Zhal.unsettled at settled
  omega

end Balance

end Barton.Zigbee
