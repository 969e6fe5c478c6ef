import BartonCore.Proof.Zigbee.Busy

namespace Barton.Zigbee
open Threads

section Order
variable {zhal next : Zhal}

/-- The items of one device. -/
def ofDevice (eui64 : UInt64) (items : List WorkItem) : List WorkItem := items.filter fun item => item.eui64 = eui64

/-- The items of the device that were sent, that the worker has taken and that are queued, in order. -/
def Zhal.line (zhal : Zhal) (eui64 : UInt64) : List WorkItem :=
  ofDevice eui64 zhal.transmitted ++ (ofDevice eui64 zhal.worker.unsent ++ zhal.queue eui64)

@[simp] theorem ofDevice_append (eui64 : UInt64) (first second : List WorkItem) :
    ofDevice eui64 (first ++ second) = ofDevice eui64 first ++ ofDevice eui64 second :=
  List.filter_append ..

theorem ofDevice_cons_sublist (eui64 : UInt64) (item : WorkItem) (items : List WorkItem) :
    (ofDevice eui64 items).Sublist (ofDevice eui64 (item :: items)) :=
  (List.sublist_cons_self item items).filter _

theorem ofDevice_singleton (eui64 : UInt64) (item : WorkItem) :
    ofDevice eui64 [item] = if item.eui64 = eui64 then [item] else [] := by
  by_cases same : item.eui64 = eui64
  · simp [ofDevice, same]
  · simp [ofDevice, same]

theorem signal_unsent (worker : Worker) : worker.signal.unsent = worker.unsent := by
  cases worker <;> rfl

/-- The worker moves items forward in the line or drops them. -/
theorem line_workerStep (known : Known zhal) (taken : WorkerStep zhal next) (eui64 : UInt64) :
    (next.line eui64).Sublist (zhal.line eui64) ∧ next.pushed = zhal.pushed := by
  unfold Zhal.line
  cases taken with
  | pop point free queued =>
      rename_i other remaining availableWork rest item
      have device := (known.queued other item (by rw [queued]; exact List.mem_cons_self)).2
      refine ⟨?_, rfl⟩
      rw [point]
      simp only [Worker.unsent, Worker.inHand, ofDevice_append, ofDevice_singleton, device]
      by_cases same : other = eui64
      · subst same
        simp [queued]
      · simp [same, Function.update_of_ne (Ne.symm same)]
  | skip point =>
      refine ⟨?_, rfl⟩
      rw [point]
      exact (List.Sublist.refl _).append ((ofDevice_cons_sublist eui64 _ _).append (List.Sublist.refl _))
  | send point =>
      rename_i item rest
      refine ⟨?_, rfl⟩
      rw [point]
      have moved : ofDevice eui64 (item :: rest) = ofDevice eui64 [item] ++ ofDevice eui64 rest :=
        ofDevice_append eui64 [item] rest
      simp only [Worker.unsent, Worker.inHand, ofDevice_append, moved, List.append_assoc]
      exact List.Sublist.refl _
  | scan point =>
      rcases point with ⟨signaled, point⟩ | point
      · rw [point]; exact ⟨List.Sublist.refl _, rfl⟩
      · rw [point]; exact ⟨List.Sublist.refl _, rfl⟩
  | pass point | sleep point | work point | lock point | add point | refuse point | mark point | sent point
  | fail point | withdraw point | miss point | lower point | keep point =>
      rw [point]
      exact ⟨List.Sublist.refl _, rfl⟩

theorem update_erase_sublist (zhal : Zhal) (item : WorkItem) (eui64 : UInt64) :
    (Function.update zhal.queue item.eui64 ((zhal.queue item.eui64).erase item) eui64).Sublist
      (zhal.queue eui64) := by
  by_cases same : eui64 = item.eui64
  · subst same
    rw [Function.update_self]
    exact List.erase_sublist
  · rw [Function.update_of_ne same]

/-- A caller appends its item to the line or takes it out of the queue. -/
theorem line_callerStep {caller moved : Caller} (taken : CallerStep zhal caller next moved) {eui64 : UInt64}
    (ordered : (zhal.line eui64).Sublist (ofDevice eui64 zhal.pushed)) :
    (next.line eui64).Sublist (ofDevice eui64 next.pushed) := by
  have shorter (item : WorkItem) : (ofDevice eui64 zhal.transmitted ++ (ofDevice eui64 zhal.worker.unsent ++
      Function.update zhal.queue item.eui64 ((zhal.queue item.eui64).erase item) eui64)).Sublist
        (zhal.line eui64) :=
    (List.Sublist.refl _).append ((List.Sublist.refl _).append (update_erase_sublist zhal item eui64))
  have signaled : (Zhal.line { zhal with worker := zhal.worker.signal } eui64) = zhal.line eui64 := by
    unfold Zhal.line
    rw [signal_unsent]
  cases taken with
  | push =>
      rename_i item
      unfold Zhal.line at ordered ⊢
      rw [ofDevice_append, ofDevice_singleton]
      by_cases same : item.eui64 = eui64
      · subst same
        simpa using ordered.append (List.Sublist.refl [item])
      · simpa [same, Function.update_of_ne (Ne.symm same)] using ordered
  | lower | dequeue | abandon => exact (shorter _).trans ordered
  | signal | signalTimeout =>
      rw [signaled]
      exact ordered
  | lookup | create | enterWait | timeOut | wake | withdraw | miss | take | unlock => exact ordered

theorem line_handlerStep {handler moved : Handler} (taken : HandlerStep zhal handler next moved)
    (eui64 : UInt64) : next.line eui64 = zhal.line eui64 ∧ next.pushed = zhal.pushed := by
  unfold Zhal.line
  cases taken with
  | lower | ignore | find | keep | complete => exact ⟨rfl, rfl⟩
  | signal free => rw [signal_unsent]; exact ⟨rfl, rfl⟩

theorem line_step (known : Known zhal) {party moved : Party} (taken : Step zhal party next moved) {eui64 : UInt64}
    (ordered : (zhal.line eui64).Sublist (ofDevice eui64 zhal.pushed)) :
    (next.line eui64).Sublist (ofDevice eui64 next.pushed) := by
  cases taken with
  | worker works =>
      have kept := line_workerStep known works eui64
      rw [kept.2]
      exact kept.1.trans ordered
  | caller calls => exact line_callerStep calls ordered
  | handler handles =>
      have kept := line_handlerStep handles eui64
      rw [kept.1, kept.2]
      exact ordered

end Order

section Wake
variable {zhal next : Zhal}

/-- The worker has found no work, and it does not look at the queue again before a signal. -/
def Worker.Passed (eui64 : UInt64) : Worker → Prop
  | .scanning remaining [] => eui64 ∉ remaining
  | .waiting false => True
  | _ => False

/-- The worker looks at every queue before it waits without a signal. -/
def Worker.awake : Worker → Bool
  | .waiting signaled => signaled
  | _ => true

/-- The devices of a call have a queue. -/
def Party.Listed (zhal : Zhal) : Party → Prop
  | .caller (.createItem targetEui64) => targetEui64 ∈ zhal.deviceQueues
  | .caller (.queuePush item) => item.eui64 ∈ zhal.deviceQueues
  | _ => True

/-- Every device with queued items has a queue in the table, and a queue that the worker has passed is busy or
somebody is about to signal the worker. -/
structure Woken (current : Configuration Zhal Party) : Prop where
  listed : ∀ eui64, current.shared.queue eui64 ≠ [] → eui64 ∈ current.shared.deviceQueues
  parties : ∀ party ∈ current.threads, party.Listed current.shared
  wake : ∀ eui64, current.shared.worker.Passed eui64 → current.shared.queue eui64 ≠ [] →
    current.shared.isBusy eui64 ≠ 0 ∨ ∃ party ∈ current.threads, party.willSignal = true

theorem not_passed_signal {worker : Worker} (free : worker.scans = false) (eui64 : UInt64) :
    ¬ worker.signal.Passed eui64 := by
  cases worker with
  | scanning remaining availableWork => cases free
  | waiting | _ => exact id

/-- A party that is not the worker announces its changes to the worker. -/
theorem signals_callerStep {caller moved : Caller} (taken : CallerStep zhal caller next moved) :
    (Party.caller moved).willSignal = true ∨ (∀ eui64, ¬ next.worker.Passed eui64) ∨
      next.worker = zhal.worker ∧ next.queue = zhal.queue ∧ next.isBusy = zhal.isBusy ∧
        (Party.caller caller).willSignal = false := by
  cases taken with
  | lookup | create | enterWait | wake | take | unlock => exact Or.inr (Or.inr ⟨rfl, rfl, rfl, rfl⟩)
  | push | timeOut | withdraw | miss | lower | dequeue | abandon => exact Or.inl rfl
  | signal free | signalTimeout free => exact Or.inr (Or.inl (not_passed_signal free))

theorem signals_handlerStep {handler moved : Handler} (taken : HandlerStep zhal handler next moved) :
    (Party.handler moved).willSignal = true ∨ ∀ eui64, ¬ next.worker.Passed eui64 := by
  cases taken with
  | ignore | find | lower | keep | complete => exact Or.inl rfl
  | signal free => exact Or.inr (not_passed_signal free)

/-- The worker passes a queue only when it is busy or empty. -/
theorem wake_workerStep (listed : ∀ eui64, zhal.queue eui64 ≠ [] → eui64 ∈ zhal.deviceQueues)
    (taken : WorkerStep zhal next) {eui64 : UInt64} (passed : next.worker.Passed eui64)
    (queued : next.queue eui64 ≠ []) :
    next.isBusy eui64 ≠ 0 ∨ zhal.worker.Passed eui64 ∧ next.queue eui64 = zhal.queue eui64 ∧
      next.isBusy eui64 = zhal.isBusy eui64 := by
  cases taken with
  | pass point idle =>
      rename_i other remaining availableWork
      cases availableWork with
      | cons item rest => exact absurd passed id
      | nil =>
          by_cases same : eui64 = other
          · subst same
            exact Or.inl (idle.resolve_right queued)
          · refine Or.inr ⟨?_, rfl, rfl⟩
            rw [point]
            exact fun inside => (List.mem_cons.mp inside).elim same passed
  | pop point free found =>
      rename_i other remaining availableWork rest item
      cases availableWork with
      | nil | cons => exact absurd passed id
  | sleep point =>
      refine Or.inr ⟨?_, rfl, rfl⟩
      rw [point]
      exact List.not_mem_nil
  | scan point => exact absurd (listed eui64 queued) passed
  | work | skip | lock | add | refuse | mark | send | sent | fail | withdraw | miss | lower | keep =>
      exact absurd passed id

theorem listed_callerStep (listed : ∀ eui64, zhal.queue eui64 ≠ [] → eui64 ∈ zhal.deviceQueues)
    {caller moved : Caller} (own : (Party.caller caller).Listed zhal)
    (taken : CallerStep zhal caller next moved) :
    zhal.deviceQueues ⊆ next.deviceQueues ∧ (Party.caller moved).Listed next ∧
      ∀ eui64, next.queue eui64 ≠ [] → eui64 ∈ next.deviceQueues := by
  have same : zhal.deviceQueues ⊆ zhal.deviceQueues := List.Subset.refl _
  have erased (item : WorkItem) (eui64 : UInt64) (queued : Function.update zhal.queue item.eui64
      ((zhal.queue item.eui64).erase item) eui64 ≠ []) : eui64 ∈ zhal.deviceQueues := by
    refine listed eui64 ?_
    intro empty
    have shorter := update_erase_sublist zhal item eui64
    rw [empty] at shorter
    exact queued (List.sublist_nil.mp shorter)
  cases taken with
  | lookup free =>
      rename_i targetEui64
      have grows : zhal.deviceQueues ⊆ (if targetEui64 ∈ zhal.deviceQueues then zhal.deviceQueues
          else zhal.deviceQueues ++ [targetEui64]) := by
        split
        · exact same
        · exact List.subset_append_left _ _
      refine ⟨grows, ?_, fun eui64 queued => grows (listed eui64 queued)⟩
      dsimp only [Party.Listed]
      split
      · assumption
      · exact List.mem_append_right _ (List.mem_singleton_self _)
  | create made =>
      refine ⟨same, ?_, listed⟩
      rw [made]
      exact own
  | push =>
      rename_i item
      refine ⟨same, trivial, ?_⟩
      intro eui64 queued
      by_cases mine : eui64 = item.eui64
      · rw [mine]
        exact own
      · refine listed eui64 ?_
        dsimp only at queued
        rwa [Function.update_of_ne mine] at queued
  | lower | dequeue | abandon => exact ⟨same, trivial, erased _⟩
  | signal | enterWait | timeOut | wake | withdraw | miss | signalTimeout | take | unlock =>
      exact ⟨same, trivial, listed⟩

theorem WorkerStep.listed (taken : WorkerStep zhal next) :
    next.deviceQueues = zhal.deviceQueues ∧ ∀ eui64, next.queue eui64 ⊆ zhal.queue eui64 := by
  have refl (eui64 : UInt64) : zhal.queue eui64 ⊆ zhal.queue eui64 := List.Subset.refl _
  cases taken with
  | pop point free queued =>
      refine ⟨rfl, update_subset ?_⟩
      rw [queued]
      exact List.subset_cons_self _ _
  | _ => exact ⟨rfl, refl⟩

theorem HandlerStep.listed {handler moved : Handler} (taken : HandlerStep zhal handler next moved) :
    next.deviceQueues = zhal.deviceQueues ∧ next.queue = zhal.queue := by
  cases taken <;> exact ⟨rfl, rfl⟩

theorem Party.Listed.mono {party : Party} (listed : party.Listed zhal)
    (grows : zhal.deviceQueues ⊆ next.deviceQueues) : party.Listed next := by
  cases party with
  | worker | handler => trivial
  | caller caller =>
      cases caller with
      | createItem | queuePush => exact grows listed
      | _ => trivial

/-- The tables of the devices only grow. -/
theorem listed_step {party moved : Party}
    (listed : ∀ eui64, zhal.queue eui64 ≠ [] → eui64 ∈ zhal.deviceQueues) (own : party.Listed zhal)
    (taken : Step zhal party next moved) :
    zhal.deviceQueues ⊆ next.deviceQueues ∧ moved.Listed next ∧
      ∀ eui64, next.queue eui64 ≠ [] → eui64 ∈ next.deviceQueues := by
  cases taken with
  | worker works =>
      have kept := works.listed
      rw [kept.1]
      refine ⟨List.Subset.refl _, trivial, ?_⟩
      intro eui64 queued
      refine listed eui64 ?_
      intro empty
      have smaller := kept.2 eui64
      rw [empty] at smaller
      exact queued (List.subset_nil.mp smaller)
  | caller calls => exact listed_callerStep listed own calls
  | handler handles =>
      have kept := handles.listed
      rw [kept.1, kept.2]
      exact ⟨List.Subset.refl _, trivial, listed⟩

/-- A wake-up that somebody else is about to send is not lost. -/
theorem wake_step {before after : List Party} {party moved : Party}
    (listed : ∀ eui64, zhal.queue eui64 ≠ [] → eui64 ∈ zhal.deviceQueues)
    (wake : ∀ eui64, zhal.worker.Passed eui64 → zhal.queue eui64 ≠ [] →
      zhal.isBusy eui64 ≠ 0 ∨ ∃ other ∈ before ++ party :: after, other.willSignal = true)
    (taken : Step zhal party next moved) :
    ∀ eui64, next.worker.Passed eui64 → next.queue eui64 ≠ [] →
      next.isBusy eui64 ≠ 0 ∨ ∃ other ∈ before ++ moved :: after, other.willSignal = true := by
  intro eui64 passed queued
  have inside : moved ∈ before ++ moved :: after := by simp
  have others (silent : party.willSignal = false) (some : ∃ other ∈ before ++ party :: after,
      other.willSignal = true) : ∃ other ∈ before ++ moved :: after, other.willSignal = true := by
    obtain ⟨other, member, signals⟩ := some
    refine ⟨other, ?_, signals⟩
    rcases List.mem_append.mp member with left | right
    · exact List.mem_append_left _ left
    · rcases List.mem_cons.mp right with rfl | right
      · rw [silent] at signals
        cases signals
      · exact List.mem_append_right _ (List.mem_cons_of_mem _ right)
  cases taken with
  | worker works =>
      rcases wake_workerStep listed works passed queued with busy | ⟨before, sameQueue, sameBusy⟩
      · exact Or.inl busy
      · rw [sameQueue] at queued
        rw [sameBusy]
        exact wake eui64 before queued
  | caller calls =>
      rcases signals_callerStep calls with signals | awake | ⟨sameWorker, sameQueue, sameBusy, silent⟩
      · exact Or.inr ⟨_, inside, signals⟩
      · exact absurd passed (awake eui64)
      · rw [sameWorker] at passed
        rw [sameQueue] at queued
        rw [sameBusy]
        exact (wake eui64 passed queued).imp_right (others silent)
  | handler handles =>
      rcases signals_handlerStep handles with signals | awake
      · exact Or.inr ⟨_, inside, signals⟩
      · exact absurd passed (awake eui64)

end Wake

section Runs
variable {current next : Configuration Zhal Party}

/-- The invariant of the request queues. -/
structure Served (current : Configuration Zhal Party) : Prop where
  balanced : Balanced current
  ordered : ∀ eui64, (current.shared.line eui64).Sublist (ofDevice eui64 current.shared.pushed)
  woken : Woken current

theorem Served.step {input : Nat × Bool} (served : Served current) (allowed : orderly current input = true)
    (stepped : Threads.step move current input = some next) : Served next := by
  have balanced := served.balanced.step allowed stepped
  obtain ⟨before, party, after, shared, moved, split, position, moves, rfl⟩ := step_split stepped
  have member : party ∈ current.threads := by simp [split]
  have taken := move_step moves
  have known := served.balanced.owned.allKnown.1
  obtain ⟨grows, own, listed⟩ := listed_step served.woken.listed (served.woken.parties party member) taken
  refine ⟨balanced, fun eui64 => line_step known taken (served.ordered eui64), listed, ?_, ?_⟩
  · intro other inside
    have kept (old : other ∈ current.threads) : other.Listed shared :=
      (served.woken.parties other old).mono grows
    rcases List.mem_append.mp inside with left | right
    · exact kept (by simp [split, left])
    · rcases List.mem_cons.mp right with rfl | right
      · exact own
      · exact kept (by simp [split, right])
  · exact wake_step served.woken.listed (by rw [← split]; exact served.woken.wake) taken

theorem starting_points {party : Party} (starting : party.starting = true) :
    party.locks = none ∧ party.lowers = none ∧
      (∀ caller item, party = .caller caller → caller.item ≠ some item) ∧ ∀ zhal, party.Listed zhal := by
  cases party with
  | worker => exact ⟨rfl, rfl, nofun, fun _ => trivial⟩
  | handler handler =>
      cases handler with
      | handleIpcResponse response => exact ⟨rfl, rfl, nofun, fun _ => trivial⟩
      | _ => cases starting
  | caller caller =>
      cases caller with
      | zhalSendRequest targetEui64 =>
          refine ⟨rfl, rfl, ?_, fun _ => trivial⟩
          intro caller item same point
          cases same
          cases point
      | _ => cases starting

theorem served_initial (requestId : UInt32) {parties : List Party}
    (starting : ∀ party ∈ parties, party.starting = true) : Served ⟨Zhal.initial requestId, parties⟩ := by
  have unlocked (item : WorkItem) : (parties.map fun party => holds item party.locks).sum = 0 := by
    refine List.sum_eq_zero ?_
    intro part inside
    obtain ⟨party, member, rfl⟩ := List.mem_map.mp inside
    rw [(starting_points (starting party member)).1, holds_none]
  have settled (eui64 : UInt64) : lowering eui64 parties = 0 := by
    refine List.sum_eq_zero ?_
    intro part inside
    obtain ⟨party, member, rfl⟩ := List.mem_map.mp inside
    rw [(starting_points (starting party member)).2.1, share_none]
  have owned : Owned ⟨Zhal.initial requestId, parties⟩ := by
    refine ⟨⟨⟨nofun, nofun, nofun, nofun, nofun⟩, ?_⟩, List.nodup_nil, ?_⟩
    · intro party member caller item same point
      exact absurd point ((starting_points (starting party member)).2.2.1 caller item same)
    · intro item
      rw [unlocked item]
      rfl
  have balanced : Balanced ⟨Zhal.initial requestId, parties⟩ := by
    refine ⟨owned, ⟨List.nodup_nil, trivial⟩, fun eui64 => zero_le_one, nofun, ?_⟩
    intro eui64
    rw [settled eui64]
    rfl
  refine ⟨balanced, fun eui64 => List.Sublist.refl _, fun eui64 queued => absurd rfl queued, ?_, ?_⟩
  · intro party member
    exact (starting_points (starting party member)).2.2.2 _
  · exact fun eui64 passed => absurd passed id

theorem lowers_willSignal {party : Party} {item : WorkItem} (point : party.lowers = some item) :
    party.willSignal = true := by
  cases party with
  | worker => cases point
  | handler handler => cases handler <;> first | rfl | cases point
  | caller caller => cases caller <;> first | rfl | cases point

theorem exists_lowering {eui64 : UInt64} {threads : List Party} (some : lowering eui64 threads ≠ 0) :
    ∃ party ∈ threads, party.willSignal = true := by
  by_contra none
  refine some (List.sum_eq_zero ?_)
  intro part inside
  obtain ⟨party, member, rfl⟩ := List.mem_map.mp inside
  cases point : party.lowers with
  | none => exact share_none eui64
  | some item => exact absurd ⟨party, member, lowers_willSignal point⟩ none

/-- The worker or a party that has taken a request from the table is awake or is about to signal. -/
theorem Served.not_stranded (served : Served current) {eui64 : UInt64}
    (queued : current.shared.queue eui64 ≠ []) (idle : count eui64 current.shared.asyncRequests = 0) :
    current.shared.worker.awake = true ∨ ∃ party ∈ current.threads, party.willSignal = true := by
  cases awake : current.shared.worker.awake with
  | true => exact Or.inl rfl
  | false =>
      right
      have point : current.shared.worker = .waiting false := by
        cases worker : current.shared.worker with
        | waiting signaled =>
            rw [worker] at awake
            cases awake
            rfl
        | _ =>
            rw [worker] at awake
            cases awake
      rcases served.woken.wake eui64 (by rw [point]; trivial) queued with busy | signals
      · refine exists_lowering (?_ : lowering eui64 current.threads ≠ 0)
        have settled := served.balanced.settled eui64
        unfold Zhal.unsettled at settled
        rw [idle, point] at settled
        simp only [Worker.marks, Worker.lowers, share_none] at settled
        omega
      · exact signals

/-- No party is between a change of the table and the matching change of a busy count. -/
def Quiet (current : Configuration Zhal Party) : Prop :=
  current.shared.worker.marks = none ∧ current.shared.worker.lowers = none ∧
    ∀ party ∈ current.threads, party.lowers = none

theorem Served.isBusy_eq (served : Served current) (quiet : Quiet current) (eui64 : UInt64) :
    current.shared.isBusy eui64 = count eui64 current.shared.asyncRequests := by
  have settled := served.balanced.settled eui64
  have none : lowering eui64 current.threads = 0 := by
    refine List.sum_eq_zero ?_
    intro part inside
    obtain ⟨party, member, rfl⟩ := List.mem_map.mp inside
    rw [quiet.2.2 party member, share_none]
  unfold Zhal.unsettled at settled
  rw [none, quiet.1, quiet.2.1] at settled
  simp only [share_none] at settled
  omega

/-- The busy counts are the requests in flight, at most one for each device. The requests of a device are sent
in the order of its queue. A device with a queued request and none in flight has an awake worker or a party
that is about to signal it. -/
theorem run_served {requestId : UInt32} {parties : List Party} {schedule : List (Nat × Bool)}
    {final : Configuration Zhal Party} (starting : ∀ party ∈ parties, party.starting = true)
    (allowed : Runs.Guarded (Threads.step move) (fun current input => orderly current input = true)
      ⟨Zhal.initial requestId, parties⟩ schedule)
    (reached : run ⟨Zhal.initial requestId, parties⟩ schedule = some final) (eui64 : UInt64) :
    (Quiet final → final.shared.isBusy eui64 = count eui64 final.shared.asyncRequests) ∧
      (final.shared.isBusy eui64 = 0 ∨ final.shared.isBusy eui64 = 1) ∧
      count eui64 final.shared.asyncRequests ≤ 1 ∧
      (ofDevice eui64 final.shared.transmitted).Sublist (ofDevice eui64 final.shared.pushed) ∧
      (final.shared.queue eui64 ≠ [] → count eui64 final.shared.asyncRequests = 0 →
        final.shared.worker.awake = true ∨ ∃ party ∈ final.threads, party.willSignal = true) := by
  have served : Served final := Runs.Guarded.invariant _ Served
    (fun _ _ _ served guard stepped => served.step guard stepped) allowed (served_initial requestId starting)
      reached
  refine ⟨fun quiet => served.isBusy_eq quiet eui64, ?_, served.balanced.count_le_one eui64, ?_,
    fun queued idle => served.not_stranded queued idle⟩
  · have low := served.balanced.isBusy_nonneg eui64
    have single := served.balanced.single eui64
    have hand := count_nonneg eui64 final.shared.worker.inHand
    unfold Zhal.load at single
    omega
  · exact (List.sublist_append_left _ _).trans (served.ordered eui64)

/-- One call, the worker and one response to the call. -/
def oneRequest : List Party :=
  [.worker, .caller (.zhalSendRequest 1), .handler (.handleIpcResponse ⟨0, some (.number 0)⟩)]

/-- The party makes a number of moves. -/
def moves (party count : Nat) : List (Nat × Bool) := List.replicate count (party, true)

theorem run_served_oneRequest :
    ∃ final, run ⟨Zhal.initial 0, oneRequest⟩ (moves 1 5 ++ moves 0 8 ++ moves 2 4) = some final ∧
      (Quiet final → final.shared.isBusy 1 = count 1 final.shared.asyncRequests) := by
  have computed : (run ⟨Zhal.initial 0, oneRequest⟩ (moves 1 5 ++ moves 0 8 ++ moves 2 4)).isSome = true := by
    decide +kernel
  obtain ⟨final, reached⟩ := Option.isSome_iff_exists.mp computed
  exact ⟨final, reached, (run_served (by decide) (by decide +kernel) reached 1).1⟩

/-- A response is looked up before its count is lowered, it can be looked up before the worker counts its
request, and an item is pushed before the worker is signaled. -/
theorem not_run_served :
    (∃ final, run ⟨Zhal.initial 0, oneRequest⟩ (moves 1 5 ++ moves 0 8 ++ moves 2 1) = some final ∧
      final.shared.worker.marks = none ∧ final.shared.isBusy 1 = 1 ∧ final.shared.asyncRequests = []) ∧
    (∃ final, run ⟨Zhal.initial 0, oneRequest⟩ (moves 1 5 ++ moves 0 5 ++ moves 2 2 ++ moves 0 3 ++ moves 2 2) =
        some final ∧
      final.shared.worker = .working [] ∧ final.shared.isBusy 1 = 1 ∧ final.shared.asyncRequests = []) ∧
    ∃ final, run ⟨Zhal.initial 0, oneRequest⟩ (moves 1 1 ++ moves 0 3 ++ moves 1 2) = some final ∧
      final.shared.worker = .waiting false ∧ final.shared.queue 1 ≠ [] ∧ final.shared.asyncRequests = [] := by
  have lowered : (run ⟨Zhal.initial 0, oneRequest⟩ (moves 1 5 ++ moves 0 8 ++ moves 2 1)).map
      (fun final => (final.shared.worker.marks, final.shared.isBusy 1, final.shared.asyncRequests)) =
        some (none, 1, []) := by decide +kernel
  have early : (run ⟨Zhal.initial 0, oneRequest⟩
        (moves 1 5 ++ moves 0 5 ++ moves 2 2 ++ moves 0 3 ++ moves 2 2)).map
      (fun final => (final.shared.worker, final.shared.isBusy 1, final.shared.asyncRequests)) =
        some (.working [], 1, []) := by decide +kernel
  have pushed : (run ⟨Zhal.initial 0, oneRequest⟩ (moves 1 1 ++ moves 0 3 ++ moves 1 2)).map
      (fun final => (final.shared.worker, final.shared.queue 1, final.shared.asyncRequests)) =
        some (.waiting false, [⟨0, 1, 0⟩], []) := by decide +kernel
  obtain ⟨first, reachedFirst, shownFirst⟩ := Option.map_eq_some_iff.mp lowered
  obtain ⟨second, reachedSecond, shownSecond⟩ := Option.map_eq_some_iff.mp early
  obtain ⟨third, reachedThird, shownThird⟩ := Option.map_eq_some_iff.mp pushed
  simp only [Prod.mk.injEq] at shownFirst shownSecond shownThird
  refine ⟨⟨first, reachedFirst, shownFirst⟩, ⟨second, reachedSecond, shownSecond⟩,
    third, reachedThird, shownThird.1, ?_, shownThird.2.2⟩
  rw [shownThird.2.1]
  exact List.cons_ne_nil _ _

end Runs

end Barton.Zigbee
