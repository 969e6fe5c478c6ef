import BartonCore.Proof.Zigbee.Premature

namespace Barton.ZigbeeDiscovery
open Threads ZigbeeEvents

section Points

/-- The device whose `zigbeeSubsystemDeviceDiscovered` is in progress on the thread. -/
def Thread.pairs : Thread → Option UInt64
  | .deviceDiscovered _ .created => none
  | .deviceDiscovered eui64 _ => some eui64
  | _ => none

/-- The device is in `devicesInDiscovery` because of the thread. -/
def Thread.marks : Thread → Option UInt64
  | .deviceDiscovered eui64 .claim => some eui64
  | .deviceDiscovered eui64 (.remove _) => some eui64
  | _ => none

/-- The device has been removed from `devicesInDiscovery` by the thread without a claim. -/
def Thread.gaveUp : Thread → Option UInt64
  | .deviceDiscovered eui64 .noteUnclaimed => some eui64
  | _ => none

/-- The thread has not found the device in `devicesInDiscovery` and may tell it to leave. -/
def Thread.decides : Thread → Option UInt64
  | .message callback .isDeviceKnown => some callback.eui64
  | .message callback .requestLeave => some callback.eui64
  | _ => none

/-- A run of `zigbeeSubsystemDeviceDiscovered` is in progress for the device. -/
def InProgress (eui64 : UInt64) (threads : List Thread) : Prop := eui64 ∈ threads.filterMap Thread.pairs

instance (eui64 : UInt64) (threads : List Thread) : Decidable (InProgress eui64 threads) :=
  inferInstanceAs (Decidable (eui64 ∈ threads.filterMap Thread.pairs))

theorem marks_pairs {thread : Thread} {eui64 : UInt64} (marks : thread.marks = some eui64) :
    thread.pairs = some eui64 := by
  cases thread with
  | deviceDiscovered other point => cases point <;> first | exact marks | cases marks
  | _ => cases marks

/-- A run in progress has marked its device or has given it up. -/
theorem pairs_cases {thread : Thread} {eui64 : UInt64} (pairs : thread.pairs = some eui64) :
    thread.marks = some eui64 ∨ thread.gaveUp = some eui64 := by
  cases thread with
  | deviceDiscovered other point =>
      cases point with
      | created => cases pairs
      | noteUnclaimed => exact Or.inr pairs
      | _ => exact Or.inl pairs
  | _ => cases pairs

theorem inProgress_middle {before after : List Thread} {thread : Thread} {eui64 : UInt64} :
    InProgress eui64 (before ++ thread :: after) ↔
      thread.pairs = some eui64 ∨ InProgress eui64 (before ++ after) := by
  unfold InProgress
  simp only [List.mem_filterMap, mem_middle, or_and_right, exists_or, exists_eq_left']

end Points

section Guard

/-- A run for a device begins only while no other run is in progress for it, it is not listed as unclaimed, and no
message of it is being rejected. An unknown device is looked up in `devicesInDiscovery` only while no run has given it
up. Only an unknown device is listed as unclaimed. -/
def welcomes (current : Configuration Shared Thread) (input : Nat × Answers) : Bool :=
  match current.threads[input.1]? with
  | some (.deviceDiscovered eui64 .created) =>
      (current.threads.all fun thread => thread.pairs ≠ some eui64) &&
        !current.shared.unclaimedDevices.contains eui64 &&
        (eui64 ∈ current.shared.knownDevices || current.threads.all fun thread => thread.decides ≠ some eui64)
  | some (.deviceDiscovered eui64 .noteUnclaimed) =>
      input.2.failedToPair || eui64 ∉ current.shared.knownDevices
  | some (.message callback .devicesInDiscovery) =>
      callback.eui64 ∈ current.shared.knownDevices ||
        current.threads.all fun thread => thread.gaveUp ≠ some callback.eui64
  | _ => true

end Guard

section Moves

/-- This is what the decisions about a device are taken from, with the requests so far. -/
structure Standing where
  discovery : Finset UInt64
  unclaimed : List UInt64
  known : Finset UInt64
  requests : List UInt64

def Shared.standing (shared : Shared) : Standing where
  discovery := shared.devicesInDiscovery
  unclaimed := shared.unclaimedDevices
  known := shared.knownDevices
  requests := shared.leaveRequests

/-- What a move does to the standing of the devices. -/
inductive LeaveMoves (answers : Answers) : Standing → Thread → Standing → Thread → Prop where
  | quiet {standing : Standing} {thread moved : Thread} (before : thread.pairs = none) (after : moved.pairs = none)
      (decides : moved.decides = none) : LeaveMoves answers standing thread standing moved
  | put {standing : Standing} {eui64 : UInt64} : LeaveMoves answers standing (.deviceDiscovered eui64 .created)
      { standing with discovery := insert eui64 standing.discovery } (.deviceDiscovered eui64 .claim)
  | claim {standing : Standing} {eui64 : UInt64} (claimed : Bool) :
      LeaveMoves answers standing (.deviceDiscovered eui64 .claim)
        { standing with known := if claimed then insert eui64 standing.known else standing.known }
        (.deviceDiscovered eui64 (.remove claimed))
  | remove {standing : Standing} {eui64 : UInt64} (claimed : Bool) :
      LeaveMoves answers standing (.deviceDiscovered eui64 (.remove claimed))
        { standing with discovery := standing.discovery.erase eui64 }
        (if claimed then .returned else .deviceDiscovered eui64 .noteUnclaimed)
  | spare {standing : Standing} {eui64 : UInt64} :
      LeaveMoves answers standing (.deviceDiscovered eui64 .noteUnclaimed) standing .returned
  | note {standing : Standing} {eui64 : UInt64} (paired : answers.failedToPair = false) :
      LeaveMoves answers standing (.deviceDiscovered eui64 .noteUnclaimed)
        { standing with unclaimed := standing.unclaimed.insert eui64 } .returned
  | check {standing : Standing} {callback : Callback} (absent : callback.eui64 ∉ standing.discovery) :
      LeaveMoves answers standing (.message callback .devicesInDiscovery) standing (.message callback .isDeviceKnown)
  | reject {standing : Standing} {callback : Callback} (unknown : callback.eui64 ∉ standing.known) :
      LeaveMoves answers standing (.message callback .isDeviceKnown) standing (.message callback .requestLeave)
  | leave {standing : Standing} {callback : Callback} :
      LeaveMoves answers standing (.message callback .requestLeave)
        { standing with requests := standing.requests ++ [callback.eui64] } .returned
  | leaveAll {standing : Standing} : LeaveMoves answers standing (.stop .requestLeave)
      { standing with requests := standing.requests ++ standing.unclaimed, unclaimed := [] } (.stop .destroyProcessed)

variable {shared next : Shared} {thread moved : Thread} {answers : Answers}

theorem useCommands_standing (shared : Shared) (map : CommandMap) (entry : Section) :
    (shared.useCommands map entry).standing = shared.standing := by
  unfold Shared.useCommands
  split <;> rfl

theorem destroyCommands_standing (shared : Shared) (pointer : CommandMap) :
    (shared.destroyCommands pointer).standing = shared.standing := by
  unfold Shared.destroyCommands
  split <;> rfl

theorem moveMessage_leaveMoves (callback : Callback) (point : MessagePoint) :
    LeaveMoves answers shared.standing (.message callback point)
      (moveMessage shared callback point answers).1.standing (moveMessage shared callback point answers).2 := by
  cases point with
  | created => exact .quiet rfl rfl rfl
  | properties discovering =>
      show LeaveMoves answers _ _ _ (.message callback _)
      split <;> exact .quiet rfl rfl rfl
  | devicesInDiscovery =>
      show LeaveMoves answers _ _ _ (.message callback _)
      by_cases present : callback.eui64 ∈ shared.devicesInDiscovery
      · rw [if_pos present]
        exact .quiet rfl rfl rfl
      · rw [if_neg present]
        exact .check present
  | isDeviceKnown =>
      show LeaveMoves answers _ _ _ (.message callback _)
      by_cases known : callback.eui64 ∈ shared.knownDevices
      · rw [if_pos known]
        exact .quiet rfl rfl rfl
      · rw [if_neg known]
        exact .reject known
  | requestLeave => exact .leave
  | accepted discovering =>
      have passed : (passOn callback discovering answers).pairs = none ∧
          (passOn callback discovering answers).decides = none := by
        unfold passOn
        cases callback with
        | attributeReportReceived report => exact ⟨rfl, rfl⟩
        | clusterCommandReceived command =>
            dsimp only
            split <;> exact ⟨rfl, rfl⟩
      exact .quiet rfl passed.1 passed.2

theorem move_leaveMoves (taken : move shared thread answers = some (next, moved)) :
    LeaveMoves answers shared.standing thread next.standing moved := by
  cases thread with
  | start point =>
      obtain ⟨rfl, rfl⟩ := moved_eq taken
      cases point with
      | created =>
          unfold moveStart
          dsimp only
          split
          · have same := destroyCommands_standing
              { shared with discoveringRefCount := shared.discoveringRefCount + 1 } .destroyed
            have standing : Shared.standing { Shared.destroyCommands
                { shared with discoveringRefCount := shared.discoveringRefCount + 1 } .destroyed with
                sections := shared.sections ++ [.discoveryStarted] } = shared.standing := same
            rw [standing]
            exact .quiet rfl rfl rfl
          · exact .quiet rfl rfl rfl
      | enableJoin =>
          unfold moveStart
          dsimp only
          split <;> exact .quiet rfl rfl rfl
      | destroyCommands =>
          show LeaveMoves answers _ _ (shared.destroyCommands .null).standing _
          rw [destroyCommands_standing]
          exact .quiet rfl rfl rfl
      | _ => exact .quiet rfl rfl rfl
  | stop point =>
      obtain ⟨rfl, rfl⟩ := moved_eq taken
      cases point with
      | created =>
          unfold moveStop
          dsimp only
          split <;> exact .quiet rfl rfl rfl
      | requestLeave => exact .leaveAll
      | _ => exact .quiet rfl rfl rfl
  | message callback point =>
      obtain ⟨rfl, rfl⟩ := moved_eq taken
      exact moveMessage_leaveMoves callback point
  | deviceDiscovered eui64 point =>
      obtain ⟨rfl, rfl⟩ := moved_eq taken
      cases point with
      | created => exact .put
      | claim => exact .claim answers.claimed
      | remove claimed => exact .remove claimed
      | noteUnclaimed =>
          cases failed : answers.failedToPair with
          | true =>
              simp only [moveDiscovered, failed]
              exact .spare
          | false =>
              simp only [moveDiscovered, failed]
              exact .note failed
  | getCommand eui64 commandId timeoutSeconds =>
      cases timeoutSeconds with
      | zero =>
          obtain ⟨rfl, rfl⟩ := moved_eq taken
          exact .quiet rfl rfl rfl
      | succ timeoutSeconds =>
          obtain ⟨rfl, rfl⟩ := moved_eq taken
          rw [useCommands_standing]
          dsimp only
          split <;> exact .quiet rfl rfl rfl
  | addCommand _ | getCommands _ | destroyCommands _ | removeCommand _ _ =>
      obtain ⟨rfl, rfl⟩ := moved_eq taken
      rw [useCommands_standing]
      exact .quiet rfl rfl rfl
  | startReturned _ | stopReturned | returned => cases taken

end Moves

section Welcome

/-- A run in progress keeps its device out of the unclaimed ones, and a message is rejected only for a device that is
neither known nor paired. -/
structure Welcome (standing : Standing) (threads : List Thread) : Prop where
  single : (threads.filterMap Thread.pairs).Nodup
  marked : ∀ thread ∈ threads, ∀ eui64, thread.marks = some eui64 → eui64 ∈ standing.discovery
  unclaimed : ∀ eui64 ∈ standing.unclaimed, eui64 ∉ standing.known ∧ ¬ InProgress eui64 threads
  absent : ∀ callback, .message callback .isDeviceKnown ∈ threads →
    callback.eui64 ∈ standing.known ∨ ¬ InProgress callback.eui64 threads
  rejected : ∀ callback, .message callback .requestLeave ∈ threads →
    callback.eui64 ∉ standing.known ∧ ¬ InProgress callback.eui64 threads

variable {answers : Answers} {standing standing' : Standing} {thread moved : Thread} {before after : List Thread}

/-- A move that begins no run keeps the facts when the moving thread keeps its own. -/
theorem Welcome.keep (welcome : Welcome standing (before ++ thread :: after))
    (pairs : moved.pairs = none ∨ moved.pairs = thread.pairs)
    (marks : ∀ eui64, moved.marks = some eui64 → eui64 ∈ standing'.discovery)
    (discovery : ∀ other ∈ before ++ after, ∀ eui64, other.marks = some eui64 →
      eui64 ∈ standing.discovery → eui64 ∈ standing'.discovery)
    (unclaimed : ∀ eui64 ∈ standing'.unclaimed, eui64 ∈ standing.unclaimed ∨
      eui64 ∉ standing'.known ∧ ¬ InProgress eui64 (before ++ moved :: after))
    (grows : ∀ eui64 ∈ standing.known, eui64 ∈ standing'.known)
    (claimed : ∀ eui64 ∈ standing'.known, eui64 ∈ standing.known ∨ InProgress eui64 (before ++ thread :: after))
    (absent : ∀ callback, moved = .message callback .isDeviceKnown →
      callback.eui64 ∈ standing.known ∨ ¬ InProgress callback.eui64 (before ++ thread :: after))
    (rejected : ∀ callback, moved = .message callback .requestLeave →
      callback.eui64 ∉ standing.known ∧ ¬ InProgress callback.eui64 (before ++ thread :: after)) :
    Welcome standing' (before ++ moved :: after) := by
  have fewer {eui64 : UInt64} (idle : ¬ InProgress eui64 (before ++ thread :: after)) :
      ¬ InProgress eui64 (before ++ moved :: after) := by
    rw [inProgress_middle] at idle ⊢
    rintro (own | other)
    · rcases pairs with none | same
      · rw [none] at own
        cases own
      · exact idle (Or.inl (same ▸ own))
    · exact idle (Or.inr other)
  have still {eui64 : UInt64} (old : eui64 ∉ standing.known ∧ ¬ InProgress eui64 (before ++ thread :: after)) :
      eui64 ∉ standing'.known ∧ ¬ InProgress eui64 (before ++ moved :: after) :=
    ⟨fun known => (claimed eui64 known).elim old.1 old.2, fewer old.2⟩
  refine ⟨?_, ?_, ?_, ?_, ?_⟩
  · rcases pairs with none | same
    · exact nodup_release welcome.single none
    · exact nodup_replace welcome.single (Or.inl same)
  · intro other member eui64 marked
    rcases mem_middle.mp member with rfl | member
    · exact marks eui64 marked
    · exact discovery other member eui64 marked
        (welcome.marked other (mem_middle.mpr (Or.inr member)) eui64 marked)
  · intro eui64 member
    rcases unclaimed eui64 member with old | new
    · exact still (welcome.unclaimed eui64 old)
    · exact new
  · intro callback member
    have old : callback.eui64 ∈ standing.known ∨ ¬ InProgress callback.eui64 (before ++ thread :: after) := by
      rcases mem_middle.mp member with own | member
      · exact absent callback own
      · exact welcome.absent callback (mem_middle.mpr (Or.inr member))
    exact old.imp (grows callback.eui64) fewer
  · intro callback member
    apply still
    rcases mem_middle.mp member with own | member
    · exact rejected callback own
    · exact welcome.rejected callback (mem_middle.mpr (Or.inr member))

/-- A run begins for a device that is not paired, not unclaimed and not rejected. -/
theorem Welcome.put {eui64 : UInt64} (welcome : Welcome standing (before ++ .deviceDiscovered eui64 .created :: after))
    (idle : ¬ InProgress eui64 (before ++ .deviceDiscovered eui64 .created :: after))
    (listed : eui64 ∉ standing.unclaimed)
    (undecided : eui64 ∈ standing.known ∨
      ∀ thread ∈ before ++ .deviceDiscovered eui64 .created :: after, thread.decides ≠ some eui64) :
    Welcome { standing with discovery := insert eui64 standing.discovery }
      (before ++ .deviceDiscovered eui64 .claim :: after) := by
  have busy {other : UInt64} : InProgress other (before ++ .deviceDiscovered eui64 .claim :: after) ↔
      other = eui64 ∨ InProgress other (before ++ .deviceDiscovered eui64 .created :: after) := by
    rw [inProgress_middle, inProgress_middle]
    show some eui64 = some other ∨ _ ↔ other = eui64 ∨ none = some other ∨ _
    rw [or_iff_right (a := none = some other) nofun, Option.some.injEq, eq_comm]
  have held {callback : Callback} {point : MessagePoint}
      (member : .message callback point ∈ before ++ .deviceDiscovered eui64 .claim :: after) :
      .message callback point ∈ before ++ .deviceDiscovered eui64 .created :: after := by
    rcases mem_middle.mp member with own | member
    · cases own
    · exact mem_middle.mpr (Or.inr member)
  refine ⟨?_, ?_, ?_, ?_, ?_⟩
  · refine nodup_replace welcome.single (Or.inr ⟨rfl, eui64, rfl, ?_⟩)
    intro other member pairs
    exact idle (inProgress_middle.mpr (Or.inr (List.mem_filterMap.mpr ⟨other, member, pairs⟩)))
  · intro other member device marked
    rcases mem_middle.mp member with rfl | member
    · cases marked
      exact Finset.mem_insert_self _ _
    · exact Finset.mem_insert_of_mem (welcome.marked other (mem_middle.mpr (Or.inr member)) device marked)
  · intro device member
    have old := welcome.unclaimed device member
    refine ⟨old.1, ?_⟩
    rw [busy]
    rintro (rfl | progress)
    · exact listed member
    · exact old.2 progress
  · intro callback member
    rcases welcome.absent callback (held member) with known | other
    · exact Or.inl known
    · by_cases same : callback.eui64 = eui64
      · rcases undecided with known | free
        · exact Or.inl (same ▸ known)
        · exact absurd (congrArg some same) (free _ (held member))
      · exact Or.inr (busy.not.mpr (not_or.mpr ⟨same, other⟩))
  · intro callback member
    obtain ⟨unknown, other⟩ := welcome.rejected callback (held member)
    refine ⟨unknown, busy.not.mpr (not_or.mpr ⟨?_, other⟩)⟩
    intro same
    rcases undecided with known | free
    · exact unknown (same ▸ known)
    · exact free _ (held member) (congrArg some same)

theorem Welcome.step (welcome : Welcome standing (before ++ thread :: after))
    (moves : LeaveMoves answers standing thread standing' moved)
    (begins : ∀ eui64, thread = .deviceDiscovered eui64 .created →
      ¬ InProgress eui64 (before ++ thread :: after) ∧ eui64 ∉ standing.unclaimed ∧
        (eui64 ∈ standing.known ∨ ∀ other ∈ before ++ thread :: after, other.decides ≠ some eui64))
    (notes : ∀ eui64, thread = .deviceDiscovered eui64 .noteUnclaimed → answers.failedToPair = false →
      eui64 ∉ standing.known)
    (checks : ∀ callback, thread = .message callback .devicesInDiscovery → callback.eui64 ∈ standing.known ∨
      ∀ other ∈ before ++ thread :: after, other.gaveUp ≠ some callback.eui64) :
    Welcome standing' (before ++ moved :: after) := by
  cases moves with
  | quiet idle still decides =>
      refine welcome.keep (Or.inl still) ?_ (fun _ _ _ _ member => member) (fun _ => Or.inl) (fun _ => id)
        (fun _ => Or.inl) ?_ ?_
      · intro eui64 marks
        rw [marks_pairs marks] at still
        cases still
      · rintro callback rfl
        cases decides
      · rintro callback rfl
        cases decides
  | @put eui64 =>
      obtain ⟨idle, listed, undecided⟩ := begins eui64 rfl
      exact welcome.put idle listed undecided
  | @claim eui64 claimed =>
      have marked : eui64 ∈ standing.discovery := welcome.marked _ (mem_middle.mpr (Or.inl rfl)) eui64 rfl
      refine welcome.keep (Or.inr rfl) ?_ (fun _ _ _ _ member => member) (fun _ => Or.inl) ?_ ?_ nofun nofun
      · intro other marks
        cases marks
        exact marked
      · intro other known
        show other ∈ if claimed then insert eui64 standing.known else standing.known
        split
        · exact Finset.mem_insert_of_mem known
        · exact known
      · intro other known
        change other ∈ if claimed then insert eui64 standing.known else standing.known at known
        split at known
        · rcases Finset.mem_insert.mp known with rfl | known
          · exact Or.inr (inProgress_middle.mpr (Or.inl rfl))
          · exact Or.inl known
        · exact Or.inl known
  | @remove eui64 claimed =>
      have single : eui64 ∉ (before ++ after).filterMap Thread.pairs := not_held welcome.single rfl
      refine welcome.keep (by cases claimed <;> simp [Thread.pairs]) ?_ ?_ (fun _ => Or.inl) (fun _ => id)
        (fun _ => Or.inl) ?_ ?_
      · intro other marks
        cases claimed <;> cases marks
      · intro other member device marks discovery
        refine Finset.mem_erase.mpr ⟨?_, discovery⟩
        rintro rfl
        exact single (List.mem_filterMap.mpr ⟨other, member, marks_pairs marks⟩)
      · intro callback same
        cases claimed <;> cases same
      · intro callback same
        cases claimed <;> cases same
  | spare | leave =>
      exact welcome.keep (Or.inl rfl) nofun (fun _ _ _ _ member => member) (fun _ => Or.inl) (fun _ => id)
        (fun _ => Or.inl) nofun nofun
  | @note eui64 paired =>
      have single : eui64 ∉ (before ++ after).filterMap Thread.pairs := not_held welcome.single rfl
      refine welcome.keep (Or.inl rfl) nofun (fun _ _ _ _ member => member) ?_ (fun _ => id) (fun _ => Or.inl)
        nofun nofun
      intro other member
      rcases List.mem_insert_iff.mp member with rfl | member
      · refine Or.inr ⟨notes other rfl paired, ?_⟩
        rw [inProgress_middle]
        rintro (own | busy)
        · cases own
        · exact single busy
      · exact Or.inl member
  | @check callback missing =>
      refine welcome.keep (Or.inl rfl) nofun (fun _ _ _ _ member => member) (fun _ => Or.inl) (fun _ => id)
        (fun _ => Or.inl) ?_ nofun
      rintro other same
      cases same
      refine (checks callback rfl).imp_right ?_
      intro kept progress
      obtain ⟨run, member, pairs⟩ := List.mem_filterMap.mp progress
      rcases pairs_cases pairs with marks | gaveUp
      · exact missing (welcome.marked run member _ marks)
      · exact kept run member gaveUp
  | @reject callback unknown =>
      refine welcome.keep (Or.inl rfl) nofun (fun _ _ _ _ member => member) (fun _ => Or.inl) (fun _ => id)
        (fun _ => Or.inl) nofun ?_
      intro other same
      cases same
      exact ⟨unknown, (welcome.absent callback (mem_middle.mpr (Or.inl rfl))).resolve_left unknown⟩
  | leaveAll =>
      exact welcome.keep (Or.inl rfl) nofun (fun _ _ _ _ member => member) nofun (fun _ => id)
        (fun _ => Or.inl) nofun nofun

/-- The requests of a move go to devices that are neither known nor paired. -/
theorem Welcome.sent (welcome : Welcome standing (before ++ thread :: after))
    (moves : LeaveMoves answers standing thread standing' moved) :
    ∃ sent, standing'.requests = standing.requests ++ sent ∧ ∀ eui64 ∈ sent,
      eui64 ∉ standing.known ∧ ¬ InProgress eui64 (before ++ thread :: after) := by
  cases moves with
  | @leave callback =>
      refine ⟨[callback.eui64], rfl, ?_⟩
      intro eui64 member
      rw [List.mem_singleton.mp member]
      exact welcome.rejected callback (mem_middle.mpr (Or.inl rfl))
  | leaveAll => exact ⟨standing.unclaimed, rfl, welcome.unclaimed⟩
  | _ => exact ⟨[], (List.append_nil _).symm, nofun⟩

end Welcome

section Runs

variable {current next : Configuration Shared Thread} {input : Nat × Answers}

theorem Welcome.step_all (welcome : Welcome current.shared.standing current.threads)
    (guard : welcomes current input = true) (stepped : Threads.step move current input = some next) :
    Welcome next.shared.standing next.threads := by
  obtain ⟨before, thread, after, shared, moved, split, found, taken, rfl⟩ := step_at stepped
  unfold welcomes at guard
  rw [found] at guard
  have moves := move_leaveMoves taken
  rw [split] at welcome guard
  refine welcome.step moves ?_ ?_ ?_
  · rintro eui64 rfl
    simp only [Bool.and_eq_true, Bool.or_eq_true, List.all_eq_true, decide_eq_true_eq, Bool.not_eq_true',
      List.contains_eq_mem, decide_eq_false_iff_not] at guard
    obtain ⟨⟨alone, listed⟩, undecided⟩ := guard
    refine ⟨?_, listed, undecided⟩
    intro progress
    obtain ⟨other, member, pairs⟩ := List.mem_filterMap.mp progress
    exact alone other member pairs
  · rintro eui64 rfl paired
    rw [paired] at guard
    exact of_decide_eq_true guard
  · rintro callback rfl
    simp only [Bool.or_eq_true, List.all_eq_true, decide_eq_true_eq] at guard
    exact guard

/-- In every guarded run the leave requests of each step go to devices that are neither known nor paired. -/
theorem run_welcome {eventHandler : ZigbeeJoining.EventHandler} {knownDevices : Finset UInt64}
    {threads : List Call} {schedule : List (Nat × Answers)}
    (guarded : Runs.Guarded (Threads.step move) (fun current input => welcomes current input = true)
      (calls eventHandler knownDevices threads) schedule)
    (reached : run eventHandler knownDevices threads schedule = some current)
    (stepped : Threads.step move current input = some next) :
    ∃ sent, next.shared.leaveRequests = current.shared.leaveRequests ++ sent ∧ ∀ eui64 ∈ sent,
      eui64 ∉ current.shared.knownDevices ∧ ¬ InProgress eui64 current.threads := by
  have unbegun (call : Call) : call.thread.pairs = none ∧ call.thread.decides = none := by
    cases call <;> exact ⟨rfl, rfl⟩
  have idle : (threads.map Call.thread).filterMap Thread.pairs = [] := by
    rw [List.filterMap_eq_nil_iff]
    intro thread member
    obtain ⟨call, _, rfl⟩ := List.mem_map.mp member
    exact (unbegun call).1
  have undecided {callback : Callback} {point : MessagePoint} (member : .message callback point ∈ threads.map Call.thread)
      (decides : Thread.decides (.message callback point) ≠ none) : False := by
    obtain ⟨call, _, same⟩ := List.mem_map.mp member
    rw [← same] at decides
    exact decides (unbegun call).2
  have initially : Welcome (initial eventHandler knownDevices).standing (threads.map Call.thread) := by
    refine ⟨by rw [idle]; exact List.nodup_nil, ?_, nofun, ?_, ?_⟩
    · intro thread member eui64 marks
      have pairs := List.mem_filterMap.mpr ⟨thread, member, marks_pairs marks⟩
      rw [idle] at pairs
      cases pairs
    · exact fun callback member => (undecided member nofun).elim
    · exact fun callback member => (undecided member nofun).elim
  have welcome : Welcome current.shared.standing current.threads := Runs.Guarded.invariant _
    (fun current => Welcome current.shared.standing current.threads)
    (fun _ _ _ holds guard stepped => holds.step_all guard stepped) guarded initially reached
  obtain ⟨before, thread, after, shared, moved, split, found, taken, rfl⟩ := step_at stepped
  rw [split] at welcome ⊢
  exact welcome.sent (move_leaveMoves taken)

end Runs

section Sample

/-- No driver claims the device. -/
def unclaimed : Answers := ⟨true, true, true, false, false, false, false⟩

/-- A message of the device 1. -/
def sampleMessage : Call := .message (.clusterCommandReceived (sampleCommand 1))

/-- An unclaimed device is told to leave at the end of the session, and a claimed one is not. -/
theorem run_welcome_stopped :
    ∃ current next, run emptyHandler ∅ [.start, .deviceDiscovered 1, .deviceDiscovered 2, .stop]
        ([0, 0, 0, 0, 1, 1, 1, 1].map (fun index => (index, unclaimed)) ++
          [2, 2, 2, 3, 3].map fun index => (index, good)) = some current ∧
      Threads.step move current (3, good) = some next ∧ next.shared.leaveRequests = [1] ∧
      ∀ eui64 ∈ next.shared.leaveRequests,
        eui64 ∉ current.shared.knownDevices ∧ ¬ InProgress eui64 current.threads := by
  have computed : ((run emptyHandler ∅ [.start, .deviceDiscovered 1, .deviceDiscovered 2, .stop]
      ([0, 0, 0, 0, 1, 1, 1, 1].map (fun index => (index, unclaimed)) ++
        [2, 2, 2, 3, 3].map fun index => (index, good))).bind fun current =>
      (Threads.step move current (3, good)).map fun next =>
        (current.shared.leaveRequests, next.shared.leaveRequests)) = some ([], [1]) := by decide +kernel
  obtain ⟨current, reached, rest⟩ := Option.bind_eq_some_iff.mp computed
  obtain ⟨next, stepped, same⟩ := Option.map_eq_some_iff.mp rest
  obtain ⟨none, one⟩ := Prod.mk.inj same
  obtain ⟨sent, requests, welcome⟩ := run_welcome (by decide +kernel) reached stepped
  refine ⟨current, next, reached, stepped, one, ?_⟩
  rw [none, List.nil_append] at requests
  rw [requests]
  exact welcome

/-- A device that is unclaimed in one session and claimed in the next is told to leave when that session stops. A device
whose run begins after a message of it was looked up is told to leave. Two runs share one mark, and the device is told
to leave while the second is in progress. -/
theorem not_run_welcome :
    (∃ final, run emptyHandler ∅ [.start, .deviceDiscovered 1, .stop, .start, .deviceDiscovered 1, .stop]
        ([0, 0, 0, 0, 1, 2, 2, 2, 2, 2, 1, 1, 1].map (fun index => (index, unclaimed)) ++
          [3, 3, 3, 3, 4, 4, 4, 5, 5, 5].map fun index => (index, good)) = some final ∧
      final.shared.leaveRequests = [1] ∧ 1 ∈ final.shared.knownDevices) ∧
    (∃ final, run emptyHandler ∅ [sampleMessage, .deviceDiscovered 1]
        ([0, 0, 0, 0, 1, 0].map fun index => (index, good)) = some final ∧
      final.shared.leaveRequests = [1] ∧ InProgress 1 final.threads) ∧
    ∃ final, run emptyHandler ∅ [.deviceDiscovered 1, .deviceDiscovered 1, sampleMessage]
        ([0, 1, 0, 0, 2, 2, 2, 2, 2].map fun index => (index, unclaimed)) = some final ∧
      final.shared.leaveRequests = [1] ∧ final.threads[1]? = some (.deviceDiscovered 1 .claim) := by
  refine ⟨?_, ?_, ?_⟩
  · have computed : (run emptyHandler ∅ [.start, .deviceDiscovered 1, .stop, .start, .deviceDiscovered 1, .stop]
        ([0, 0, 0, 0, 1, 2, 2, 2, 2, 2, 1, 1, 1].map (fun index => (index, unclaimed)) ++
          [3, 3, 3, 3, 4, 4, 4, 5, 5, 5].map fun index => (index, good))).map
        (fun final => (final.shared.leaveRequests, decide (1 ∈ final.shared.knownDevices))) =
          some ([1], true) := by decide +kernel
    obtain ⟨final, reached, same⟩ := Option.map_eq_some_iff.mp computed
    obtain ⟨requests, known⟩ := Prod.mk.inj same
    exact ⟨final, reached, requests, of_decide_eq_true known⟩
  · have computed : (run emptyHandler ∅ [sampleMessage, .deviceDiscovered 1]
        ([0, 0, 0, 0, 1, 0].map fun index => (index, good))).map
        (fun final => (final.shared.leaveRequests, final.threads)) =
          some ([1], [.returned, .deviceDiscovered 1 .claim]) := by decide +kernel
    obtain ⟨final, reached, same⟩ := Option.map_eq_some_iff.mp computed
    obtain ⟨requests, threads⟩ := Prod.mk.inj same
    refine ⟨final, reached, requests, ?_⟩
    rw [threads]
    decide
  · have computed : (run emptyHandler ∅ [.deviceDiscovered 1, .deviceDiscovered 1, sampleMessage]
        ([0, 1, 0, 0, 2, 2, 2, 2, 2].map fun index => (index, unclaimed))).map
        (fun final => (final.shared.leaveRequests, final.threads[1]?)) =
          some ([1], some (.deviceDiscovered 1 .claim)) := by decide +kernel
    obtain ⟨final, reached, same⟩ := Option.map_eq_some_iff.mp computed
    exact ⟨final, reached, Prod.mk.inj same⟩

end Sample

end Barton.ZigbeeDiscovery
