import BartonCore.Construction.Subsystem.Manager

namespace Barton.Subsystem
open Threads

variable {manager next : Manager} {party moved : Party}

/-- Every subsystem is ready, and the drivers are started. -/
def Manager.complete (manager : Manager) : Prop :=
  (∀ name ∈ manager.subsystems, manager.ready name = true) ∧ manager.allDriversStarted = true

/-- The flags of the second state include those of the first. -/
structure Grows (first second : Manager) : Prop where
  subsystems : second.subsystems = first.subsystems
  ready : ∀ name, first.ready name = true → second.ready name = true
  allDriversStarted : first.allDriversStarted = true → second.allDriversStarted = true
  readyForDevicesCB : second.readyForDevicesCB = first.readyForDevicesCB
  invocations : first.invocations <+: second.invocations

theorem Grows.of_flags {first second : Manager} (subsystems : second.subsystems = first.subsystems)
    (ready : second.ready = first.ready)
    (allDriversStarted : first.allDriversStarted = true → second.allDriversStarted = true)
    (readyForDevicesCB : second.readyForDevicesCB = first.readyForDevicesCB)
    (invocations : first.invocations <+: second.invocations) : Grows first second :=
  ⟨subsystems, fun _ set => by rw [ready]; exact set, allDriversStarted, readyForDevicesCB, invocations⟩

theorem setSubsystemReadyLocked_grows (manager : Manager) (subsystem : Option String) :
    Grows manager (setSubsystemReadyLocked manager subsystem true) := by
  cases subsystem with
  | none => exact .of_flags rfl rfl id rfl (List.prefix_refl _)
  | some name =>
      unfold setSubsystemReadyLocked
      by_cases known : name ∈ manager.subsystems
      · simp only [if_pos known]
        refine ⟨rfl, ?_, id, rfl, List.prefix_refl _⟩
        intro other set
        change Function.update manager.ready name true other = true
        by_cases same : other = name
        · rw [same, Function.update_self]
        · rw [Function.update_of_ne same]
          exact set
      · simp only [if_neg known]
        exact .of_flags rfl rfl id rfl (List.prefix_refl _)

theorem readyForDevices_grows (manager : Manager) : Grows manager (readyForDevices manager) := by
  unfold readyForDevices
  split
  · exact .of_flags rfl rfl id rfl (List.prefix_append _ _)
  · exact .of_flags rfl rfl id rfl (List.prefix_refl _)

/-- No move takes a flag or an invocation back. -/
theorem move_grows (taken : move manager party () = some (next, moved)) : Grows manager next := by
  cases party with
  | onSubsystemInitialized subsystem =>
      cases taken
      exact setSubsystemReadyLocked_grows manager subsystem
  | startDrivers =>
      rw [move] at taken
      split at taken
      · cases taken
        exact .of_flags rfl rfl (fun _ => rfl) rfl (List.prefix_refl _)
      · contradiction
  | isReadyForDevices remaining =>
      cases remaining with
      | nil =>
          cases taken
          exact .of_flags rfl rfl id rfl (List.prefix_refl _)
      | cons name rest =>
          rw [move] at taken
          split at taken
          · cases taken
            exact .of_flags rfl rfl id rfl (List.prefix_refl _)
          · cases taken
            exact .of_flags rfl rfl id rfl (List.prefix_refl _)
  | callback =>
      cases taken
      exact readyForDevices_grows manager
  | returned => contradiction
  | _ =>
      cases taken
      exact .of_flags rfl rfl id rfl (List.prefix_refl _)

/-- What a call knows about the flags at its point. -/
def Party.Knows (manager : Manager) : Party → Prop
  | .isReadyForDevices remaining => remaining ⊆ manager.subsystems ∧
      ∀ name ∈ manager.subsystems, name ∉ remaining → manager.ready name = true
  | .callback => manager.complete
  | _ => True

theorem Party.Knows.grows {first second : Manager} {party : Party} (knows : party.Knows first)
    (grows : Grows first second) : party.Knows second := by
  cases party with
  | isReadyForDevices remaining =>
      refine ⟨grows.subsystems ▸ knows.1, ?_⟩
      intro name member absent
      rw [grows.subsystems] at member
      exact grows.ready name (knows.2 name member absent)
  | callback =>
      refine ⟨?_, grows.allDriversStarted knows.2⟩
      intro name member
      rw [grows.subsystems] at member
      exact grows.ready name (knows.1 name member)
  | _ => trivial

/-- Every invocation saw every flag. -/
def Manager.truthful (manager : Manager) : Prop :=
  ∀ invocation ∈ manager.invocations, invocation = (true, true)

theorem move_truthful (truthful : manager.truthful)
    (knows : party.Knows manager) (taken : move manager party () = some (next, moved)) :
    next.truthful ∧ moved.Knows next := by
  cases party with
  | onSubsystemInitialized subsystem =>
      cases taken
      refine ⟨?_, trivial⟩
      unfold setSubsystemReadyLocked
      split
      · exact truthful
      · split
        · exact truthful
        · exact truthful
  | startDrivers =>
      rw [move] at taken
      split at taken
      · cases taken
        exact ⟨truthful, trivial⟩
      · contradiction
  | published =>
      cases taken
      exact ⟨truthful, List.Subset.refl _, fun name member absent => absurd member absent⟩
  | isReadyForDevices remaining =>
      cases remaining with
      | nil =>
          by_cases started : manager.allDriversStarted = true
          · rw [move, if_pos started] at taken
            cases taken
            exact ⟨truthful, fun name member => knows.2 name member List.not_mem_nil, started⟩
          · rw [move, if_neg started] at taken
            cases taken
            exact ⟨truthful, trivial⟩
      | cons name rest =>
          rw [move] at taken
          split at taken
          · rename_i set
            cases taken
            refine ⟨truthful, List.subset_of_cons_subset knows.1, ?_⟩
            intro other member absent
            by_cases same : other = name
            · rw [same]
              exact set
            · exact knows.2 other member (by simp [same, absent])
          · cases taken
            exact ⟨truthful, trivial⟩
  | callback =>
      cases taken
      refine ⟨?_, trivial⟩
      unfold readyForDevices
      split
      · intro invocation member
        rcases List.mem_append.mp member with old | new
        · exact truthful invocation old
        · rw [List.mem_singleton.mp new, List.all_eq_true.mpr knows.1, knows.2]
      · exact truthful
  | returned => contradiction
  | _ =>
      cases taken
      exact ⟨truthful, trivial⟩

/-- The own flag is set, and the test is not finished. -/
def Party.tests : Party → Bool
  | .published => true
  | .isReadyForDevices _ => true
  | .callback => true
  | _ => false

/-- The call has not yet set the flag of the drivers. -/
def Party.startsDrivers : Party → Bool
  | .allDriversStarted => true
  | .notifyAllDriversStarted => true
  | .startDrivers => true
  | _ => false

/-- The last call that sets a flag finds every other flag set. -/
structure Watched (current : Configuration Manager Party) : Prop where
  unpublished : ∀ name ∈ current.shared.subsystems, current.shared.ready name = true ∨
    .onSubsystemInitialized (some name) ∈ current.threads
  unstarted : current.shared.allDriversStarted = true ∨
    ∃ party ∈ current.threads, party.startsDrivers = true
  tested : current.shared.complete → current.shared.invocations ≠ [] ∨
    ∃ party ∈ current.threads, party.tests = true

theorem setSubsystemReadyLocked_ready {manager : Manager} {name : String} (known : name ∈ manager.subsystems) :
    (setSubsystemReadyLocked manager (some name) true).ready name = true := by
  unfold setSubsystemReadyLocked
  simp only [if_pos known]
  exact Function.update_self name true manager.ready

/-- A call that starts the drivers still has to, or it has done so. -/
theorem move_startsDrivers
    (starts : party.startsDrivers = true) (taken : move manager party () = some (next, moved)) :
    next.allDriversStarted = true ∨ moved.startsDrivers = true := by
  cases party with
  | allDriversStarted | notifyAllDriversStarted =>
      cases taken
      exact .inr rfl
  | startDrivers =>
      rw [move] at taken
      split at taken
      · cases taken
        exact .inl rfl
      · contradiction
  | _ => contradiction

/-- A call that tests a complete state goes on until it has invoked the callback. -/
theorem move_tests (complete : manager.complete)
    (set : manager.readyForDevicesCB = true) (knows : party.Knows manager)
    (tests : party.tests = true) (taken : move manager party () = some (next, moved)) :
    next.invocations ≠ [] ∨ moved.tests = true := by
  cases party with
  | published =>
      cases taken
      exact .inr rfl
  | isReadyForDevices remaining =>
      cases remaining with
      | nil =>
          rw [move, if_pos complete.2] at taken
          cases taken
          exact .inr rfl
      | cons name rest =>
          rw [move, if_pos (complete.1 name (knows.1 List.mem_cons_self))] at taken
          cases taken
          exact .inr rfl
  | callback =>
      cases taken
      left
      unfold readyForDevices
      rw [if_pos set]
      simp
  | _ => contradiction

/-- The move that completes the flags is followed by a test. -/
theorem move_completes (before : ¬manager.complete)
    (after : next.complete) (taken : move manager party () = some (next, moved)) :
    moved.tests = true := by
  cases party with
  | onSubsystemInitialized subsystem =>
      cases taken
      rfl
  | startDrivers =>
      rw [move] at taken
      split at taken
      · cases taken
        rfl
      · contradiction
  | isReadyForDevices remaining =>
      cases remaining with
      | nil =>
          cases taken
          exact absurd after before
      | cons name rest =>
          rw [move] at taken
          split at taken
          · cases taken
            exact absurd after before
          · cases taken
            exact absurd after before
  | callback =>
      cases taken
      unfold readyForDevices at after
      split at after
      · exact absurd after before
      · exact absurd after before
  | returned => contradiction
  | _ =>
      cases taken
      exact absurd after before

/-- The facts that hold in every reachable state. -/
structure Kept (current : Configuration Manager Party) : Prop where
  known : current.shared.truthful ∧ ∀ party ∈ current.threads, party.Knows current.shared
  watched : Watched current
  set : current.shared.readyForDevicesCB = true

theorem Kept.step {current next : Configuration Manager Party} {input : Nat × Unit} (kept : Kept current)
    (stepped : Threads.step move current input = some next) : Kept next := by
  have known := Threads.step_forall
    (fun _ _ _ _ _ truthful knows taken => move_truthful truthful knows taken)
    (fun _ _ _ _ _ _ _ _ other taken => other.grows (move_grows taken)) kept.known stepped
  obtain ⟨before, party, after, shared, moved, split, _, taken, rfl⟩ := Threads.step_split stepped
  have grows := move_grows taken
  have member : party ∈ current.threads := by simp [split]
  have keeps {other : Party} (old : other ∈ current.threads) :
      other = party ∨ other ∈ before ++ moved :: after := by
    rw [split, List.mem_append, List.mem_cons] at old
    rw [List.mem_append, List.mem_cons]
    tauto
  refine ⟨known, ⟨?_, ?_, ?_⟩, grows.readyForDevicesCB.trans kept.set⟩
  · intro name inside
    change name ∈ shared.subsystems at inside
    rw [grows.subsystems] at inside
    rcases kept.watched.unpublished name inside with ready | waiting
    · exact .inl (grows.ready name ready)
    · rcases keeps waiting with rfl | stays
      · cases taken
        exact .inl (setSubsystemReadyLocked_ready inside)
      · exact .inr stays
  · rcases kept.watched.unstarted with started | ⟨other, old, starts⟩
    · exact .inl (grows.allDriversStarted started)
    · rcases keeps old with rfl | stays
      · rcases move_startsDrivers starts taken with done | still
        · exact .inl done
        · exact .inr ⟨moved, by simp, still⟩
      · exact .inr ⟨other, stays, starts⟩
  · intro complete
    by_cases earlier : current.shared.complete
    · rcases kept.watched.tested earlier with invoked | ⟨other, old, tests⟩
      · left
        intro none
        have shorter := grows.invocations
        rw [none, List.prefix_nil] at shorter
        exact invoked shorter
      · rcases keeps old with rfl | stays
        · rcases move_tests earlier kept.set (kept.known.2 other member) tests taken with done | still
          · exact .inl done
          · exact .inr ⟨moved, by simp, still⟩
        · exact .inr ⟨other, stays, tests⟩
    · exact .inr ⟨moved, by simp, move_completes earlier complete taken⟩

/-- A call before its first critical section. -/
def Party.starting : Party → Bool
  | .onSubsystemInitialized _ => true
  | .allDriversStarted => true
  | _ => false

theorem Kept.initial {subsystems : List String} {parties : List Party}
    (starting : ∀ party ∈ parties, party.starting = true)
    (notified : ∀ name ∈ subsystems, .onSubsystemInitialized (some name) ∈ parties)
    (started : .allDriversStarted ∈ parties) : Kept ⟨.initial subsystems true, parties⟩ := by
  refine ⟨⟨fun _ member => absurd member List.not_mem_nil, ?_⟩, ⟨?_, ?_, ?_⟩, rfl⟩
  · intro party member
    have early := starting party member
    cases party with
    | isReadyForDevices | callback => contradiction
    | _ => trivial
  · intro name member
    exact .inr (notified name member)
  · exact .inr ⟨_, started, rfl⟩
  · intro complete
    exact absurd complete.2 Bool.false_ne_true

/-- In the first session, every interleaving of the calls invokes the callback at least once, and every
invocation happens when all subsystems are ready and all drivers are started. -/
theorem run_readyForDevices {subsystems : List String} {parties : List Party} {schedule : List Nat}
    {final : Configuration Manager Party} (starting : ∀ party ∈ parties, party.starting = true)
    (notified : ∀ name ∈ subsystems, .onSubsystemInitialized (some name) ∈ parties)
    (started : .allDriversStarted ∈ parties)
    (reached : run ⟨.initial subsystems true, parties⟩ schedule = some final) :
    ((∀ party ∈ final.threads, party = .returned) → final.shared.invocations ≠ []) ∧
      ∀ invocation ∈ final.shared.invocations, invocation = (true, true) := by
  have kept : Kept final := Runs.invariant _ Kept (fun _ _ _ => Kept.step)
    (Kept.initial starting notified started) reached
  refine ⟨?_, kept.known.1⟩
  intro returned
  have complete : final.shared.complete := by
    constructor
    · intro name member
      rcases kept.watched.unpublished name member with ready | waiting
      · exact ready
      · exact absurd (returned _ waiting) (by simp)
    · rcases kept.watched.unstarted with done | ⟨party, member, starts⟩
      · exact done
      · rw [returned party member] at starts
        contradiction
  rcases kept.watched.tested complete with invoked | ⟨party, member, tests⟩
  · exact invoked
  · rw [returned party member] at tests
    contradiction

/-- Two subsystems and the drivers become ready in an interleaving where the first test fails. -/
theorem run_readyForDevices_interleaved :
    ∃ final, run ⟨.initial ["matter", "zigbee"] true,
        [.onSubsystemInitialized (some "matter"), .allDriversStarted,
          .onSubsystemInitialized (some "zigbee")]⟩
        [0, 1, 0, 0, 2, 0, 0, 1, 1, 2, 2, 2, 2, 1, 1, 1, 1, 2, 1] = some final ∧
      (∀ party ∈ final.threads, party = .returned) ∧ final.shared.invocations ≠ [] := by
  have computed : (run ⟨.initial ["matter", "zigbee"] true,
        [.onSubsystemInitialized (some "matter"), .allDriversStarted,
          .onSubsystemInitialized (some "zigbee")]⟩
        [0, 1, 0, 0, 2, 0, 0, 1, 1, 2, 2, 2, 2, 1, 1, 1, 1, 2, 1]).map
      (fun final => decide (∀ party ∈ final.threads, party = .returned)) = some true := by decide +kernel
  obtain ⟨final, reached, all⟩ := Option.map_eq_some_iff.mp computed
  have returned := of_decide_eq_true all
  exact ⟨final, reached, returned, (run_readyForDevices (by decide) (by decide) (by decide) reached).1
    returned⟩

end Barton.Subsystem
