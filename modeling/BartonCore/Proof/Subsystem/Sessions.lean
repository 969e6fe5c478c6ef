import BartonCore.Construction.Subsystem.Sessions

namespace Barton.Sessions
open Subsystem Threads

/-- The call of `subsystemManagerAllDriversStarted` has passed its NULL check and has not set the flag. -/
def Call.startsDrivers : Call → Bool
  | .party .notifyAllDriversStarted => true
  | .party .startDrivers => true
  | _ => false

/-- The call is about to invoke the callback. -/
def Call.decided : Call → Bool
  | .party .callback => true
  | _ => false

/-- A call before its first critical section. -/
def Call.starting : Call → Bool
  | .party .allDriversStarted => true
  | .party (.onSubsystemInitialized _) => true
  | .onSubsystemDeinitialized _ => true
  | .subsystemManagerInitialize _ _ => true
  | .shutdown => true
  | .isReadyForDevices => true
  | _ => false

/-- A table becomes global only while the drivers were started in no earlier session. -/
def unstarted (current : Configuration Process Call) (input : Nat × Unit) : Bool :=
  match current.threads[input.1]? with
  | some (.publish _ _) =>
      !current.shared.manager.allDriversStarted && current.threads.all fun call => !call.startsDrivers
  | _ => true

/-- What a move other than the publication of a table can do. -/
structure Moves (process : Process) (call : Call) (next : Process) (moved : Call) : Prop where
  called : process.called = true → next.called = true
  kept : process.manager.allDriversStarted = true → next.manager.allDriversStarted = true
  started : next.manager.allDriversStarted = true →
    process.manager.allDriversStarted = true ∨ call.startsDrivers = true
  startsDrivers : moved.startsDrivers = true → call.startsDrivers = true ∨ next.called = true
  decided : moved.decided = true → process.manager.allDriversStarted = true
  observed : ∀ observation ∈ next.observations, observation ∈ process.observations ∨
    (observation.called = process.called ∧
      (process.manager.allDriversStarted = true ∨ call.decided = true))

section Moves
variable {process next : Process} {call moved : Call}

/-- A move that keeps the flags and the observations. -/
theorem Moves.quiet (called : next.called = process.called)
    (started : next.manager.allDriversStarted = process.manager.allDriversStarted)
    (startsDrivers : moved.startsDrivers = true → call.startsDrivers = true)
    (decided : moved.decided = false) (observations : next.observations = process.observations) :
    Moves process call next moved where
  called := by rw [called]; exact id
  kept := by rw [started]; exact id
  started := by rw [started]; exact Or.inl
  startsDrivers starts := Or.inl (startsDrivers starts)
  decided decides := by rw [decided] at decides; contradiction
  observed observation member := by
    rw [observations] at member
    exact Or.inl member

/-- A test that finds every flag set is observed. -/
theorem observed_of_append {happened : Bool} {new : Observation}
    (own : new.called = process.called)
    (known : happened = true → process.manager.allDriversStarted = true ∨ call.decided = true) :
    ∀ observation ∈ (if happened then process.observations ++ [new] else process.observations),
      observation ∈ process.observations ∨ (observation.called = process.called ∧
        (process.manager.allDriversStarted = true ∨ call.decided = true)) := by
  intro observation member
  cases happened with
  | false => exact Or.inl member
  | true =>
      rcases List.mem_append.mp member with old | fresh
      · exact Or.inl old
      · rw [List.mem_singleton.mp fresh]
        exact Or.inr ⟨own, known rfl⟩

theorem setSubsystemReadyLocked_allDriversStarted (manager : Manager) (subsystem : Option String)
    (isReady : Bool) : (setSubsystemReadyLocked manager subsystem isReady).allDriversStarted =
      manager.allDriversStarted := by
  unfold setSubsystemReadyLocked
  split
  · rfl
  · split
    · rfl
    · rfl

theorem moveParty_moves {party : Party} (taken : moveParty process party = some (next, moved)) :
    Moves process (.party party) next moved := by
  cases party with
  | onSubsystemInitialized subsystem =>
      cases taken
      exact .quiet rfl (setSubsystemReadyLocked_allDriversStarted _ _ _) nofun rfl rfl
  | allDriversStarted =>
      rw [moveParty] at taken
      split at taken
      · cases taken
        exact ⟨fun _ => rfl, id, Or.inl, fun _ => Or.inr rfl, nofun, fun _ => Or.inl⟩
      · cases taken
        exact .quiet rfl rfl nofun rfl rfl
  | notifyAllDriversStarted =>
      cases taken
      exact .quiet rfl rfl (fun _ => rfl) rfl rfl
  | startDrivers =>
      obtain ⟨⟨manager, after⟩, started, same⟩ := Option.map_eq_some_iff.mp taken
      cases same
      rw [Subsystem.move] at started
      split at started
      · cases started
        exact ⟨id, fun _ => rfl, fun _ => Or.inr rfl, nofun, nofun, fun _ => Or.inl⟩
      · contradiction
  | published =>
      rw [moveParty] at taken
      split at taken
      · cases taken
        exact .quiet rfl rfl nofun rfl rfl
      · cases taken
        exact .quiet rfl rfl nofun rfl rfl
  | isReadyForDevices remaining =>
      cases remaining with
      | nil =>
          cases taken
          refine ⟨id, id, Or.inl, ?_, ?_, observed_of_append rfl Or.inl⟩
          · intro starts
            dsimp only at starts
            split at starts
            · contradiction
            · contradiction
          · intro decides
            dsimp only at decides
            split at decides
            · assumption
            · contradiction
      | cons name rest =>
          obtain ⟨⟨manager, after⟩, tested, same⟩ := Option.map_eq_some_iff.mp taken
          cases same
          rw [Subsystem.move] at tested
          split at tested
          · cases tested
            exact .quiet rfl rfl nofun rfl rfl
          · cases tested
            exact .quiet rfl rfl nofun rfl rfl
  | callback =>
      cases taken
      have same : (readyForDevices process.manager).allDriversStarted =
          process.manager.allDriversStarted := by
        unfold readyForDevices
        split
        · rfl
        · rfl
      refine ⟨id, ?_, ?_, nofun, nofun, observed_of_append rfl fun _ => Or.inr rfl⟩
      · exact fun set => same.trans set
      · exact fun set => Or.inl (same.symm.trans set)
  | returned => contradiction

/-- A move publishes a table, or it keeps the facts of the session. -/
theorem move_cases (taken : move process call () = some (next, moved)) :
    (∃ subsystems readyForDevicesCB, call = .publish subsystems readyForDevicesCB ∧
      next = publish process subsystems readyForDevicesCB ∧ moved = .initializeSubsystems) ∨
    Moves process call next moved := by
  cases call with
  | party party => exact Or.inr (moveParty_moves taken)
  | onSubsystemDeinitialized subsystem =>
      cases taken
      exact Or.inr (.quiet rfl (setSubsystemReadyLocked_allDriversStarted _ _ _) nofun rfl rfl)
  | subsystemManagerInitialize subsystems readyForDevicesCB =>
      right
      rw [move] at taken
      split at taken
      · split at taken
        · cases taken
          exact .quiet rfl rfl nofun rfl rfl
        · cases taken
          exact .quiet rfl rfl nofun rfl rfl
      · contradiction
  | publish subsystems readyForDevicesCB =>
      left
      rw [move] at taken
      split at taken
      · cases taken
        exact ⟨subsystems, readyForDevicesCB, rfl, rfl, rfl⟩
      · contradiction
  | initializeSubsystems | isReadyForDevices =>
      right
      rw [move] at taken
      split at taken
      · cases taken
        exact .quiet rfl rfl nofun rfl rfl
      · cases taken
        exact .quiet rfl rfl nofun rfl rfl
  | initializeSubsystem remaining =>
      right
      cases remaining with
      | nil =>
          cases taken
          exact .quiet rfl rfl nofun rfl rfl
      | cons name rest =>
          cases taken
          exact .quiet rfl (setSubsystemReadyLocked_allDriversStarted _ _ _) nofun rfl rfl
  | shutdown =>
      right
      rw [move] at taken
      split at taken
      · cases taken
        unfold subsystemManagerShutdown
        split
        · exact .quiet rfl rfl nofun rfl rfl
        · exact .quiet rfl rfl nofun rfl rfl
      · contradiction
  | testSubsystems remaining =>
      right
      cases remaining with
      | nil =>
          cases taken
          exact ⟨id, id, Or.inl, nofun, nofun, observed_of_append rfl Or.inl⟩
      | cons name rest =>
          rw [move] at taken
          split at taken
          · cases taken
            exact .quiet rfl rfl nofun rfl rfl
          · cases taken
            exact .quiet rfl rfl nofun rfl rfl
  | returned => contradiction

end Moves

/-- The drivers are started only by a call of this session. -/
structure Separate (current : Configuration Process Call) : Prop where
  started : current.shared.manager.allDriversStarted = true → current.shared.called = true
  starting : ∀ call ∈ current.threads, call.startsDrivers = true → current.shared.called = true
  decided : ∀ call ∈ current.threads, call.decided = true →
    current.shared.manager.allDriversStarted = true
  observed : ∀ observation ∈ current.shared.observations, observation.called = true

theorem Separate.step {current next : Configuration Process Call} {input : Nat × Unit}
    (separate : Separate current) (allowed : unstarted current input = true)
    (stepped : Threads.step move current input = some next) : Separate next := by
  obtain ⟨before, call, after, shared, moved, split, position, taken, rfl⟩ := Threads.step_split stepped
  have member : call ∈ current.threads := by simp [split]
  have others {other : Call} (inside : other ∈ before ++ moved :: after) :
      other = moved ∨ other ∈ current.threads := by
    rw [List.mem_append, List.mem_cons] at inside
    rw [split, List.mem_append, List.mem_cons]
    tauto
  rcases move_cases taken with ⟨subsystems, readyForDevicesCB, rfl, rfl, rfl⟩ | moves
  · have reads : current.threads[input.1]? = some (.publish subsystems readyForDevicesCB) := by
      rw [split, ← position]
      simp
    rw [unstarted, reads, Bool.and_eq_true, Bool.not_eq_true', List.all_eq_true] at allowed
    obtain ⟨clear, idle⟩ := allowed
    have stays : (publish current.shared subsystems readyForDevicesCB).manager.allDriversStarted =
        false := clear
    refine ⟨?_, ?_, ?_, separate.observed⟩
    · intro set
      rw [stays] at set
      contradiction
    · intro other inside starts
      rcases others inside with rfl | old
      · contradiction
      · have quiet := idle other old
        rw [starts] at quiet
        contradiction
    · intro other inside decides
      rcases others inside with rfl | old
      · contradiction
      · have set := separate.decided other old decides
        rw [clear] at set
        contradiction
  · have known : current.shared.manager.allDriversStarted = true ∨ call.decided = true →
        current.shared.called = true := by
      rintro (set | decides)
      · exact separate.started set
      · exact separate.started (separate.decided call member decides)
    refine ⟨?_, ?_, ?_, ?_⟩
    · intro set
      rcases moves.started set with old | starts
      · exact moves.called (separate.started old)
      · exact moves.called (separate.starting call member starts)
    · intro other inside starts
      rcases others inside with rfl | old
      · rcases moves.startsDrivers starts with earlier | now
        · exact moves.called (separate.starting call member earlier)
        · exact now
      · exact moves.called (separate.starting other old starts)
    · intro other inside decides
      rcases others inside with rfl | old
      · exact moves.kept (moves.decided decides)
      · exact moves.kept (separate.decided other old decides)
    · intro observation inside
      rcases moves.observed observation inside with old | ⟨own, cause⟩
      · exact separate.observed observation old
      · exact own.trans (known cause)

theorem Separate.initial {calls : List Call} (starting : ∀ call ∈ calls, call.starting = true) :
    Separate ⟨.initial, calls⟩ := by
  refine ⟨nofun, ?_, ?_, nofun⟩
  · intro call member starts
    have first := starting call member
    unfold Call.startsDrivers at starts
    split at starts
    · contradiction
    · contradiction
    · contradiction
  · intro call member decides
    have first := starting call member
    unfold Call.decided at decides
    split at decides
    · contradiction
    · contradiction

/-- In every run of any number of sessions where a session starts only before the drivers were ever started, the
readiness is observed only after the drivers were started in the same session. -/
theorem run_readyInSession {calls : List Call} {schedule : List Nat}
    {final : Configuration Process Call} (starting : ∀ call ∈ calls, call.starting = true)
    (allowed : Runs.Guarded (Threads.step move) (fun current input => unstarted current input = true)
      ⟨.initial, calls⟩ (schedule.map fun thread => (thread, ())))
    (reached : run ⟨.initial, calls⟩ schedule = some final) :
    ∀ observation ∈ final.shared.observations, observation.called = true :=
  (allowed.invariant _ Separate (fun _ _ _ separate => separate.step) (.initial starting) reached).observed

/-- Two sessions of one subsystem and one start of the drivers. -/
def twoSessions : List Call :=
  [.subsystemManagerInitialize ["zigbee"] true, .party (.onSubsystemInitialized (some "zigbee")), .shutdown,
    .subsystemManagerInitialize ["zigbee"] true, .party (.onSubsystemInitialized (some "zigbee")),
    .party .allDriversStarted]

/-- The first session ends before the drivers are started, and the second one becomes ready. -/
theorem run_readyInSession_restarted :
    ∃ final, run ⟨.initial, twoSessions⟩
        [0, 0, 0, 0, 0, 1, 1, 1, 1, 2, 3, 3, 3, 3, 3, 4, 4, 4, 4, 5, 5, 5, 5, 5, 5, 5] = some final ∧
      final.shared.observations = [.ready true, .invoked true] ∧
      ∀ observation ∈ final.shared.observations, observation.called = true := by
  have computed : (run ⟨.initial, twoSessions⟩
        [0, 0, 0, 0, 0, 1, 1, 1, 1, 2, 3, 3, 3, 3, 3, 4, 4, 4, 4, 5, 5, 5, 5, 5, 5, 5]).map
      (fun final => final.shared.observations) = some [.ready true, .invoked true] := by decide +kernel
  obtain ⟨final, reached, observations⟩ := Option.map_eq_some_iff.mp computed
  exact ⟨final, reached, observations,
    run_readyInSession (by decide) (by decide +kernel) reached⟩

/-- The drivers are started in the first session only, and the second session counts as ready. -/
theorem not_run_readyInSession :
    ∃ final, run ⟨.initial, twoSessions⟩
        [0, 0, 0, 0, 0, 5, 5, 5, 5, 5, 1, 1, 1, 1, 1, 2, 3, 3, 3, 3, 3, 4, 4, 4, 4, 4] = some final ∧
      .ready false ∈ final.shared.observations ∧ .invoked false ∈ final.shared.observations := by
  have computed : (run ⟨.initial, twoSessions⟩
        [0, 0, 0, 0, 0, 5, 5, 5, 5, 5, 1, 1, 1, 1, 1, 2, 3, 3, 3, 3, 3, 4, 4, 4, 4, 4]).map
      (fun final => final.shared.observations) =
        some [.ready true, .invoked true, .ready false, .invoked false] := by decide +kernel
  obtain ⟨final, reached, observations⟩ := Option.map_eq_some_iff.mp computed
  refine ⟨final, reached, ?_, ?_⟩
  · rw [observations]
    decide
  · rw [observations]
    decide

end Barton.Sessions
