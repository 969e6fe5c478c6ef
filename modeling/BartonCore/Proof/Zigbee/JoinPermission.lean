import BartonCore.Construction.Zigbee.Discovery

namespace Barton.ZigbeeDiscovery
open Threads

section Shares

/-- The start has raised the count from zero, and it has neither returned nor rolled back. -/
def Thread.raising : Thread → ℤ
  | .start .discoveryRunning => 1
  | .start .createCommands => 1
  | .start .enableJoin => 1
  | .start .rollBack => 1
  | _ => 0

/-- A start that returned 0 pays for one stop. -/
def Thread.credit : Thread → ℤ
  | .startReturned true => 1
  | .stop .created => 0
  | .stop _ => -1
  | .stopReturned => -1
  | _ => 0

/-- The thread is inside a start or a stop. -/
def Thread.inCall : Thread → Bool
  | .start point => point ≠ .created
  | .stop point => point ≠ .created
  | _ => false

def creditOf (threads : List Thread) : ℤ := (threads.map Thread.credit).sum

def raisingOf (threads : List Thread) : ℤ := (threads.map Thread.raising).sum

theorem raising_nonneg (thread : Thread) : 0 ≤ thread.raising := by
  unfold Thread.raising
  split <;> omega

/-- Outside the calls the credit is the number of successful starts less the number of stops. -/
theorem creditOf_returned (threads : List Thread) (returned : ∀ thread ∈ threads, thread.inCall = false) :
    creditOf threads = (threads.count (.startReturned true) : ℤ) - threads.count .stopReturned := by
  induction threads with
  | nil => rfl
  | cons thread rest ih =>
      have tail := ih fun other member => returned other (List.mem_cons_of_mem _ member)
      have own := returned thread List.mem_cons_self
      have share : thread.credit =
          (if thread = .startReturned true then 1 else 0) - (if thread = .stopReturned then 1 else 0) := by
        cases thread with
        | stop point => cases point <;> first | rfl | cases own
        | startReturned succeeded => cases succeeded <;> rfl
        | _ => rfl
      show thread.credit + creditOf rest = _
      rw [tail, share, List.count_cons, List.count_cons]
      simp only [beq_iff_eq]
      split <;> split <;> push_cast <;> omega

theorem raisingOf_returned (threads : List Thread) (returned : ∀ thread ∈ threads, thread.inCall = false) :
    raisingOf threads = 0 := by
  apply List.sum_eq_zero
  intro share member
  obtain ⟨thread, inside, rfl⟩ := List.mem_map.mp member
  have outside := returned thread inside
  cases thread with
  | start point => cases point <;> first | rfl | cases outside
  | _ => rfl

end Shares

section Guards
variable (current : Configuration Shared Thread) (input : Nat × Answers)

/-- A stop follows a start that returned 0 and was not stopped. -/
def follows : Bool :=
  match current.threads[input.1]? with
  | some (.stop .created) => 0 < creditOf current.threads
  | _ => true

/-- A failed start rolls back while nothing else is counted. A stop disables joining while the count is zero or a start
has not enabled joining yet. -/
def inStep : Bool :=
  match current.threads[input.1]? with
  | some (.start .rollBack) => current.shared.discoveringRefCount = 1
  | some (.stop .disableJoin) =>
      current.shared.discoveringRefCount = 0 ∨ ∃ thread ∈ current.threads, thread.raising = 1
  | _ => true

end Guards

section Moves

/-- What a move does to the count and to the permission. -/
inductive JoinMoves : ℤ → Bool → Thread → ℤ → Bool → Thread → Prop where
  | quiet {count : ℤ} {enabled : Bool} {thread moved : Thread} (raising : moved.raising = thread.raising)
      (credit : moved.credit = thread.credit) (before : thread ≠ .stop .disableJoin)
      (after : moved ≠ .stop .disableJoin) : JoinMoves count enabled thread count enabled moved
  | raise {enabled : Bool} : JoinMoves 0 enabled (.start .created) 1 enabled (.start .discoveryRunning)
  | share {count : ℤ} {enabled : Bool} (counted : count ≠ 0) :
      JoinMoves count enabled (.start .created) (count + 1) enabled (.startReturned true)
  | enable {count : ℤ} {enabled : Bool} :
      JoinMoves count enabled (.start .enableJoin) count true (.startReturned true)
  | rollBack {count : ℤ} {enabled : Bool} :
      JoinMoves count enabled (.start .rollBack) (count - 1) enabled (.start .destroyProcessed)
  | stop {count : ℤ} {enabled : Bool} : JoinMoves count enabled (.stop .created) (count - 1) enabled
      (if count - 1 = 0 then .stop .disableJoin else .stopReturned)
  | disable {count : ℤ} {enabled : Bool} :
      JoinMoves count enabled (.stop .disableJoin) count false (.stop .requestLeave)

@[simp] theorem useCommands_discoveringRefCount (shared : Shared) (map : CommandMap) (entry : Section) :
    (shared.useCommands map entry).discoveringRefCount = shared.discoveringRefCount := by
  unfold Shared.useCommands
  split <;> rfl

@[simp] theorem useCommands_joinEnabled (shared : Shared) (map : CommandMap) (entry : Section) :
    (shared.useCommands map entry).joinEnabled = shared.joinEnabled := by
  unfold Shared.useCommands
  split <;> rfl

@[simp] theorem destroyCommands_discoveringRefCount (shared : Shared) (pointer : CommandMap) :
    (shared.destroyCommands pointer).discoveringRefCount = shared.discoveringRefCount := by
  unfold Shared.destroyCommands
  split <;> rfl

@[simp] theorem destroyCommands_joinEnabled (shared : Shared) (pointer : CommandMap) :
    (shared.destroyCommands pointer).joinEnabled = shared.joinEnabled := by
  unfold Shared.destroyCommands
  split <;> rfl

variable {shared next : Shared} {thread moved : Thread} {answers : Answers}

theorem moved_eq {made : Shared × Thread} (taken : some made = some (next, moved)) :
    next = made.1 ∧ moved = made.2 := by
  cases taken
  exact ⟨rfl, rfl⟩

theorem moveStart_joinMoves (point : StartPoint) :
    JoinMoves shared.discoveringRefCount shared.joinEnabled (.start point)
      (moveStart shared point answers).1.discoveringRefCount (moveStart shared point answers).1.joinEnabled
      (moveStart shared point answers).2 := by
  cases point with
  | created =>
      unfold moveStart
      dsimp only
      by_cases zero : shared.discoveringRefCount = 0
      · rw [if_pos zero]
        simp only [destroyCommands_discoveringRefCount, destroyCommands_joinEnabled, zero]
        exact .raise
      · rw [if_neg zero]
        exact .share zero
  | enableJoin =>
      cases answer : answers.enabled with
      | true =>
          simp only [moveStart, answer]
          exact .enable
      | false =>
          simp only [moveStart, answer]
          exact .quiet rfl rfl nofun nofun
  | rollBack => exact .rollBack
  | destroyCommands =>
      simp only [moveStart, destroyCommands_discoveringRefCount, destroyCommands_joinEnabled]
      exact .quiet rfl rfl nofun nofun
  | _ => exact .quiet rfl rfl nofun nofun

/-- The moves of the other calls do not concern the count and the permission. -/
theorem move_joinMoves (taken : move shared thread answers = some (next, moved)) :
    JoinMoves shared.discoveringRefCount shared.joinEnabled thread next.discoveringRefCount next.joinEnabled
      moved := by
  cases thread with
  | start point =>
      obtain ⟨rfl, rfl⟩ := moved_eq taken
      exact moveStart_joinMoves point
  | stop point =>
      obtain ⟨rfl, rfl⟩ := moved_eq taken
      cases point with
      | created => exact .stop
      | disableJoin => exact .disable
      | _ => exact .quiet rfl rfl nofun nofun
  | message callback point =>
      obtain ⟨rfl, rfl⟩ := moved_eq taken
      cases point with
      | accepted discovering =>
          have quiet : (passOn callback discovering answers).raising = 0 ∧
              (passOn callback discovering answers).credit = 0 ∧
              passOn callback discovering answers ≠ .stop .disableJoin := by
            unfold passOn
            cases callback with
            | attributeReportReceived report => exact ⟨rfl, rfl, nofun⟩
            | clusterCommandReceived command =>
                dsimp only
                split <;> exact ⟨rfl, rfl, nofun⟩
          exact .quiet quiet.1 quiet.2.1 nofun quiet.2.2
      | _ => exact .quiet rfl rfl nofun nofun
  | deviceDiscovered eui64 point =>
      obtain ⟨rfl, rfl⟩ := moved_eq taken
      cases point with
      | remove claimed => cases claimed <;> exact .quiet rfl rfl nofun nofun
      | noteUnclaimed =>
          simp only [moveDiscovered]
          split <;> exact .quiet rfl rfl nofun nofun
      | _ => exact .quiet rfl rfl nofun nofun
  | getCommand eui64 commandId timeoutSeconds =>
      cases timeoutSeconds with
      | zero =>
          obtain ⟨rfl, rfl⟩ := moved_eq taken
          exact .quiet rfl rfl nofun nofun
      | succ timeoutSeconds =>
          obtain ⟨rfl, rfl⟩ := moved_eq taken
          simp only [useCommands_discoveringRefCount, useCommands_joinEnabled]
          split <;> exact .quiet rfl rfl nofun nofun
  | addCommand _ | getCommands _ | destroyCommands _ | removeCommand _ _ =>
      obtain ⟨rfl, rfl⟩ := moved_eq taken
      simp only [useCommands_discoveringRefCount, useCommands_joinEnabled]
      exact .quiet rfl rfl nofun nofun
  | startReturned _ | stopReturned | returned => cases taken

end Moves

section Permission

/-- The count is made up of a start that is raising it and of the starts that were not stopped. -/
structure Counted (count raising credit : ℤ) : Prop where
  counted : count = raising + credit
  single : 0 ≤ raising ∧ raising ≤ 1
  paid : 0 ≤ credit

/-- The permission follows the count, up to a start that has not enabled joining and a stop that has not disabled it. -/
structure Permitted (count : ℤ) (enabled : Bool) (raising : ℤ) (disabling : Prop) : Prop where
  isEnabled : 0 < count → raising = 0 → enabled = true
  isDisabled : enabled = true → count = 0 ∨ raising = 1 → disabling

variable {count count' raising raising' credit credit' : ℤ} {enabled enabled' : Bool} {thread moved : Thread}
  {disabling disabling' others : Prop}

theorem Counted.step (counts : Counted count raising credit)
    (moves : JoinMoves count enabled thread count' enabled' moved)
    (sumRaising : raising' + thread.raising = raising + moved.raising)
    (sumCredit : credit' + thread.credit = credit + moved.credit)
    (follows : thread = .stop .created → 0 < credit) (inside : thread.raising ≤ raising) :
    Counted count' raising' credit' := by
  obtain ⟨counted, ⟨lower, upper⟩, paid⟩ := counts
  cases moves with
  | quiet sameRaising sameCredit _ _ => exact ⟨by omega, by omega, by omega⟩
  | stop =>
      have positive := follows rfl
      by_cases last : count - 1 = 0
      · rw [if_pos last] at sumRaising sumCredit
        simp only [Thread.raising, Thread.credit] at sumRaising sumCredit
        exact ⟨by omega, by omega, by omega⟩
      · rw [if_neg last] at sumRaising sumCredit
        simp only [Thread.raising, Thread.credit] at sumRaising sumCredit
        exact ⟨by omega, by omega, by omega⟩
  | _ =>
      simp only [Thread.raising, Thread.credit] at sumRaising sumCredit inside
      exact ⟨by omega, by omega, by omega⟩

theorem Permitted.step (permitted : Permitted count enabled raising disabling)
    (counts : Counted count raising credit)
    (moves : JoinMoves count enabled thread count' enabled' moved)
    (sumRaising : raising' + thread.raising = raising + moved.raising)
    (follows : thread = .stop .created → 0 < credit) (inside : thread.raising ≤ raising)
    (rollBack : thread = .start .rollBack → count = 1)
    (disable : thread = .stop .disableJoin → count = 0 ∨ raising = 1)
    (before : disabling ↔ thread = .stop .disableJoin ∨ others)
    (after : disabling' ↔ moved = .stop .disableJoin ∨ others) :
    Permitted count' enabled' raising' disabling' := by
  obtain ⟨counted, ⟨lower, upper⟩, paid⟩ := counts
  obtain ⟨isEnabled, isDisabled⟩ := permitted
  have kept (quiet : thread ≠ .stop .disableJoin) (still : moved ≠ .stop .disableJoin) : disabling' ↔ disabling := by
    rw [before, after, or_iff_right quiet, or_iff_right still]
  cases moves with
  | quiet sameRaising sameCredit first second =>
      have equalRaising : raising' = raising := by omega
      rw [equalRaising, propext (kept first second)]
      exact ⟨isEnabled, isDisabled⟩
  | raise =>
      simp only [Thread.raising] at sumRaising
      rw [propext (kept nofun nofun)]
      constructor
      · omega
      · exact fun on _ => isDisabled on (Or.inl rfl)
  | share nonzero =>
      simp only [Thread.raising] at sumRaising
      rw [propext (kept nofun nofun)]
      constructor
      · exact fun _ idle => isEnabled (by omega) (by omega)
      · intro on _
        exact isDisabled on (by omega)
  | enable =>
      simp only [Thread.raising] at sumRaising inside
      constructor
      · exact fun _ _ => rfl
      · intro _ idle
        omega
  | rollBack =>
      simp only [Thread.raising] at sumRaising inside
      have one := rollBack rfl
      rw [propext (kept nofun nofun)]
      constructor
      · omega
      · exact fun on _ => isDisabled on (by omega)
  | stop =>
      have positive := follows rfl
      by_cases last : count - 1 = 0
      · rw [if_pos last] at sumRaising after
        simp only [Thread.raising] at sumRaising
        constructor
        · omega
        · exact fun _ _ => after.mpr (Or.inl rfl)
      · rw [if_neg last] at sumRaising kept
        simp only [Thread.raising] at sumRaising
        rw [propext (kept nofun nofun)]
        constructor
        · exact fun _ idle => isEnabled (by omega) (by omega)
        · exact fun on busy => isDisabled on (by omega)
  | disable =>
      simp only [Thread.raising] at sumRaising
      constructor
      · intro _ idle
        have busy := disable rfl
        omega
      · exact nofun

end Permission

section Runs

/-- The count holds for the threads of a configuration. -/
def CountedAll (current : Configuration Shared Thread) : Prop :=
  Counted current.shared.discoveringRefCount (raisingOf current.threads) (creditOf current.threads)

/-- The permission holds for the threads of a configuration. -/
def PermittedAll (current : Configuration Shared Thread) : Prop :=
  CountedAll current ∧ Permitted current.shared.discoveringRefCount current.shared.joinEnabled
    (raisingOf current.threads) (.stop .disableJoin ∈ current.threads)

theorem permittedAll_calls (eventHandler : ZigbeeJoining.EventHandler) (knownDevices : Finset UInt64)
    (threads : List Call) : PermittedAll (calls eventHandler knownDevices threads) := by
  have idle (call : Call) : call.thread.raising = 0 ∧ call.thread.credit = 0 := by
    cases call <;> exact ⟨rfl, rfl⟩
  have shares : raisingOf (threads.map Call.thread) = 0 ∧ creditOf (threads.map Call.thread) = 0 := by
    induction threads with
    | nil => exact ⟨rfl, rfl⟩
    | cons call rest ih =>
        show call.thread.raising + raisingOf (rest.map Call.thread) = 0 ∧
          call.thread.credit + creditOf (rest.map Call.thread) = 0
        rw [ih.1, ih.2, (idle call).1, (idle call).2]
        exact ⟨rfl, rfl⟩
  unfold PermittedAll CountedAll calls
  rw [shares.1, shares.2]
  exact ⟨⟨rfl, ⟨le_refl _, by omega⟩, le_refl _⟩, fun positive => absurd positive (lt_irrefl _), nofun⟩

theorem raising_le (threads : List Thread) {thread : Thread} (member : thread ∈ threads) :
    thread.raising ≤ raisingOf threads := by
  refine List.single_le_sum ?_ _ (List.mem_map_of_mem member)
  intro share inside
  obtain ⟨one, _, rfl⟩ := List.mem_map.mp inside
  exact raising_nonneg one

variable {current next : Configuration Shared Thread} {input : Nat × Answers}

theorem CountedAll.step (counts : CountedAll current) (isFollowing : follows current input = true)
    (stepped : Threads.step move current input = some next) : CountedAll next := by
  obtain ⟨before, thread, after, shared, moved, split, found, taken, rfl⟩ := step_at stepped
  unfold follows at isFollowing
  rw [found] at isFollowing
  unfold CountedAll at counts ⊢
  rw [split] at counts isFollowing
  refine counts.step (move_joinMoves taken) (sum_replace _ _ _ _ _) (sum_replace _ _ _ _ _) ?_
    (raising_le _ (mem_middle.mpr (Or.inl rfl)))
  rintro rfl
  simpa using isFollowing

theorem PermittedAll.step (permitted : PermittedAll current) (isFollowing : follows current input = true)
    (isInStep : inStep current input = true) (stepped : Threads.step move current input = some next) :
    PermittedAll next := by
  refine ⟨permitted.1.step isFollowing stepped, ?_⟩
  obtain ⟨before, thread, after, shared, moved, split, found, taken, rfl⟩ := step_at stepped
  unfold follows at isFollowing
  unfold inStep at isInStep
  rw [found] at isFollowing isInStep
  unfold PermittedAll CountedAll at permitted
  rw [split] at permitted isFollowing isInStep
  obtain ⟨counts, permission⟩ := permitted
  refine permission.step counts (move_joinMoves taken) (sum_replace _ _ _ _ _) ?_
    (raising_le _ (mem_middle.mpr (Or.inl rfl))) ?_ ?_ mem_middle mem_middle
  · rintro rfl
    simpa using isFollowing
  · rintro rfl
    simpa using isInStep
  · rintro rfl
    rcases of_decide_eq_true isInStep with zero | ⟨other, member, busy⟩
    · exact Or.inl zero
    · have part := raising_le _ member
      have single := counts.single.2
      omega

/-- Every stop follows a start that returned 0. Outside the calls the count is the number of successful starts less the
number of stops. Joining is enabled exactly when it is positive if every failed start rolls back while nothing else is
counted, and every stop disables joining while the count is zero or a start has not enabled joining yet. -/
theorem run_joinPermission {eventHandler : ZigbeeJoining.EventHandler} {knownDevices : Finset UInt64}
    {threads : List Call} {schedule : List (Nat × Answers)} {final : Configuration Shared Thread}
    (following : Runs.Guarded (Threads.step move) (fun current input => follows current input = true)
      (calls eventHandler knownDevices threads) schedule)
    (reached : run eventHandler knownDevices threads schedule = some final)
    (returned : ∀ thread ∈ final.threads, thread.inCall = false) :
    final.shared.discoveringRefCount =
        (final.threads.count (.startReturned true) : ℤ) - final.threads.count .stopReturned ∧
      (Runs.Guarded (Threads.step move) (fun current input => inStep current input = true)
          (calls eventHandler knownDevices threads) schedule →
        (final.shared.joinEnabled = true ↔ 0 < final.shared.discoveringRefCount)) := by
  have initially := permittedAll_calls eventHandler knownDevices threads
  have idle := raisingOf_returned final.threads returned
  constructor
  · have counts : CountedAll final := Runs.Guarded.invariant _ _
      (fun _ _ _ holds guard stepped => CountedAll.step holds guard stepped) following initially.1 reached
    rw [counts.counted, idle, zero_add]
    exact creditOf_returned final.threads returned
  · intro inStep
    obtain ⟨counts, permission⟩ : PermittedAll final := Runs.Guarded.invariant _ _
      (fun _ _ _ holds guard stepped => PermittedAll.step holds guard.1 guard.2 stepped)
      (following.and _ inStep) initially reached
    have total := counts.counted
    have paid := counts.paid
    constructor
    · intro on
      by_contra none
      have disabling := permission.isDisabled on (Or.inl (by omega))
      exact absurd (returned _ disabling) (by decide)
    · intro positive
      exact permission.isEnabled positive idle

end Runs

section Sample

/-- Nothing is on record before the calls. -/
def emptyHandler : ZigbeeJoining.EventHandler := ⟨fun _ => none, none⟩

/-- The device is claimed and every command of the radio succeeds. -/
def good : Answers := ⟨true, true, true, false, false, true, false⟩

/-- Two starts share a session, and one of them is stopped. -/
theorem run_joinPermission_shared :
    ∃ final, run emptyHandler ∅ [.start, .start, .stop]
        ([0, 0, 1, 0, 0, 2].map fun index => (index, good)) = some final ∧
      final.shared.discoveringRefCount = 1 ∧ final.shared.joinEnabled = true := by
  have computed : (run emptyHandler ∅ [.start, .start, .stop]
      ([0, 0, 1, 0, 0, 2].map fun index => (index, good))).map (fun final => final.threads) =
        some [.startReturned true, .startReturned true, .stopReturned] := by decide +kernel
  obtain ⟨final, reached, threads⟩ := Option.map_eq_some_iff.mp computed
  have permission := run_joinPermission (by decide +kernel) reached (by rw [threads]; decide)
  have count : final.shared.discoveringRefCount = 1 := by
    rw [permission.1, threads]
    decide
  refine ⟨final, reached, count, (permission.2 (by decide +kernel)).mpr ?_⟩
  omega

/-- The radio refuses to enable joining. -/
def refused : Answers := ⟨false, true, true, false, false, false, false⟩

/-- All calls have returned, and the count and the permission disagree. -/
theorem exists_mismatched {starts : List Call} {schedule : List (Nat × Answers)} (threads : List Thread)
    (computed : (run emptyHandler ∅ starts schedule).map (fun final =>
      (final.threads, final.shared.joinEnabled, final.shared.discoveringRefCount)) = some (threads, false, 1))
    (returned : ∀ thread ∈ threads, thread.inCall = false) :
    ∃ final, run emptyHandler ∅ starts schedule = some final ∧ (∀ thread ∈ final.threads, thread.inCall = false) ∧
      ¬ (final.shared.joinEnabled = true ↔ 0 < final.shared.discoveringRefCount) := by
  obtain ⟨final, reached, same⟩ := Option.map_eq_some_iff.mp computed
  simp only [Prod.mk.injEq] at same
  obtain ⟨rfl, enabled, count⟩ := same
  refine ⟨final, reached, returned, ?_⟩
  rw [enabled, count]
  decide

/-- The second start shares the count of the first, which fails and rolls back. The second start has returned 0, and
joining stays disabled. In the other run a stop disables joining after the next start has enabled it. -/
theorem not_run_joinPermission :
    (Runs.Guarded (Threads.step move) (fun current input => follows current input = true)
        (calls emptyHandler ∅ [.start, .start])
        ([0, 1, 0, 0, 0, 0, 0, 0, 0].map fun index => (index, refused)) ∧
      ∃ final, run emptyHandler ∅ [.start, .start]
          ([0, 1, 0, 0, 0, 0, 0, 0, 0].map fun index => (index, refused)) = some final ∧
        (∀ thread ∈ final.threads, thread.inCall = false) ∧
        ¬ (final.shared.joinEnabled = true ↔ 0 < final.shared.discoveringRefCount)) ∧
    (Runs.Guarded (Threads.step move) (fun current input => follows current input = true)
        (calls emptyHandler ∅ [.start, .stop, .start])
        ([0, 0, 0, 0, 1, 2, 2, 2, 2, 1, 1, 1, 1].map fun index => (index, good)) ∧
      ∃ final, run emptyHandler ∅ [.start, .stop, .start]
          ([0, 0, 0, 0, 1, 2, 2, 2, 2, 1, 1, 1, 1].map fun index => (index, good)) = some final ∧
        (∀ thread ∈ final.threads, thread.inCall = false) ∧
        ¬ (final.shared.joinEnabled = true ↔ 0 < final.shared.discoveringRefCount)) := by
  constructor
  · refine ⟨by decide +kernel, exists_mismatched [.startReturned false, .startReturned true] ?_ (by decide)⟩
    decide +kernel
  · refine ⟨by decide +kernel,
      exists_mismatched [.startReturned true, .stopReturned, .startReturned true] ?_ (by decide)⟩
    decide +kernel

end Sample

end Barton.ZigbeeDiscovery
