import BartonCore.Proof.Sbmd.History

namespace Barton.Sbmd

/-- The handler is an `onResponse` handler. -/
def Arguments.isResponse : Arguments → Bool
  | .commandResponse _ _ _ _ => true
  | .attributeReadResponse _ _ _ _ => true
  | _ => false

/-- The effect sends a command or a write, or it runs an `onResponse` handler. -/
def Action.advances : Action → Bool
  | .invoke _ arguments => arguments.isResponse
  | .sendCommand _ => true
  | .sendWrite _ => true
  | .chainedCommand => true
  | .chainedWrite => true
  | .park _ => true
  | .rearm _ => true
  | _ => false

/-- A late answer runs the `onError` handler with a timeout and fails the operation. -/
def lateActions (pending : PendingOperation) : List Action :=
  (match pending.onError with
    | some handler => [.invoke handler (.error "timeout" "Overall operation deadline exceeded" (-1)
        pending.context)]
    | none => []) ++ [.complete pending.id false]

theorem lateActions_not_advances (pending : PendingOperation) :
    ∀ action ∈ lateActions pending, action.advances = false := by
  unfold lateActions
  intro action member
  rcases List.mem_append.mp member with error | final
  · split at error
    · rw [List.mem_singleton.mp error]
      rfl
    · contradiction
  · rw [List.mem_singleton.mp final]
    rfl

/-- No error reaches an operation with an `onError` handler after the deadline. -/
def State.timely (state : State) : Input → Bool
  | .commandAnswer sender now (.error _) _ _ =>
      match Cells.read CommandContext.sender sender state.activeCommandContexts with
      | some ⟨_, .deferred id, _⟩ =>
          (state.pending id).all fun pending => pending.onError.isNone || now ≤ pending.overallDeadline
      | _ => true
  | _ => true

/-- A late answer has exactly the late effects. -/
theorem handleDeferredAnswer_late {script : Script} {fuel now : Nat} {pending : PendingOperation}
    {answer : Except ErrorData ResponseData} (late : pending.overallDeadline < now)
    (quiet : ∀ error, answer = .error error → pending.onError = none) :
    handleDeferredAnswer script fuel now pending answer = some (lateActions pending) := by
  cases answer with
  | ok response =>
      change handleDeferredCommandResponse script fuel now pending response = _
      rw [handleDeferredCommandResponse, if_pos late, lateActions]
      cases pending.onError with
      | none | some => rfl
  | error error =>
      change handleDeferredCommandError script fuel pending error = _
      rw [handleDeferredCommandError, lateActions, quiet error rfl]
      rfl

/-- Every effect that advances a parked operation happens within its deadline. -/
def Punctual (state : State) : Prop :=
  ∀ event ∈ state.log, event.action.advances = true → ∀ parking ∈ state.log, parking.call = event.call →
    ∀ deadline, parking.deadline = some deadline → event.time ≤ deadline

theorem State.timely_error {state : State} {context : CommandContext} {pending : PendingOperation}
    {now fuel : Nat} {answer : Except ErrorData ResponseData} {script : Script}
    (found : Cells.read CommandContext.sender context.sender state.activeCommandContexts = some context)
    (target : context.target = .deferred pending.id) (known : state.pending pending.id = some pending)
    (timely : state.timely (.commandAnswer context.sender now answer script fuel) = true)
    (late : pending.overallDeadline < now) :
    ∀ error, answer = .error error → pending.onError = none := by
  rintro error rfl
  obtain ⟨sender, aim, answered⟩ := context
  subst target
  rw [State.timely, found] at timely
  simpa [known, Nat.not_le_of_lt late] using timely

theorem Punctual.step {defaultTimeoutMs : Option UInt32} {state next : State} {input : Input}
    (filed : Filed state) (punctual : Punctual state) (timely : state.timely input = true)
    (stepped : step defaultTimeoutMs state input = some next) : Punctual next := by
  cases step_progress stepped with
  | idle log pendings =>
      unfold Punctual
      rw [log]
      exact punctual
  | begin waits own handled log pendings =>
      unfold Punctual
      rw [log]
      intro event member advances parking origin same deadline parks
      rcases mem_events member with old | ⟨action, inside, rfl⟩
      · rcases mem_events origin with before | ⟨other, inside, rfl⟩
        · exact punctual event old advances parking before same deadline parks
        · exact absurd same.symm (filed.fresh_call old waits)
      · rcases mem_events origin with before | ⟨other, parked, rfl⟩
        · exact absurd same (filed.fresh_call before waits)
        · obtain ⟨request, rfl, rfl⟩ := Event.park_of_deadline parks
          exact (handleResourceOp_parked handled parked).2.1
  | answer found target known handled log pendings =>
      unfold Punctual
      rw [log]
      intro event member advances parking origin same deadline parks
      have before : parking ∈ state.log := by
        rcases mem_events origin with before | ⟨other, inside, rfl⟩
        · exact before
        · obtain ⟨request, rfl, rfl⟩ := Event.park_of_deadline parks
          exact absurd inside ((handleDeferredAnswer_answers handled).not_park request)
      rcases mem_events member with old | ⟨action, inside, rfl⟩
      · exact punctual event old advances parking before same deadline parks
      · rename_i now fuel answer script context pending actions
        obtain ⟨start, began, own, first⟩ := filed.parked pending (Cells.read_mem known)
        have equal : deadline = pending.overallDeadline :=
          filed.single parking before start began (same.trans own.symm) _ _ parks first
        rw [equal]
        by_contra late
        have quiet := State.timely_error found target known timely (Nat.lt_of_not_le late)
        rw [handleDeferredAnswer_late (Nat.lt_of_not_le late) quiet] at handled
        cases handled
        rw [lateActions_not_advances pending action inside] at advances
        contradiction

/-- In every run without late errors for an `onError` handler, nothing advances an operation after its
deadline, and the first late answer runs the `onError` handler with a timeout and fails the operation. -/
theorem run_deadline {defaultTimeoutMs : Option UInt32} {inputs : List Input} {final : State}
    (timely : Runs.Guarded (step defaultTimeoutMs) (fun state input => state.timely input = true)
      State.initial inputs)
    (reached : run defaultTimeoutMs State.initial inputs = some final) :
    Punctual final ∧
      ∀ context pending now answer script fuel,
        context ∈ final.activeCommandContexts → context.answered = false →
        context.target = .deferred pending.id → final.pending pending.id = some pending →
        pending.overallDeadline < now →
        final.timely (.commandAnswer context.sender now answer script fuel) = true →
        step defaultTimeoutMs final (.commandAnswer context.sender now answer script fuel) =
          some ((final.answered context.sender).recordAll now pending.operation.call
            (lateActions pending)) := by
  obtain ⟨booked, _, punctual⟩ := timely.invariant _
    (fun state => Booked [] state ∧ Filed state ∧ Punctual state)
    (fun _ _ _ ⟨booked, filed, punctual⟩ timely stepped =>
      ⟨booked.step stepped, filed.step booked stepped, punctual.step filed timely stepped⟩)
    ⟨Booked.initial, Filed.initial, by simp [Punctual, State.initial]⟩ reached
  refine ⟨punctual, ?_⟩
  intro context pending now answer script fuel member unanswered target known late calm
  have found := Cells.read_of_mem booked.flights.senders member
  have quiet := State.timely_error found target known calm late
  have kept : (final.answered context.sender).pending pending.id = some pending := known
  rw [step, found, Option.bind_some, unanswered, if_neg Bool.false_ne_true, commandAnswerStep, target]
  dsimp only
  rw [← State.answered, kept]
  dsimp only
  rw [handleDeferredAnswer_late late quiet, Option.map_some]

/-- The chain is deferred once more before its deadline, and the last answer is late. -/
def lateInputs : List Input :=
  [.start (.resource "execute"), .connected 0 0 requestScript 0 (.handler 0) .missing,
    .commandAnswer 2 10 (.error ⟨"busy", 5⟩) requestScript 0,
    .commandAnswer 3 30001 (.ok ⟨6, 0, ""⟩) requestScript 0]

theorem run_deadline_late : ∃ final, run none State.initial lateInputs = some final ∧
    final.log.getLast? = some ⟨30001, 0, .complete 1 false⟩ ∧ Punctual final := by
  have computed : (run none State.initial lateInputs).map (·.log.getLast?) =
      some (some ⟨30001, 0, .complete 1 false⟩) := by decide
  have timely : Runs.Guarded (step none) (fun state input => state.timely input = true) State.initial
      lateInputs := by decide
  obtain ⟨final, reached, last⟩ := Option.map_eq_some_iff.mp computed
  exact ⟨final, reached, last, (run_deadline timely reached).1⟩

/-- A late error continues the chain. -/
def lateErrorInputs : List Input :=
  [.start (.resource "execute"), .connected 0 0 requestScript 0 (.handler 0) .missing,
    .commandAnswer 2 30001 (.error ⟨"busy", 5⟩) requestScript 0]

/-- After the deadline, the error handler of the operation gets no timeout and sends one more command. -/
theorem not_run_deadline : ∃ final, run none State.initial lateErrorInputs = some final ∧
    ¬Punctual final ∧
    ⟨30001, 0, .invoke 2 (.error "timeout" "Overall operation deadline exceeded" (-1) none)⟩ ∉ final.log := by
  have computed : (run none State.initial lateErrorInputs).map (·.log) = some [
      ⟨0, 0, .invoke 0 (.resource "execute")⟩,
      ⟨0, 0, .park ⟨⟨0, false, true⟩, ⟨some 1, some 2, none⟩, 30000, true⟩⟩,
      ⟨30001, 0, .invoke 2 (.error "commandFailed" "busy" 5 none)⟩,
      ⟨30001, 0, .rearm ⟨1, 1, ⟨0, false, true⟩, some 1, some 2, none, 30000, 1⟩⟩] := by decide
  obtain ⟨final, reached, log⟩ := Option.map_eq_some_iff.mp computed
  refine ⟨final, reached, ?_, ?_⟩
  · intro punctual
    have late := punctual ⟨30001, 0, .rearm ⟨1, 1, ⟨0, false, true⟩, some 1, some 2, none, 30000, 1⟩⟩
      (by rw [log]; decide) rfl ⟨0, 0, .park ⟨⟨0, false, true⟩, ⟨some 1, some 2, none⟩, 30000, true⟩⟩
      (by rw [log]; decide) rfl 30000 rfl
    exact absurd late (by decide)
  · rw [log]
    decide

end Barton.Sbmd
