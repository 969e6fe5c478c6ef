import BartonCore.Proof.Sbmd.Bounds

namespace Barton.Sbmd

/-- The effect belongs to a deferral of a parked operation. -/
def Action.rearms : Action → Bool
  | .rearm _ => true
  | .invoke _ arguments => arguments.isCached
  | _ => false

def Action.isPark : Action → Bool
  | .park _ => true
  | _ => false

namespace State

/-- The effects of a call so far. -/
def effects (state : State) (call : Nat) : List Action :=
  (state.log.filter fun event => event.call = call).map Event.action

/-- The effects of a call from its parking on. -/
def chain (state : State) (call : Nat) : List Action :=
  (state.effects call).dropWhile fun action => !action.isPark

/-- The deferrals of a call since its parking. -/
def rearms (state : State) (call : Nat) : Nat := (state.chain call).countP Action.rearms

end State

section Counting
variable {actions : List Action} {script : Script}

theorem State.effects_append {state next : State} {now call : Nat}
    (log : next.log = state.log ++ actions.map (Event.mk now call)) (other : Nat) :
    next.effects other = state.effects other ++ if call = other then actions else [] := by
  unfold effects
  rw [log, List.filter_append, List.map_append]
  congr 1
  by_cases same : call = other
  · rw [if_pos same, List.filter_map, List.map_map]
    simp [same, Function.comp_def]
  · rw [if_neg same, List.filter_map]
    simp [same, Function.comp_def]

/-- A deferral of a chain step counts the cached reads before it. -/
theorem Ends.rearms_eq {index : Nat} {pending next : PendingOperation}
    (ends : Ends script index pending actions) (member : .rearm next ∈ actions) :
    next.deferralDepth = pending.deferralDepth + actions.countP Action.rearms := by
  induction ends with
  | complete success each => simp [each.not_rearm] at member
  | rearm room =>
      cases List.mem_singleton.mp member
      rfl
  | dispatch chained taken each =>
      rcases chained with rfl | rfl
      · simp [each.not_rearm] at member
      · simp [each.not_rearm] at member
  | fail room cached => simp at member
  | invoke room reads cached rest ih =>
      rename_i handler arguments callbacks others
      have depth := ih (by simpa using member)
      have counted : (Action.invoke handler arguments).rearms = true := cached
      rw [List.countP_cons_of_pos counted]
      change next.deferralDepth = _ + 1 + _ at depth
      omega

theorem Answers.rearms_eq {pending next : PendingOperation}
    (answers : Answers script pending actions) (member : .rearm next ∈ actions) :
    next.deferralDepth = pending.deferralDepth + actions.countP Action.rearms := by
  cases answers with
  | refuse | fail => simp at member
  | proceed uncached rest =>
      rw [List.countP_cons_of_neg (by simp [Action.rearms, uncached])]
      exact rest.rearms_eq (by simpa using member)

/-- The chain of a new operation starts with its parking. -/
theorem Begins.chain {now index : Nat} {operation : Operation}
    (begins : Begins now operation script index actions) {request : Request}
    (member : .park request ∈ actions) :
    actions.dropWhile (fun action => !action.isPark) = [.park request] := by
  induction begins with
  | direct each => exact absurd (each _ member) (by simp [Action.direct])
  | park same later requests =>
      cases List.mem_singleton.mp member
      rfl
  | fail invokes => simp at member
  | invoke invokes rest ih =>
      rw [List.dropWhile_cons_of_pos rfl]
      exact ih (by simpa using member)

theorem handleResourceOp_chain {defaultTimeoutMs : Option UInt32} {now fuel : Nat}
    {operation : Operation} {opType : String} {handler : ResourceHandler}
    (handled : handleResourceOp defaultTimeoutMs now operation script fuel opType handler = some actions)
    {request : Request} (member : .park request ∈ actions) :
    actions.dropWhile (fun action => !action.isPark) = [.park request] := by
  rcases handleResourceOp_begins handled with direct | ⟨function, arguments, rest, rfl, rfl, begins⟩
  · exact absurd (direct _ member) (by simp [Action.direct])
  · rw [List.dropWhile_cons_of_pos rfl]
    exact begins.chain (by simpa using member)

/-- The depth of every pending operation counts its deferrals. -/
def Counted (state : State) : Prop :=
  ∀ pending ∈ state.pendingOperations, state.chain pending.operation.call ≠ [] ∧
    state.rearms pending.operation.call = pending.deferralDepth

theorem Filed.effects_eq_nil {state : State} (filed : Filed state) {id : Nat}
    (waits : id ∈ state.unconnected) : state.effects id = [] := by
  unfold State.effects
  rw [List.map_eq_nil_iff, List.filter_eq_nil_iff]
  intro event member
  simp [filed.fresh_call member waits]

theorem dropWhile_append_of_ne_nil {Value : Type} {skip : Value → Bool} {first : List Value}
    (stops : first.dropWhile skip ≠ []) (second : List Value) :
    (first ++ second).dropWhile skip = first.dropWhile skip ++ second := by
  rw [List.dropWhile_append]
  rw [if_neg (by simpa using stops)]

theorem Counted.step {defaultTimeoutMs : Option UInt32} {state next : State} {input : Input}
    (filed : Filed state) (counted : Counted state)
    (stepped : step defaultTimeoutMs state input = some next) : Counted next := by
  cases step_progress stepped with
  | idle log pendings =>
      unfold Counted State.rearms State.chain State.effects
      rw [log, pendings]
      exact counted
  | begin waits own handled log pendings =>
      rename_i now fuel id script handler server operation opType actions
      have effects := State.effects_append log
      refine filed.forall_begun waits own handled pendings ?_ ?_
      · intro pending member other
        rw [State.rearms, State.chain, effects, if_neg other, List.append_nil]
        exact counted pending member
      · intro request pendingId promise inside call
        rw [call, State.rearms, State.chain, effects, if_pos rfl, filed.effects_eq_nil waits,
          List.nil_append, handleResourceOp_chain handled inside]
        exact ⟨List.cons_ne_nil _ _, rfl⟩
  | answer found target known handled log pendings =>
      rename_i now fuel answer script context pending actions
      have effects := State.effects_append log
      obtain ⟨started, depth⟩ := counted pending (Cells.read_mem known)
      have chained : next.chain pending.operation.call =
          state.chain pending.operation.call ++ actions := by
        rw [State.chain, effects, if_pos rfl]
        exact dropWhile_append_of_ne_nil started actions
      refine filed.forall_answered known pendings ?_ ?_
      · intro other member apart
        rw [State.rearms, State.chain, effects, if_neg apart, List.append_nil]
        exact counted other member
      · intro renewed inside same
        rw [same.operation, State.rearms, chained, List.countP_append,
          (handleDeferredAnswer_answers handled).rearms_eq inside, ← depth]
        exact ⟨List.append_ne_nil_of_left_ne_nil started _, rfl⟩

end Counting

section Following

/-- The result is a cached read that re-arms a parked operation. -/
def Reply.rearmsByRead (reply : Reply) : Bool := reply.device.alive && reply.invokes

/-- The operation after the cached reads of the results from an index on. -/
def PendingOperation.afterReads (pending : PendingOperation) (script : Script) : Nat → Nat → PendingOperation
  | _, 0 => pending
  | index, count + 1 =>
      match (script index).result with
      | some (.readAttribute _ callbacks _) => (pending.rearmed callbacks).afterReads script (index + 1) count
      | _ => pending

theorem cachedRead_context (device : Device) (path : AttributeData) (endpoint : UInt16)
    (callbacks : Callbacks) (context : Option Nat) :
    (cachedRead device path endpoint { callbacks with context := context }).isSome =
      (cachedRead device path endpoint callbacks).isSome := by
  unfold cachedRead
  split
  · rw [Option.isSome_map, Option.isSome_map]
  · cases device.encodeTlvElementToBase64 _ 256 with
    | none => rfl
    | some text => rw [Option.bind_some, Option.bind_some, Option.isSome_map, Option.isSome_map]

theorem Reply.rearmsByRead_cases {reply : Reply} (rearms : reply.rearmsByRead = true) (context : Option Nat) :
    ∃ path callbacks timeoutMs endpoint handler arguments,
      reply.result = some (.readAttribute path callbacks timeoutMs) ∧ reply.device.alive = true ∧
      reply.device.resolveEndpoint path.clusterId path.endpointId = some endpoint ∧
      cachedRead reply.device path endpoint { callbacks with context := context } =
        some (handler, arguments) := by
  rw [rearmsByRead, Bool.and_eq_true] at rearms
  obtain ⟨alive, invokes⟩ := rearms
  unfold Reply.invokes at invokes
  split at invokes
  · rename_i path callbacks timeoutMs given
    split at invokes
    · contradiction
    · rename_i endpoint resolved
      rw [← cachedRead_context _ _ _ _ context] at invokes
      obtain ⟨⟨handler, arguments⟩, selected⟩ := Option.isSome_iff_exists.mp invokes
      exact ⟨path, callbacks, timeoutMs, endpoint, handler, arguments, given, alive, resolved, selected⟩
  · contradiction

/-- A chain step within its depth runs one callback for each cached read. -/
theorem continueDeferredChain_follow {script : Script} {count fuel index : Nat}
    {pending : PendingOperation} {first last : Terminal} {actions : List Action}
    (reads : ∀ offset < count, (script (index + offset)).rearmsByRead = true)
    (within : pending.deferralDepth + count ≤ maxDeferralDepth)
    (given : (script index).result = some first) (final : (script (index + count)).result = some last)
    (continued : continueDeferredChain script fuel (index + 1) pending first (script index).device =
      some actions) :
    ∃ invokes rest spare, invocations invokes = count ∧ actions = invokes ++ rest ∧
      continueDeferredChain script spare (index + count + 1) (pending.afterReads script index count) last
        (script (index + count)).device = some rest := by
  induction count generalizing fuel index pending first actions with
  | zero =>
      rw [Nat.add_zero, given] at final
      cases final
      exact ⟨[], actions, fuel, rfl, rfl, continued⟩
  | succ count ih =>
      obtain ⟨path, callbacks, timeoutMs, endpoint, handler, arguments, read, alive, resolved, selected⟩ :=
        Reply.rearmsByRead_cases (reads 0 (Nat.succ_pos count)) pending.context
      rw [Nat.add_zero] at read alive resolved selected
      rw [given] at read
      cases read
      have next : ∃ terminal, (script (index + 1)).result = some terminal := by
        cases count with
        | zero => exact ⟨last, final⟩
        | succ count =>
            obtain ⟨path, callbacks, timeoutMs, _, _, _, read, _⟩ :=
              Reply.rearmsByRead_cases (reads 1 (by omega)) pending.context
            exact ⟨_, read⟩
      obtain ⟨terminal, following⟩ := next
      unfold continueDeferredChain at continued
      rw [if_neg (by omega)] at continued
      simp only [alive, not_true_eq_false, if_false, resolved, selected, following] at continued
      cases fuel with
      | zero => contradiction
      | succ fuel =>
          obtain ⟨others, later, rfl⟩ := Option.map_eq_some_iff.mp continued
          have shifted : ∀ offset < count, (script (index + 1 + offset)).rearmsByRead = true := by
            intro offset less
            rw [show index + 1 + offset = index + (offset + 1) by omega]
            exact reads (offset + 1) (Nat.succ_lt_succ less)
          rw [show index + (count + 1) = index + 1 + count by omega] at final ⊢
          obtain ⟨invokes, rest, spare, total, rfl, ended⟩ :=
            ih shifted (by change _ + 1 + count ≤ _; omega) following final later
          refine ⟨.invoke handler arguments :: invokes, rest, spare, ?_, rfl, ?_⟩
          · rw [invocations_invoke, total]
          · rw [PendingOperation.afterReads, given]
            exact ended

theorem PendingOperation.afterReads_same {script : Script} {count index : Nat} {pending : PendingOperation}
    (reads : ∀ offset < count, (script (index + offset)).rearmsByRead = true) :
    (pending.afterReads script index count).id = pending.id ∧
      (pending.afterReads script index count).operation = pending.operation ∧
      (pending.afterReads script index count).deferralDepth = pending.deferralDepth + count := by
  induction count generalizing index pending with
  | zero => exact ⟨rfl, rfl, rfl⟩
  | succ count ih =>
      obtain ⟨path, callbacks, timeoutMs, _, _, _, read, _⟩ :=
        Reply.rearmsByRead_cases (reads 0 (Nat.succ_pos count)) pending.context
      rw [Nat.add_zero] at read
      have shifted : ∀ offset < count, (script (index + 1 + offset)).rearmsByRead = true := by
        intro offset less
        rw [show index + 1 + offset = index + (offset + 1) by omega]
        exact reads (offset + 1) (Nat.succ_lt_succ less)
      rw [PendingOperation.afterReads, read]
      obtain ⟨id, operation, depth⟩ := @ih (index + 1) (pending.rearmed callbacks) shifted
      refine ⟨id, operation, ?_⟩
      rw [depth]
      change _ + 1 + count = _
      omega

end Following

section Limit
variable {pending : PendingOperation} {answer : Except ErrorData ResponseData} {script : Script}
  {actions : List Action} {last : Terminal}

/-- The handler of the current hop for an answer. -/
def PendingOperation.handlerFor (pending : PendingOperation) : Except ErrorData ResponseData → Option Handler
  | .ok _ => pending.onResponse
  | .error _ => pending.onError

def Terminal.isSuccess : Terminal → Bool
  | .success _ => true
  | _ => false

/-- The result defers the operation once more. -/
def Terminal.defers : Terminal → Bool
  | .requestCommand _ _ _ _ => true
  | .readAttribute _ _ _ => true
  | _ => false

/-- The last result of a chain decides the outcome. A success completes the operation with its value. One
deferral too many runs the `onError` handler of the current hop before the operation fails. -/
structure Decided (pending hop : PendingOperation) (count : Nat) (last : Terminal) (actions : List Action) :
    Prop where
  success : ∀ value, last = .success value → ∃ before,
    actions = before ++ (storeResult pending.operation value ++ [.complete pending.id true])
  exceeded : last.defers = true → hop.deferralDepth = maxDeferralDepth → ∀ handler,
    hop.onError = some handler → ∃ before arguments, invocations before = count + 1 ∧
      actions = before ++ [.invoke handler arguments, .complete pending.id false]

/-- A handler in time runs first, and its result continues the chain. -/
theorem handleDeferredAnswer_proceeds {fuel now : Nat} {first : Terminal}
    (inTime : now ≤ pending.overallDeadline) (present : pending.handlerFor answer ≠ none)
    (given : (script 0).result = some first)
    (handled : handleDeferredAnswer script fuel now pending answer = some actions) :
    ∃ handler arguments rest, actions = .invoke handler arguments :: rest ∧
      (first.isError = true ∧ rest = [.complete pending.id false] ∨
        continueDeferredChain script fuel 1 pending first (script 0).device = some rest) := by
  cases answer with
  | ok response =>
      change handleDeferredCommandResponse script fuel now pending response = some actions at handled
      obtain ⟨handler, known⟩ := Option.ne_none_iff_exists'.mp present
      change pending.onResponse = some handler at known
      rw [handleDeferredCommandResponse, if_neg (Nat.not_lt_of_le inTime), known] at handled
      simp only [given] at handled
      obtain ⟨rest, later, rfl⟩ := Option.map_eq_some_iff.mp handled
      exact ⟨handler, _, rest, rfl, .inr later⟩
  | error error =>
      change handleDeferredCommandError script fuel pending error = some actions at handled
      obtain ⟨handler, known⟩ := Option.ne_none_iff_exists'.mp present
      change pending.onError = some handler at known
      rw [handleDeferredCommandError, known] at handled
      simp only [given] at handled
      split at handled
      · rename_i failed
        cases handled
        exact ⟨handler, _, _, rfl, .inl ⟨failed, rfl⟩⟩
      · obtain ⟨rest, later, rfl⟩ := Option.map_eq_some_iff.mp handled
        exact ⟨handler, _, rest, rfl, .inr later⟩

/-- A chain at its limit completes as failed whatever its last result is. -/
theorem continueDeferredChain_limit {fuel index : Nat}
    {terminal : Terminal} {device : Device} (limit : maxDeferralDepth ≤ pending.deferralDepth) :
    continueDeferredChain script fuel index pending terminal device = some [.complete pending.id false] := by
  unfold continueDeferredChain
  rw [if_pos limit]

theorem continueDeferredChain_success {fuel index : Nat}
    {value : String} {device : Device} (room : pending.deferralDepth < maxDeferralDepth) :
    continueDeferredChain script fuel index pending (.success value) device =
      some (storeResult pending.operation value ++ [.complete pending.id true]) := by
  unfold continueDeferredChain
  rw [if_neg (Nat.not_le_of_lt room)]

theorem invocations_append (first second : List Action) :
    invocations (first ++ second) = invocations first + invocations second :=
  List.countP_append

/-- At the limit, nothing follows the handlers but the failed completion. -/
theorem not_decided_of_limit {pending hop : PendingOperation} {count : Nat}
    {invokes : List Action} (total : invocations invokes = count + 1)
    (limit : hop.deferralDepth = maxDeferralDepth)
    (matters : last.isSuccess = true ∨ last.defers = true ∧ hop.onError.isSome = true) :
    ¬Decided pending hop count last (invokes ++ [.complete pending.id false]) := by
  intro decided
  rcases matters with success | ⟨defers, present⟩
  · cases last with
    | success value =>
        obtain ⟨before, same⟩ := decided.success value rfl
        rw [← List.append_assoc] at same
        have ends := (List.append_inj' same rfl).2
        simp at ends
    | _ => contradiction
  · obtain ⟨handler, known⟩ := Option.isSome_iff_exists.mp present
    obtain ⟨before, arguments, many, same⟩ := decided.exceeded defers limit handler known
    have counts := congrArg invocations same
    rw [invocations_append, invocations_append, total, many, invocations_invoke] at counts
    have none : invocations [.complete pending.id false] = 0 := rfl
    omega

variable {fuel now count : Nat} (inTime : now ≤ pending.overallDeadline) (present : pending.handlerFor answer ≠ none)
  (reads : ∀ offset < count, (script offset).rearmsByRead = true)
  (within : pending.deferralDepth + count ≤ maxDeferralDepth) (final : (script count).result = some last)
  (handled : handleDeferredAnswer script fuel now pending answer = some actions)
include inTime present reads within final handled

/-- The chain runs one handler for the answer and one for each cached read, and the last result acts. -/
theorem handleDeferredAnswer_last :
    ∃ invokes rest, invocations invokes = count + 1 ∧ actions = invokes ++ rest ∧
      (last.isError = true ∧ rest = [.complete pending.id false] ∨ ∃ spare,
        continueDeferredChain script spare (count + 1) (pending.afterReads script 0 count) last
          (script count).device = some rest) := by
  have started : ∃ first, (script 0).result = some first := by
    cases count with
    | zero => exact ⟨last, final⟩
    | succ count =>
        obtain ⟨path, callbacks, timeoutMs, _, _, _, read, _⟩ :=
          Reply.rearmsByRead_cases (reads 0 (Nat.succ_pos count)) none
        exact ⟨_, read⟩
  obtain ⟨first, given⟩ := started
  obtain ⟨handler, arguments, rest, rfl, failed | continued⟩ :=
    handleDeferredAnswer_proceeds inTime present given handled
  · cases count with
    | zero =>
        rw [given] at final
        cases final
        exact ⟨[.invoke handler arguments], rest, rfl, rfl, .inl failed⟩
    | succ count =>
        obtain ⟨path, callbacks, timeoutMs, _, _, _, read, _⟩ :=
          Reply.rearmsByRead_cases (reads 0 (Nat.succ_pos count)) none
        rw [given] at read
        cases read
        exact absurd failed.1 Bool.false_ne_true
  · have shifted : ∀ offset < count, (script (0 + offset)).rearmsByRead = true := by
      intro offset less
      rw [Nat.zero_add]
      exact reads offset less
    rw [← Nat.zero_add count] at final
    obtain ⟨invokes, others, spare, total, rfl, ended⟩ :=
      continueDeferredChain_follow shifted within given final continued
    rw [Nat.zero_add] at ended
    refine ⟨.invoke handler arguments :: invokes, others, ?_, rfl, .inr ⟨spare, ended⟩⟩
    rw [invocations_invoke, total]

/-- The last result decides the outcome if and only if the chain is below its limit, or the result is
neither a success nor a deferral that has an error handler. -/
theorem decided_iff : Decided pending (pending.afterReads script 0 count) count last actions ↔
      pending.deferralDepth + count < maxDeferralDepth ∨
        ¬(last.isSuccess = true ∨
          last.defers = true ∧ (pending.afterReads script 0 count).onError.isSome = true) := by
  have shifted : ∀ offset < count, (script (0 + offset)).rearmsByRead = true := by
    intro offset less
    rw [Nat.zero_add]
    exact reads offset less
  have same := @PendingOperation.afterReads_same script count 0 pending shifted
  obtain ⟨invokes, rest, total, rfl, ended⟩ :=
    handleDeferredAnswer_last inTime present reads within final handled
  constructor
  · intro decided
    by_contra neither
    obtain ⟨full, matters⟩ := not_or.mp neither
    have limit : (pending.afterReads script 0 count).deferralDepth = maxDeferralDepth := by
      rw [same.2.2]
      omega
    have closed : rest = [.complete pending.id false] := by
      rcases ended with ⟨_, closed⟩ | ⟨spare, continued⟩
      · exact closed
      · rw [continueDeferredChain_limit limit.ge, same.1] at continued
        exact (Option.some.inj continued).symm
    subst closed
    exact not_decided_of_limit total limit (not_not.mp matters) decided
  · intro allowed
    constructor
    · rintro value rfl
      have room : (pending.afterReads script 0 count).deferralDepth < maxDeferralDepth := by
        rw [same.2.2]
        rcases allowed with room | plain
        · exact room
        · exact absurd (.inl rfl) plain
      rcases ended with ⟨failed, _⟩ | ⟨spare, continued⟩
      · contradiction
      · rw [continueDeferredChain_success room, same.1, same.2.1] at continued
        exact ⟨invokes, by rw [Option.some.inj continued]⟩
    · intro defers limit handler known
      rw [same.2.2] at limit
      rcases allowed with room | plain
      · omega
      · exact absurd (.inr ⟨defers, by rw [known]; rfl⟩) plain

end Limit

theorem run_counted {defaultTimeoutMs : Option UInt32} {inputs : List Input} {final : State}
    (reached : run defaultTimeoutMs State.initial inputs = some final) :
    Booked [] final ∧ Filed final ∧ Counted final :=
  Runs.invariant _ (fun state => Booked [] state ∧ Filed state ∧ Counted state)
    (fun _ _ _ ⟨booked, filed, counted⟩ stepped =>
      ⟨booked.step stepped, filed.step booked stepped, counted.step filed stepped⟩)
    ⟨Booked.initial, Filed.initial, by simp [Counted, State.initial]⟩ reached

/-- The answer of a known deferred command is handled by its chain. -/
theorem step_deferredAnswer {defaultTimeoutMs : Option UInt32} {state next : State} {context : CommandContext}
    {pending : PendingOperation} {now fuel : Nat} {script : Script} {answer : Except ErrorData ResponseData}
    (found : Cells.read CommandContext.sender context.sender state.activeCommandContexts = some context)
    (target : context.target = .deferred pending.id) (known : state.pending pending.id = some pending)
    (stepped : step defaultTimeoutMs state (.commandAnswer context.sender now answer script fuel) =
      some next) :
    ∃ actions, handleDeferredAnswer script fuel now pending answer = some actions ∧
      next = (state.answered context.sender).recordAll now pending.operation.call actions := by
  obtain ⟨other, read, guarded⟩ := Option.bind_eq_some_iff.mp stepped
  obtain rfl : context = other := Option.some.inj (found.symm.trans read)
  split at guarded
  · contradiction
  · unfold commandAnswerStep at guarded
    rw [target] at guarded
    dsimp only at guarded
    split at guarded
    · rename_i missing
      exact absurd (known.symm.trans missing) (Option.some_ne_none pending)
    · rename_i stored present
      obtain rfl : pending = stored := Option.some.inj (known.symm.trans present)
      obtain ⟨actions, handled, same⟩ := Option.map_eq_some_iff.mp guarded
      exact ⟨actions, handled, same.symm⟩

/-- In every run, the last result of a deferred chain decides its outcome if and only if the chain was
deferred less often than the limit, or the result is neither a success nor a deferral with an error
handler. -/
theorem run_depthLimit {defaultTimeoutMs : Option UInt32} {inputs : List Input} {state next : State}
    {context : CommandContext} {pending : PendingOperation} {now fuel count : Nat} {script : Script}
    {answer : Except ErrorData ResponseData} {last : Terminal}
    (reached : run defaultTimeoutMs State.initial inputs = some state)
    (member : context ∈ state.activeCommandContexts) (target : context.target = .deferred pending.id)
    (known : state.pending pending.id = some pending)
    (inTime : now ≤ pending.overallDeadline) (present : pending.handlerFor answer ≠ none)
    (reads : ∀ offset < count, (script offset).rearmsByRead = true)
    (within : state.rearms pending.operation.call + count ≤ maxDeferralDepth)
    (final : (script count).result = some last)
    (stepped : step defaultTimeoutMs state (.commandAnswer context.sender now answer script fuel) =
      some next) :
    ∃ actions, next.log = state.log ++ actions.map (Event.mk now pending.operation.call) ∧
      (Decided pending (pending.afterReads script 0 count) count last actions ↔
        state.rearms pending.operation.call + count < maxDeferralDepth ∨
          ¬(last.isSuccess = true ∨
            last.defers = true ∧ (pending.afterReads script 0 count).onError.isSome = true)) := by
  obtain ⟨booked, _, counted⟩ := run_counted reached
  have depth := (counted pending (Cells.read_mem known)).2
  rw [depth] at within ⊢
  have found := Cells.read_of_mem booked.flights.senders member
  obtain ⟨actions, handled, rfl⟩ := step_deferredAnswer found target known stepped
  exact ⟨actions, State.recordAll_log _ now pending.operation.call actions,
    decided_iff inTime present reads within final handled⟩

section Sample

/-- The operation of this run is deferred this many times after its parking. -/
def limitInputs (depth : Nat) : List Input :=
  .start (.resource "execute") :: .connected 0 0 requestScript 0 (.handler 0) .missing ::
    (List.range depth).map fun hop => .commandAnswer (hop + 2) 10 (.ok ⟨6, 0, ""⟩) requestScript 0

/-- The pending operation after this many deferrals. -/
def limitPending (depth : Nat) : PendingOperation :=
  ⟨1, 1, ⟨0, false, true⟩, some 1, some 2, none, 30000, depth⟩

end Sample

theorem run_depthLimit_success : ∃ state next, run none State.initial (limitInputs 9) = some state ∧
    step none state (.commandAnswer 11 10 (.ok ⟨6, 0, ""⟩) successScript 0) = some next ∧
    ∃ actions, next.log = state.log ++ actions.map (Event.mk 10 0) ∧
      (Decided (limitPending 9) (limitPending 9) 0 (.success "") actions ↔
        state.rearms 0 + 0 < maxDeferralDepth ∨ ¬(true = true ∨ false = true ∧ true = true)) := by
  have computed : (run none State.initial (limitInputs 9)).map (fun state =>
      (state.pending 1, state.rearms 0,
        decide (⟨11, .deferred 1, false⟩ ∈ state.activeCommandContexts),
        (step none state (.commandAnswer 11 10 (.ok ⟨6, 0, ""⟩) successScript 0)).isSome)) =
      some (some (limitPending 9), 9, true, true) := by decide +kernel
  obtain ⟨state, reached, facts⟩ := Option.map_eq_some_iff.mp computed
  simp only [Prod.mk.injEq, decide_eq_true_eq] at facts
  obtain ⟨known, rearms, member, taken⟩ := facts
  obtain ⟨next, stepped⟩ := Option.isSome_iff_exists.mp taken
  have unread : ∀ offset < 0, (successScript offset).rearmsByRead = true := by
    intro offset less
    exact absurd less (Nat.not_lt_zero offset)
  have within : state.rearms (limitPending 9).operation.call + 0 ≤ maxDeferralDepth := by
    have nine : state.rearms (limitPending 9).operation.call = 9 := rearms
    rw [nine]
    decide
  have target : (⟨11, .deferred 1, false⟩ : CommandContext).target = .deferred (limitPending 9).id := rfl
  have final : (successScript 0).result = some (.success "") := rfl
  have inTime : 10 ≤ (limitPending 9).overallDeadline := by decide
  have present : (limitPending 9).handlerFor (.ok ⟨6, 0, ""⟩) ≠ none := by decide
  have limit := run_depthLimit reached member target known inTime present unread within final stepped
  exact ⟨state, next, reached, stepped, limit⟩

/-- After as many deferrals as the limit allows, a success fails the operation, and one deferral more fails
it without its error handler. -/
theorem not_run_depthLimit : ∃ state, run none State.initial (limitInputs 10) = some state ∧
    state.pending 1 = some (limitPending 10) ∧ state.rearms 0 = maxDeferralDepth ∧
    ∀ script last, script = successScript ∧ last = .success "" ∨
        script = requestScript ∧ last = .requestCommand ⟨6, 0, "", none, none⟩ 0 ⟨some 1, some 2, none⟩ none →
      ∃ next, step none state (.commandAnswer 12 10 (.ok ⟨6, 0, ""⟩) script 0) = some next ∧
        (script 0).result = some last ∧ ∀ actions, next.log = state.log ++ actions.map (Event.mk 10 0) →
          ¬Decided (limitPending 10) (limitPending 10) 0 last actions := by
  let failure : List Action := [.invoke 1 (.commandResponse 6 0 "" none), .complete 1 false]
  have computed : (run none State.initial (limitInputs 10)).map (fun state =>
      (state.pending 1, state.rearms 0, [successScript, requestScript].map fun script =>
        (step none state (.commandAnswer 12 10 (.ok ⟨6, 0, ""⟩) script 0)).map fun next =>
          decide (next.log = state.log ++ failure.map (Event.mk 10 0)))) =
      some (some (limitPending 10), 10, [some true, some true]) := by decide +kernel
  obtain ⟨state, reached, facts⟩ := Option.map_eq_some_iff.mp computed
  simp only [Prod.mk.injEq, List.map_cons, List.map_nil, List.cons.injEq, Option.map_eq_some_iff,
    decide_eq_true_eq, and_true] at facts
  obtain ⟨known, rearms, ⟨succeeded, success, successLog⟩, requested, request, requestLog⟩ := facts
  have same {actions : List Action} {log : List Event} (given : log = state.log ++ failure.map (Event.mk 10 0))
      (log_eq : log = state.log ++ actions.map (Event.mk 10 0)) :
      actions = [.invoke 1 (.commandResponse 6 0 "" none)] ++ [.complete (limitPending 10).id false] := by
    have equal := List.append_cancel_left (log_eq.symm.trans given)
    exact List.map_injective_iff.mpr (fun _ _ event => (Event.mk.inj event).2.2) equal
  refine ⟨state, reached, known, rearms, ?_⟩
  rintro script last (⟨rfl, rfl⟩ | ⟨rfl, rfl⟩)
  · refine ⟨succeeded, success, rfl, ?_⟩
    intro actions log
    rw [same successLog log]
    exact not_decided_of_limit rfl rfl (.inl rfl)
  · refine ⟨requested, request, rfl, ?_⟩
    intro actions log
    rw [same requestLog log]
    exact not_decided_of_limit rfl rfl (.inr ⟨rfl, rfl⟩)

end Barton.Sbmd
