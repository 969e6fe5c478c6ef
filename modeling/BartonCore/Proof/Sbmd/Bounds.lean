import BartonCore.Proof.Sbmd.History

namespace Barton.Sbmd

def Action.isInvoke : Action → Bool
  | .invoke _ _ => true
  | _ => false

/-- The handler invocations among the effects of one step. -/
def invocations (actions : List Action) : Nat := actions.countP Action.isInvoke

/-- The handler invocations of a call so far. -/
def State.invocations (state : State) (call : Nat) : Nat :=
  state.log.countP fun event => event.call = call && event.action.isInvoke

section Counts
variable {actions : List Action}

theorem invocations_invoke (handler : Handler) (arguments : Arguments) (rest : List Action) :
    invocations (.invoke handler arguments :: rest) = invocations rest + 1 :=
  List.countP_cons_of_pos rfl

theorem invocations_eq_zero (each : ∀ action ∈ actions, action.isInvoke = false) : invocations actions = 0 := by
  rw [invocations, List.countP_eq_zero]
  intro action member
  simp [each action member]

theorem Stores.invocations {stores rest : List Action} (each : Stores stores) :
    invocations (stores ++ rest) = invocations rest := by
  have none : stores.countP Action.isInvoke = 0 := by
    apply invocations_eq_zero
    intro action member
    obtain ⟨slot, text, rfl⟩ := each action member
    rfl
  rw [Sbmd.invocations, List.countP_append, none, Nat.zero_add]
  rfl

theorem invocations_direct (each : ∀ action ∈ actions, action.direct = true) : invocations actions = 0 := by
  apply invocations_eq_zero
  intro action member
  have direct := each action member
  cases action with
  | invoke handler arguments => contradiction
  | _ => rfl

theorem State.invocations_append {state next : State} {now call : Nat}
    (log : next.log = state.log ++ actions.map (Event.mk now call)) (other : Nat) :
    next.invocations other =
      state.invocations other + if call = other then Sbmd.invocations actions else 0 := by
  rw [invocations, log, List.countP_append, List.countP_map]
  congr 1
  by_cases same : call = other
  · rw [if_pos same]
    apply List.countP_congr
    intro action _
    simp [same]
  · rw [if_neg same, List.countP_eq_zero]
    intro action _
    simp [same]

end Counts

section Chains

theorem Stores.not_rearm {stores : List Action} (each : Stores stores) (next : PendingOperation) :
    .rearm next ∉ stores := by
  intro member
  obtain ⟨slot, text, same⟩ := each _ member
  contradiction

/-- The depth of an operation bounds the invocations of a chain step. -/
theorem Ends.invocations_le {script : Script} {index : Nat} {pending : PendingOperation}
    {actions : List Action} (ends : Ends script index pending actions)
    (within : pending.deferralDepth ≤ maxDeferralDepth) :
    pending.deferralDepth + invocations actions ≤ maxDeferralDepth ∧
      ∀ next, .rearm next ∈ actions → next.deferralDepth ≤ maxDeferralDepth ∧
        next.deferralDepth = pending.deferralDepth + invocations actions + 1 := by
  induction ends with
  | complete success each =>
      constructor
      · rw [each.invocations]
        exact within
      · simp [each.not_rearm]
  | rearm room =>
      rename_i callbacks
      constructor
      · exact within
      · intro next member
        cases List.mem_singleton.mp member
        exact ⟨room, rfl⟩
  | dispatch chained taken each =>
      rename_i entry send stores
      have silent : invocations (send :: stores ++ [.complete entry.id true]) = 0 := by
        rw [List.cons_append, invocations, List.countP_cons_of_neg]
        · exact each.invocations
        · rcases chained with rfl | rfl
          · simp [Action.isInvoke]
          · simp [Action.isInvoke]
      constructor
      · rw [silent]
        exact within
      · rcases chained with rfl | rfl
        · simp [each.not_rearm]
        · simp [each.not_rearm]
  | fail room cached =>
      constructor
      · rw [invocations_invoke]
        exact room
      · simp
  | invoke room reads cached rest ih =>
      obtain ⟨total, renewed⟩ := ih room
      rw [invocations_invoke]
      constructor
      · change _ + 1 + _ ≤ _ at total
        omega
      · intro next member
        obtain ⟨bound, depth⟩ := renewed next (by simpa using member)
        change next.deferralDepth = _ + 1 + _ + 1 at depth
        omega

/-- The depth of an operation bounds the invocations of an answer. -/
theorem Answers.invocations_le {script : Script} {pending : PendingOperation} {actions : List Action}
    (answers : Answers script pending actions) (within : pending.deferralDepth ≤ maxDeferralDepth) :
    pending.deferralDepth + invocations actions ≤ maxDeferralDepth + 1 ∧
      ∀ next, .rearm next ∈ actions → next.deferralDepth ≤ maxDeferralDepth ∧
        next.deferralDepth = pending.deferralDepth + invocations actions := by
  cases answers with
  | refuse =>
      constructor
      · exact Nat.le_succ_of_le within
      · simp
  | fail answers =>
      constructor
      · rw [invocations_invoke]
        exact Nat.succ_le_succ within
      · simp
  | proceed answers rest =>
      obtain ⟨total, renewed⟩ := rest.invocations_le within
      rw [invocations_invoke]
      constructor
      · omega
      · intro next member
        obtain ⟨bound, depth⟩ := renewed next (by simpa using member)
        omega

end Chains

section Reads

/-- Before the operation is parked, at most this many cached reads run a callback, and none of these
callbacks defers the operation. -/
def readsWithin (script : Script) : Nat → Nat → Bool
  | 0, index => !(script index).invokes
  | bound + 1, index => !(script index).invokes ||
      (!(script (index + 1)).requests && readsWithin script bound (index + 1))

theorem readsWithin_pos {script : Script} {bound index : Nat} (within : readsWithin script bound index = true)
    (invokes : (script index).invokes = true) :
    ∃ rest, bound = rest + 1 ∧ (script (index + 1)).requests = false ∧
      readsWithin script rest (index + 1) = true := by
  cases bound with
  | zero =>
      rw [readsWithin, invokes] at within
      contradiction
  | succ rest =>
      rw [readsWithin, invokes] at within
      exact ⟨rest, rfl, by simpa using within⟩

/-- The cached reads bound the invocations before the operation is parked. -/
theorem Begins.invocations_le {now index bound : Nat} {operation : Operation} {script : Script}
    {actions : List Action} (begins : Begins now operation script index actions)
    (within : readsWithin script bound index = true) :
    invocations actions ≤ bound ∧ ∀ request, .park request ∈ actions →
      (script index).requests = true ∧ invocations actions = 0 := by
  induction begins generalizing bound with
  | direct each =>
      constructor
      · rw [invocations_direct each]
        exact Nat.zero_le bound
      · exact fun request member => absurd (each _ member) (by simp [Action.direct])
  | park same later requests => exact ⟨Nat.zero_le bound, fun _ _ => ⟨requests, rfl⟩⟩
  | fail invokes =>
      obtain ⟨rest, rfl, _⟩ := readsWithin_pos within invokes
      constructor
      · rw [invocations_invoke]
        exact Nat.succ_le_succ (Nat.zero_le rest)
      · simp
  | invoke invokes rest ih =>
      obtain ⟨fewer, rfl, calm, later⟩ := readsWithin_pos within invokes
      obtain ⟨total, parks⟩ := ih later
      constructor
      · rw [invocations_invoke]
        exact Nat.succ_le_succ total
      · intro request member
        have requests := (parks request (by simpa using member)).1
        rw [calm] at requests
        contradiction

end Reads

section Runs

/-- The invocations of every call are within the bound, and those of a parked operation leave room for
the rest of its chain. -/
structure Bounded (state : State) : Prop where
  total : ∀ call, state.invocations call ≤ maxDeferralDepth + 2
  depths : ∀ pending ∈ state.pendingOperations, pending.deferralDepth ≤ maxDeferralDepth ∧
    state.invocations pending.operation.call ≤ pending.deferralDepth + 1

theorem Bounded.initial : Bounded State.initial where
  total := fun _ => Nat.zero_le _
  depths := by simp [State.initial]

/-- The cached reads of an operation before it is parked are within the bound. -/
def Input.readsBounded : Input → Bool
  | .connected _ _ script _ (.handler _) _ => readsWithin script (maxDeferralDepth + 1) 0
  | _ => true

theorem handleResourceOp_invocations_le {defaultTimeoutMs : Option UInt32} {now fuel id : Nat}
    {operation : Operation} {script : Script} {opType : String} {handler : ResourceHandler}
    {server : State.ServerAnswer} {actions : List Action}
    (handled : handleResourceOp defaultTimeoutMs now operation script fuel opType handler = some actions)
    (calm : (Input.connected id now script fuel handler server).readsBounded = true) :
    invocations actions ≤ maxDeferralDepth + 2 ∧
      ∀ request, .park request ∈ actions → invocations actions = 1 := by
  rcases handleResourceOp_begins handled with direct | ⟨function, arguments, rest, rfl, rfl, begins⟩
  · constructor
    · rw [invocations_direct direct]
      exact Nat.zero_le _
    · exact fun request member => absurd (direct _ member) (by simp [Action.direct])
  · obtain ⟨total, parks⟩ := begins.invocations_le calm
    rw [invocations_invoke]
    constructor
    · exact Nat.succ_le_succ total
    · intro request member
      rw [(parks request (by simpa using member)).2]

/-- A call without a connection has no invocations. -/
theorem Filed.invocations_eq_zero {state : State} (filed : Filed state) {id : Nat}
    (waits : id ∈ state.unconnected) : state.invocations id = 0 := by
  rw [State.invocations, List.countP_eq_zero]
  intro event member
  simp [filed.fresh_call member waits]

theorem Bounded.step {defaultTimeoutMs : Option UInt32} {state next : State} {input : Input}
    (filed : Filed state) (bounded : Bounded state)
    (calm : input.readsBounded = true) (stepped : step defaultTimeoutMs state input = some next) :
    Bounded next := by
  cases step_progress stepped with
  | idle log pendings =>
      have same (call : Nat) : next.invocations call = state.invocations call := by
        rw [State.invocations, log]
        rfl
      constructor
      · intro call
        rw [same]
        exact bounded.total call
      · rw [pendings]
        intro pending member
        rw [same]
        exact bounded.depths pending member
  | begin waits own handled log pendings =>
      rename_i now fuel id script handler server operation opType actions
      have count := State.invocations_append log
      have zero := filed.invocations_eq_zero waits
      obtain ⟨total, parks⟩ := handleResourceOp_invocations_le handled calm
      constructor
      · intro call
        rw [count]
        by_cases same : id = call
        · subst same
          rw [if_pos rfl, zero]
          omega
        · rw [if_neg same]
          exact bounded.total call
      · refine filed.forall_begun waits own handled pendings ?_ ?_
        · intro pending member other
          rw [count, if_neg other, Nat.add_zero]
          exact bounded.depths pending member
        · intro request pendingId promise inside call
          constructor
          · exact Nat.zero_le _
          · rw [call, count, if_pos rfl, zero, parks request inside]
            exact le_rfl
  | answer found target known handled log pendings =>
      rename_i now fuel answer script context pending actions
      have count := State.invocations_append log
      have entry := Cells.read_mem known
      obtain ⟨within, used⟩ := bounded.depths pending entry
      obtain ⟨total, renewals⟩ := (handleDeferredAnswer_answers handled).invocations_le within
      constructor
      · intro call
        rw [count]
        by_cases same : pending.operation.call = call
        · rw [if_pos same, ← same]
          omega
        · rw [if_neg same]
          exact bounded.total call
      · refine filed.forall_answered known pendings ?_ ?_
        · intro other member apart
          rw [count, if_neg apart, Nat.add_zero]
          exact bounded.depths other member
        · intro renewed inside same
          obtain ⟨bound, depth⟩ := renewals renewed inside
          rw [same.operation, count, if_pos rfl]
          constructor
          · exact bound
          · omega

end Runs

section Termination
variable {defaultTimeoutMs : Option UInt32} {script : Script}

/-- The depth leaves enough fuel for the rest of a chain. -/
theorem continueDeferredChain_isSome {fuel index : Nat} {pending : PendingOperation}
    {terminal : Terminal} {device : Device}
    (enough : maxDeferralDepth ≤ pending.deferralDepth + fuel) :
    (continueDeferredChain script fuel index pending terminal device).isSome = true := by
  fun_induction continueDeferredChain script fuel index pending terminal device with
  | case14 _ _ _ room =>
      exact absurd enough room
  | case15 _ _ _ _ _ _ _ _ _ _ _ _ _ _ _ _ ih =>
      rw [Option.isSome_map]
      apply ih
      change maxDeferralDepth ≤ _ + 1 + _
      omega
  | _ => rfl

theorem handleDeferredAnswer_isSome {fuel now : Nat} {pending : PendingOperation}
    {answer : Except ErrorData ResponseData} (enough : maxDeferralDepth ≤ fuel) :
    (handleDeferredAnswer script fuel now pending answer).isSome = true := by
  have chain {index : Nat} {terminal : Terminal} {device : Device} :
      (continueDeferredChain script fuel index pending terminal device).isSome = true :=
    continueDeferredChain_isSome (Nat.le_add_left_of_le enough)
  cases answer with
  | ok response =>
      change (handleDeferredCommandResponse script fuel now pending response).isSome = true
      unfold handleDeferredCommandResponse
      split
      · split
        · rfl
        · rfl
      · split
        · rfl
        · dsimp only
          split
          · rfl
          · rw [Option.isSome_map, chain]
  | error error =>
      change (handleDeferredCommandError script fuel pending error).isSome = true
      unfold handleDeferredCommandError
      split
      · rfl
      · dsimp only
        split
        · rfl
        · split
          · rfl
          · rw [Option.isSome_map, chain]

/-- The bound on the cached reads is enough fuel. -/
theorem executeTerminal_isSome {now : Nat} {operation : Operation}
    {fuel next index : Nat} {terminal : Terminal} {device : Device} {bound : Nat}
    (given : (script index).result = some terminal) (source : device = (script index).device)
    (place : next = index + 1) (within : readsWithin script bound index = true) (enough : bound ≤ fuel) :
    (executeTerminal defaultTimeoutMs now operation script fuel next terminal device).isSome = true := by
  fun_induction executeTerminal defaultTimeoutMs now operation script fuel next terminal device
    generalizing index bound with
  | case9 _ _ _ _ _ _ resolved _ _ selected =>
      have invokes : (script index).invokes = true := by
        subst source
        simp [Reply.invokes, given, resolved, selected]
      obtain ⟨rest, rfl, _⟩ := readsWithin_pos within invokes
      contradiction
  | case10 _ _ _ _ _ _ resolved _ _ selected _ found _ ih =>
      have invokes : (script index).invokes = true := by
        subst source
        simp [Reply.invokes, given, resolved, selected]
      obtain ⟨rest, rfl, _, later⟩ := readsWithin_pos within invokes
      subst place
      rw [Option.isSome_map]
      exact ih found rfl rfl later (Nat.le_of_succ_le_succ enough)
  | _ => rfl

theorem handleResourceOp_isSome {now fuel id : Nat}
    {operation : Operation} {opType : String} {handler : ResourceHandler}
    {server : State.ServerAnswer}
    (calm : (Input.connected id now script fuel handler server).readsBounded = true)
    (enough : maxDeferralDepth + 1 ≤ fuel) :
    (handleResourceOp defaultTimeoutMs now operation script fuel opType handler).isSome = true := by
  cases handler with
  | deviceMissing => rfl
  | resourceMissing => rfl
  | noHandler value =>
      simp only [handleResourceOp]
      split
      · rfl
      · rfl
  | handler function =>
      simp only [handleResourceOp]
      split
      · rfl
      · rename_i terminal given
        rw [Option.isSome_map]
        exact executeTerminal_isSome given rfl rfl calm enough

/-- An answer of a command has a next state. -/
theorem commandAnswer_isSome {state : State} {context : CommandContext}
    {now fuel : Nat} {answer : Except ErrorData ResponseData}
    (found : Cells.read CommandContext.sender context.sender state.activeCommandContexts = some context)
    (unanswered : context.answered = false) (enough : maxDeferralDepth ≤ fuel) :
    (step defaultTimeoutMs state (.commandAnswer context.sender now answer script fuel)).isSome = true := by
  rw [step, found, Option.bind_some, unanswered, if_neg Bool.false_ne_true]
  unfold commandAnswerStep
  dsimp only
  split
  · split
    · rfl
    · rw [Option.isSome_map, handleDeferredAnswer_isSome enough]
  · split
    · rfl
    · rfl

/-- A connection has a next state. -/
theorem connected_isSome {state : State} {call : Call} {now fuel : Nat}
    {handler : ResourceHandler} {server : State.ServerAnswer}
    (found : state.call call.id = some call) (unconnected : call.connected = none)
    (running : call.phase.isReturned = false)
    (calm : (Input.connected call.id now script fuel handler server).readsBounded = true)
    (enough : maxDeferralDepth + 1 ≤ fuel) :
    (step defaultTimeoutMs state (.connected call.id now script fuel handler server)).isSome = true := by
  rw [step, found, Option.bind_some, if_pos ⟨unconnected, by simp [running]⟩]
  unfold connectedStep
  split
  · rw [Option.isSome_map]
    exact handleResourceOp_isSome calm enough
  · rfl

end Termination

/-- In every run with bounded cached reads, the handlers of a call run at most twelve times, and every
connection and every answer ends with enough fuel for these invocations. -/
theorem run_invocations_le {defaultTimeoutMs : Option UInt32} {inputs : List Input} {final : State}
    (calm : ∀ input ∈ inputs, input.readsBounded = true)
    (reached : run defaultTimeoutMs State.initial inputs = some final) :
    (∀ call, final.invocations call ≤ maxDeferralDepth + 2) ∧
      (∀ context ∈ final.activeCommandContexts, context.answered = false →
        ∀ now answer script fuel, maxDeferralDepth ≤ fuel →
          (step defaultTimeoutMs final
            (.commandAnswer context.sender now answer script fuel)).isSome = true) ∧
      (∀ call, final.call call.id = some call → call.connected = none → call.phase.isReturned = false →
        ∀ now script fuel handler server,
          (Input.connected call.id now script fuel handler server).readsBounded = true →
          maxDeferralDepth + 1 ≤ fuel →
          (step defaultTimeoutMs final
            (.connected call.id now script fuel handler server)).isSome = true) := by
  obtain ⟨booked, _, bounded⟩ := (Runs.Guarded.of_forall _ calm State.initial).invariant _
    (fun state => Booked [] state ∧ Filed state ∧ Bounded state)
    (fun _ _ _ ⟨booked, filed, bounded⟩ calm stepped =>
      ⟨booked.step stepped, filed.step booked stepped, bounded.step filed calm stepped⟩)
    ⟨Booked.initial, Filed.initial, Bounded.initial⟩ reached
  refine ⟨bounded.total, ?_, ?_⟩
  · intro context member unanswered now answer script fuel enough
    exact commandAnswer_isSome (Cells.read_of_mem booked.flights.senders member) unanswered enough
  · intro call found unconnected running now script fuel handler server calm enough
    exact connected_isSome found unconnected running calm enough

/-- Every handler of this chain defers the operation again. -/
def deepInputs : List Input :=
  .start (.resource "execute") :: .connected 0 0 requestScript 0 (.handler 0) .missing ::
    (List.range 11).map fun hop => .commandAnswer (hop + 2) 10 (.ok ⟨6, 0, ""⟩) requestScript 0

theorem run_invocations_le_deep : ∃ final, run none State.initial deepInputs = some final ∧
    final.invocations 0 = 12 ∧ ∀ call, final.invocations call ≤ maxDeferralDepth + 2 := by
  have computed : (run none State.initial deepInputs).map (·.invocations 0) = some 12 := by
    decide +kernel
  have calm : ∀ input ∈ deepInputs, input.readsBounded = true := by decide
  obtain ⟨final, reached, twelve⟩ := Option.map_eq_some_iff.mp computed
  exact ⟨final, reached, twelve, (run_invocations_le calm reached).1⟩

/-- The first results of this script are cached reads. -/
def readScript (reads : Nat) : Script := fun index =>
  if index < reads then ⟨some (.readAttribute ⟨6, 0, none⟩ ⟨some 1, some 2, none⟩ none), sampleDevice⟩
  else ⟨some (.success ""), sampleDevice⟩

/-- Twelve cached reads run thirteen handlers, and an endless sequence of cached reads never returns. -/
theorem not_run_invocations_le : (∃ inputs final, run none State.initial inputs = some final ∧
      ¬final.invocations 0 ≤ maxDeferralDepth + 2) ∧
    ∃ started script, run none State.initial [.start (.resource "read")] = some started ∧
      ∀ fuel, step none started (.connected 0 0 script fuel (.handler 0) .missing) = none := by
  constructor
  · have computed : (run none State.initial [.start (.resource "read"),
        .connected 0 0 (readScript 12) 12 (.handler 0) .missing]).map (·.invocations 0) = some 13 := by
      decide
    obtain ⟨final, reached, thirteen⟩ := Option.map_eq_some_iff.mp computed
    refine ⟨_, final, reached, ?_⟩
    rw [thirteen]
    decide
  · refine ⟨_, fun _ => (readScript 1) 0, rfl, ?_⟩
    have endless (operation : Operation) (fuel index : Nat) :
        executeTerminal none 0 operation (fun _ => (readScript 1) 0) fuel index
          (.readAttribute ⟨6, 0, none⟩ ⟨some 1, some 2, none⟩ none) sampleDevice = none := by
      induction fuel generalizing index with
      | zero => rfl
      | succ fuel ih =>
          change (executeTerminal none 0 operation _ fuel (index + 1) _ sampleDevice).map _ = none
          rw [ih]
          rfl
    intro fuel
    change (Option.map _ ((executeTerminal none 0 _ _ fuel 1 _ sampleDevice).map _)) = none
    rw [endless]
    rfl

end Barton.Sbmd
