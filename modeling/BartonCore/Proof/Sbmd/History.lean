import BartonCore.Proof.Sbmd.Bookkeeping

namespace Barton.Sbmd

/-- The call has no result of its connection attempt yet. -/
def Call.unconnected (call : Call) : Option Nat := if call.connected = none then some call.id else none

/-- The calls that wait for a connection. -/
def State.unconnected (state : State) : List Nat := state.calls.filterMap Call.unconnected

section Frame
variable (state : State)

theorem State.unconnected_emplaceFront (call : Nat) (value : Option Bool) :
    (state.emplaceFront call value).unconnected = state.unconnected :=
  Cells.filterMap_write _ _ fun _ _ _ => rfl

theorem State.completePendingOperation_frame (id : Nat) (success : Bool) :
    (state.completePendingOperation id success).calls = state.calls ∧
      (state.completePendingOperation id success).nextAddress = state.nextAddress := by
  unfold completePendingOperation
  split
  · exact ⟨rfl, rfl⟩
  · exact ⟨rfl, rfl⟩

theorem State.parkOperation_frame (request : Request) :
    (state.parkOperation request).unconnected = state.unconnected ∧
      state.nextAddress ≤ (state.parkOperation request).nextAddress := by
  have first := state.unconnected_emplaceFront request.operation.call none
  unfold parkOperation
  dsimp only
  split
  · constructor
    · exact (unconnected_emplaceFront _ _ _).trans first
    · exact Nat.le_succ_of_le (Nat.le_succ _)
  · split
    · exact ⟨first, Nat.le_succ_of_le (Nat.le_succ _)⟩
    · have frame := completePendingOperation_frame
      rw [unconnected, (frame _ _ _).1, (frame _ _ _).2]
      exact ⟨first, Nat.le_succ _⟩

theorem State.perform_frame (call : Nat) (action : Action) :
    (state.perform call action).unconnected = state.unconnected ∧
      state.nextAddress ≤ (state.perform call action).nextAddress := by
  have emplaced (value : Option Bool) := state.unconnected_emplaceFront call value
  cases action with
  | invoke | writeSlot => exact ⟨rfl, le_rfl⟩
  | failOperation | readyPromise => exact ⟨emplaced _, Nat.le_succ _⟩
  | sendCommand sent | sendWrite sent =>
      cases sent with
      | true => exact ⟨emplaced none, Nat.le_succ_of_le (Nat.le_succ _)⟩
      | false => exact ⟨emplaced _, Nat.le_succ _⟩
  | chainedCommand | chainedWrite => exact ⟨rfl, Nat.le_succ_of_le (Nat.le_succ _)⟩
  | park request => exact state.parkOperation_frame request
  | rearm pending => exact ⟨rfl, Nat.le_succ _⟩
  | complete id success =>
      have frame := state.completePendingOperation_frame id success
      constructor
      · rw [unconnected, perform, frame.1]
        rfl
      · rw [perform, frame.2]

/-- Recorded actions connect no call and use new addresses only. -/
theorem State.recordAll_frame (now call : Nat) (actions : List Action) :
    (state.recordAll now call actions).unconnected = state.unconnected ∧
      state.nextAddress ≤ (state.recordAll now call actions).nextAddress := by
  induction actions generalizing state with
  | nil => exact ⟨rfl, le_rfl⟩
  | cons action rest ih =>
      have first := state.perform_frame call action
      have later := ih (state.record now call action)
      exact ⟨later.1.trans first.1, first.2.trans later.2⟩

/-- A connection result removes its call. -/
theorem State.mem_unconnected_setConnected {id call : Nat} {success : Bool}
    (member : call ∈ (state.setConnected id success).unconnected) :
    call ∈ state.unconnected ∧ call ≠ id := by
  obtain ⟨after, written, waits⟩ := List.mem_filterMap.mp member
  obtain ⟨before, inside, rfl⟩ := List.mem_map.mp written
  by_cases same : before.id = id
  · rw [if_pos same] at waits
    contradiction
  · rw [if_neg same] at waits
    have equal : before.id = call := by
      unfold Call.unconnected at waits
      split at waits
      · exact Option.some.inj waits
      · contradiction
    exact ⟨List.mem_filterMap.mpr ⟨before, inside, waits⟩, equal ▸ same⟩

theorem State.unconnected_setPhase (id : Nat) (phase : Phase) :
    (state.setPhase id phase).unconnected = state.unconnected :=
  Cells.filterMap_write _ _ fun _ _ _ => rfl

end Frame

section Progress
variable {actions : List Action} {script : Script}

theorem State.completePendingOperation_pendingOperations (state : State) (id : Nat) (success : Bool) :
    (state.completePendingOperation id success).pendingOperations =
      Cells.delete PendingOperation.id id state.pendingOperations := by
  unfold completePendingOperation
  split
  · rename_i missing
    rw [Cells.delete_of_absent (Cells.read_eq_none.mp missing)]
  · rfl

/-- A registered operation stays when its command is sent. -/
theorem State.parkOperation_pendingOperations (state : State) (request : Request) :
    (state.parkOperation request).pendingOperations = state.pendingOperations ∨
      ∃ id promise, (state.parkOperation request).pendingOperations =
        state.pendingOperations ++ [request.pendingOperation id promise] := by
  unfold parkOperation
  dsimp only
  split
  · exact .inl rfl
  · rename_i missing
    split
    · exact .inr ⟨_, _, rfl⟩
    · left
      have absent : ∀ other ∈ state.pendingOperations,
          other.id ≠ (request.pendingOperation state.nextPendingId state.nextAddress).id :=
        Cells.read_eq_none.mp missing
      rw [completePendingOperation_pendingOperations]
      exact Cells.delete_append_fresh absent

/-- The effects before parking add at most one pending operation. -/
theorem Begins.pendingOperations {now index : Nat} {operation : Operation}
    (begins : Begins now operation script index actions) (state : State)
    (call : Nat) :
    (state.recordAll now call actions).pendingOperations = state.pendingOperations ∨
      ∃ request id promise, .park request ∈ actions ∧
        (state.recordAll now call actions).pendingOperations =
          state.pendingOperations ++ [request.pendingOperation id promise] := by
  induction begins generalizing state with
  | direct each =>
      left
      exact state.recordAll_pendingOperations _ _ fun action member =>
        Action.keeps_of_direct (each action member)
  | park same later requests =>
      rcases state.parkOperation_pendingOperations _ with kept | ⟨id, promise, added⟩
      · exact .inl kept
      · exact .inr ⟨_, id, promise, List.mem_singleton_self _, added⟩
  | fail invokes => exact .inl rfl
  | invoke invokes rest ih =>
      rcases ih (state.record now call (.invoke _ _)) with kept | ⟨request, id, promise, member, added⟩
      · exact .inl kept
      · exact .inr ⟨request, id, promise, List.mem_cons_of_mem _ member, added⟩

theorem handleResourceOp_pendingOperations {defaultTimeoutMs : Option UInt32} {now fuel : Nat}
    {operation : Operation} {opType : String} {handler : ResourceHandler}
    (handled : handleResourceOp defaultTimeoutMs now operation script fuel opType handler = some actions)
    (state : State) (call : Nat) :
    (state.recordAll now call actions).pendingOperations = state.pendingOperations ∨
      ∃ request id promise, .park request ∈ actions ∧
        (state.recordAll now call actions).pendingOperations =
          state.pendingOperations ++ [request.pendingOperation id promise] := by
  rcases handleResourceOp_begins handled with direct | ⟨function, arguments, rest, rfl, rfl, begins⟩
  · left
    exact state.recordAll_pendingOperations _ _ fun action member =>
      Action.keeps_of_direct (direct action member)
  · rcases begins.pendingOperations (state.record now call (.invoke function arguments)) call with
      kept | ⟨request, id, promise, member, added⟩
    · exact .inl kept
    · exact .inr ⟨request, id, promise, List.mem_cons_of_mem _ member, added⟩

/-- The operation of an answer leaves, or it waits for its next command. -/
theorem Answers.pendingOperations {pending : PendingOperation}
    (answers : Answers script pending actions) (state : State) (now call : Nat) :
    (state.recordAll now call actions).pendingOperations =
        Cells.delete PendingOperation.id pending.id state.pendingOperations ∨
      ∃ next, .rearm next ∈ actions ∧ SameOperation pending next ∧
        (state.recordAll now call actions).pendingOperations =
          Cells.write PendingOperation.id pending.id (fun _ => next) state.pendingOperations := by
  obtain ⟨quiets, last, rfl, each, closing⟩ := answers.closes
  have kept := state.recordAll_pendingOperations now call fun action member =>
    Action.keeps_of_quiet (each action member)
  rw [State.recordAll_append]
  cases closing with
  | complete success =>
      left
      rw [← kept]
      exact State.completePendingOperation_pendingOperations _ _ _
  | rearm same =>
      rename_i next
      right
      refine ⟨next, by simp, same, ?_⟩
      rw [← kept, ← same.id]
      rfl

/-- A handler may park one operation. -/
def Parks (state : State) (actions : List Action) (next : State) : Prop :=
  next.pendingOperations = state.pendingOperations ∨
    ∃ request pendingId promise, .park request ∈ actions ∧
      next.pendingOperations = state.pendingOperations ++ [request.pendingOperation pendingId promise]

/-- An answer ends its pending operation or renews it. -/
def Resumes (state : State) (pending : PendingOperation) (actions : List Action) (next : State) : Prop :=
  next.pendingOperations = Cells.delete PendingOperation.id pending.id state.pendingOperations ∨
    ∃ renewed, .rearm renewed ∈ actions ∧ SameOperation pending renewed ∧
      next.pendingOperations = Cells.write PendingOperation.id pending.id (fun _ => renewed) state.pendingOperations

/-- A step leaves the log alone, begins an operation, or handles an answer. -/
inductive Progress (defaultTimeoutMs : Option UInt32) (state : State) : Input → State → Prop where
  | idle {input : Input} {next : State} (log : next.log = state.log)
      (pendings : next.pendingOperations = state.pendingOperations) :
      Progress defaultTimeoutMs state input next
  | begin {now fuel id : Nat} {script : Script} {handler : ResourceHandler}
      {server : State.ServerAnswer} {operation : Operation} {opType : String} {actions : List Action}
      {next : State} (waits : id ∈ state.unconnected) (own : operation.call = id)
      (handled : handleResourceOp defaultTimeoutMs now operation script fuel opType handler = some actions)
      (log : next.log = state.log ++ actions.map (Event.mk now id))
      (pendings : Parks state actions next) :
      Progress defaultTimeoutMs state (.connected id now script fuel handler server) next
  | answer {now fuel : Nat} {answer : Except ErrorData ResponseData} {script : Script}
      {context : CommandContext} {pending : PendingOperation} {actions : List Action} {next : State}
      (found : Cells.read CommandContext.sender context.sender state.activeCommandContexts = some context)
      (target : context.target = .deferred pending.id) (known : state.pending pending.id = some pending)
      (handled : handleDeferredAnswer script fuel now pending answer = some actions)
      (log : next.log = state.log ++ actions.map (Event.mk now pending.operation.call))
      (pendings : Resumes state pending actions next) :
      Progress defaultTimeoutMs state (.commandAnswer context.sender now answer script fuel) next

/-- The log, the pending operations, and the connections stay as they are. -/
structure Still (state next : State) : Prop where
  log : next.log = state.log
  pendings : next.pendingOperations = state.pendingOperations
  unconnected : next.unconnected = state.unconnected
  addresses : state.nextAddress ≤ next.nextAddress

theorem Still.startStored (state : State) (call : Nat) (kind : StoredKind)
    (answer : State.ServerAnswer) : Still state (state.startStored call kind answer) := by
  have emplaced (value : Option Bool) := state.unconnected_emplaceFront call value
  cases answer with
  | missing =>
      rw [State.startStored]
      split
      · exact ⟨rfl, rfl, rfl, le_rfl⟩
      · exact ⟨rfl, rfl, emplaced _, Nat.le_succ _⟩
  | refused => exact ⟨rfl, rfl, emplaced none, Nat.le_succ _⟩
  | accepted => exact ⟨rfl, rfl, emplaced none, Nat.le_succ_of_le (Nat.le_succ _)⟩

theorem Still.onDeviceWorkCompleted {state next : State} (still : Still state next) (promise : Nat)
    (success : Bool) : Still state (next.onDeviceWorkCompleted promise success) := by
  unfold State.onDeviceWorkCompleted
  split
  · exact ⟨still.log, still.pendings, still.unconnected, still.addresses⟩
  · exact still

theorem Still.finishStored (state : State) (work : StoredWork) (success : Bool) :
    Still state (state.finishStored work success) := by
  have removed : Still state { state with
      storedWork := Cells.delete StoredWork.id work.id state.storedWork } := ⟨rfl, rfl, rfl, le_rfl⟩
  have touched : Still state (State.touch { state with
      storedWork := Cells.delete StoredWork.id work.id state.storedWork } (.call work.call)) :=
    ⟨rfl, rfl, rfl, le_rfl⟩
  unfold State.finishStored
  dsimp only
  split
  · split
    · exact touched.onDeviceWorkCompleted _ _
    · exact removed.onDeviceWorkCompleted _ _
  · split
    · exact touched.onDeviceWorkCompleted _ _
    · exact ⟨rfl, rfl, rfl, le_rfl⟩
  · exact removed.onDeviceWorkCompleted _ _
  · exact removed.onDeviceWorkCompleted _ _

theorem Still.commandDone (state : State) (context : CommandContext) :
    Still state (commandDoneStep state context) := by
  unfold commandDoneStep
  split
  · exact ⟨rfl, rfl, rfl, le_rfl⟩
  · exact ⟨rfl, rfl, rfl, le_rfl⟩

theorem Still.finishWaiting (state : State) (call : Call) : Still state (finishWaitingStep state call) := by
  unfold finishWaitingStep
  split
  · exact ⟨rfl, rfl, State.unconnected_setPhase _ _ _, le_rfl⟩
  · exact ⟨rfl, rfl, State.unconnected_setPhase _ _ _, le_rfl⟩

theorem State.mem_unconnected {state : State} {call : Call} (found : state.call call.id = some call)
    (unconnected : call.connected = none) : call.id ∈ state.unconnected :=
  List.mem_filterMap.mpr ⟨call, Cells.read_mem found, by rw [Call.unconnected, if_pos unconnected]⟩

/-- Every step makes progress in one of the three ways. -/
theorem step_progress {defaultTimeoutMs : Option UInt32} {state next : State} {input : Input}
    (stepped : step defaultTimeoutMs state input = some next) :
    Progress defaultTimeoutMs state input next := by
  cases step_stepped stepped with
  | connectedResource found unconnected running handled =>
      exact .begin (State.mem_unconnected found unconnected) rfl handled (State.recordAll_log _ _ _ _)
        (handleResourceOp_pendingOperations handled state _)
  | connectedStored found unconnected running =>
      have still := Still.startStored
      exact .idle (still _ _ _ _).log (still _ _ _ _).pendings
  | finishWaiting found connected waiting =>
      have still := Still.finishWaiting state
      exact .idle (still _).log (still _).pendings
  | deferredAnswer found unanswered target known handled =>
      rename_i context pending actions
      exact .answer found target known handled (State.recordAll_log _ _ _ _)
        ((handleDeferredAnswer_answers handled).pendingOperations (state.answered context.sender) _ _)
  | commandDone found answered =>
      have still := Still.commandDone state
      exact .idle (still _).log (still _).pendings
  | storedDone success found =>
      have still := Still.finishStored state
      exact .idle (still _ _).log (still _ _).pendings
  | _ => exact .idle rfl rfl

end Progress

section Filed
variable {actions : List Action} {defaultTimeoutMs : Option UInt32} {state next : State} {script : Script}
  {handler : ResourceHandler} {operation : Operation} {input : Input}

/-- The deadline of a parking event. -/
def Event.deadline (event : Event) : Option Nat :=
  match event.action with
  | .park request => some request.overallDeadline
  | _ => none

theorem Event.park_of_deadline {event : Event} {deadline : Nat} (parks : event.deadline = some deadline) :
    ∃ request, event.action = .park request ∧ request.overallDeadline = deadline := by
  unfold Event.deadline at parks
  split at parks
  · rename_i request same
    exact ⟨request, same, Option.some.inj parks⟩
  · contradiction

/-- The log and the tables describe the same operations. -/
structure Filed (state : State) : Prop where
  callers : ∀ call ∈ state.unconnected, call < state.nextAddress
  past : ∀ event ∈ state.log, event.call < state.nextAddress
  begun : ∀ event ∈ state.log, event.call ∉ state.unconnected
  parked : ∀ pending ∈ state.pendingOperations, ∃ event ∈ state.log,
    event.call = pending.operation.call ∧ event.deadline = some pending.overallDeadline
  single : ∀ first ∈ state.log, ∀ second ∈ state.log, first.call = second.call →
    ∀ early late, first.deadline = some early → second.deadline = some late → early = late
  distinct : (state.pendingOperations.map fun pending => pending.operation.call).Nodup

theorem Filed.initial : Filed State.initial where
  callers := by simp [State.initial, State.unconnected]
  past := by simp [State.initial]
  begun := by simp [State.initial]
  parked := by simp [State.initial]
  single := by simp [State.initial]
  distinct := List.nodup_nil

/-- A step uses new addresses only, and its input connects its call. -/
structure Onward (state : State) (input : Input) (next : State) : Prop where
  addresses : state.nextAddress ≤ next.nextAddress
  calls : ∀ call ∈ next.unconnected,
    (call ∈ state.unconnected ∨ call = state.nextAddress ∧ call < next.nextAddress) ∧
      ∀ id now script fuel handler server, input = .connected id now script fuel handler server → call ≠ id

theorem Still.onward (still : Still state next)
    (other : ∀ id now script fuel handler server, input ≠ .connected id now script fuel handler server) :
    Onward state input next where
  addresses := still.addresses
  calls := by
    intro call member
    rw [still.unconnected] at member
    refine ⟨.inl member, ?_⟩
    intro id now script fuel handler server same
    exact absurd same (other id now script fuel handler server)

/-- The result of a connection attempt connects its call. -/
theorem Onward.setConnected {state middle : State} {id now fuel : Nat} {server : State.ServerAnswer}
    (unconnected : middle.unconnected = state.unconnected)
    (addresses : state.nextAddress ≤ middle.nextAddress) (success : Bool) :
    Onward state (.connected id now script fuel handler server) (middle.setConnected id success) where
  addresses := addresses
  calls := by
    intro call member
    have waits := middle.mem_unconnected_setConnected member
    rw [unconnected] at waits
    refine ⟨.inl waits.1, ?_⟩
    intro other _ _ _ _ _ same
    cases same
    exact waits.2

theorem step_onward (stepped : step defaultTimeoutMs state input = some next) : Onward state input next := by
  cases step_stepped stepped with
  | start work =>
      refine ⟨Nat.le_succ _, ?_⟩
      intro call member
      refine ⟨?_, by simp⟩
      change call ∈ (state.calls ++ [_]).filterMap Call.unconnected at member
      rw [List.filterMap_append, List.mem_append] at member
      rcases member with old | new
      · exact .inl old
      · obtain rfl := List.mem_singleton.mp new
        exact .inr ⟨rfl, Nat.lt_succ_self _⟩
  | connectedResource found unconnected running handled =>
      have frame := state.recordAll_frame
      exact .setConnected (frame _ _ _).1 (frame _ _ _).2 true
  | connectedStored found unconnected running =>
      have still := Still.startStored state
      exact .setConnected (still _ _ _).unconnected (still _ _ _).addresses true
  | connectionFailed found unconnected running =>
      refine ⟨le_rfl, ?_⟩
      intro call member
      exact ⟨.inl (state.mem_unconnected_setConnected member).1, by simp⟩
  | connectionTimeout | abortConnection =>
      apply Still.onward
      · exact ⟨rfl, rfl, state.unconnected_setPhase _ _, le_rfl⟩
      · simp
  | finishWaiting found connected waiting => exact (Still.finishWaiting state _).onward (by simp)
  | deferredAnswer found unanswered target known handled =>
      rename_i context pending actions
      have frame := (state.answered context.sender).recordAll_frame
      refine ⟨(frame _ _ _).2, ?_⟩
      intro call member
      rw [(frame _ _ _).1] at member
      exact ⟨.inl member, by simp⟩
  | commandDone found answered => exact (Still.commandDone state _).onward (by simp)
  | storedDone success found => exact (Still.finishStored state _ _).onward (by simp)
  | _ =>
      apply Still.onward
      · exact ⟨rfl, rfl, rfl, le_rfl⟩
      · simp

/-- A new event belongs to the call of its step. -/
theorem mem_events {event : Event} {log : List Event} {now call : Nat}
    (member : event ∈ log ++ actions.map (Event.mk now call)) :
    event ∈ log ∨ ∃ action ∈ actions, event = ⟨now, call, action⟩ := by
  rcases List.mem_append.mp member with old | new
  · exact .inl old
  · obtain ⟨action, inside, rfl⟩ := List.mem_map.mp new
    exact .inr ⟨action, inside, rfl⟩

/-- At most one request parks an operation, and it leaves time for an answer. -/
theorem Begins.parked {now index : Nat} (begins : Begins now operation script index actions) {request : Request}
    (member : .park request ∈ actions) :
    request.operation = operation ∧ now ≤ request.overallDeadline ∧
      ∀ other, .park other ∈ actions → other = request := by
  induction begins with
  | direct each => exact absurd (each _ member) (by simp [Action.direct])
  | park same later requests =>
      cases List.mem_singleton.mp member
      refine ⟨same, later, ?_⟩
      intro other again
      cases List.mem_singleton.mp again
      rfl
  | fail invokes => simp at member
  | invoke invokes rest ih => simpa using ih (by simpa using member)

theorem handleResourceOp_parked {now fuel : Nat} {opType : String}
    (handled : handleResourceOp defaultTimeoutMs now operation script fuel opType handler = some actions)
    {request : Request} (member : .park request ∈ actions) :
    request.operation = operation ∧ now ≤ request.overallDeadline ∧
      ∀ other, .park other ∈ actions → other = request := by
  rcases handleResourceOp_begins handled with direct | ⟨function, arguments, rest, rfl, rfl, begins⟩
  · exact absurd (direct _ member) (by simp [Action.direct])
  · simpa using begins.parked (by simpa using member)

/-- An answer parks no operation. -/
theorem Answers.not_park {pending : PendingOperation}
    (answers : Answers script pending actions) (request : Request) : .park request ∉ actions := by
  obtain ⟨quiets, last, rfl, each, closing⟩ := answers.closes
  intro member
  rcases List.mem_append.mp member with inside | final
  · exact absurd (each _ inside) (by simp [Action.quiet])
  · rw [List.mem_singleton] at final
    subst final
    cases closing

/-- Two entries with one id are the same. -/
theorem Booked.known_unique {state : State} (booked : Booked [] state) {pending other : PendingOperation}
    (known : state.pending pending.id = some pending) (member : other ∈ state.pendingOperations)
    (same : other.id = pending.id) : other = pending := by
  have found := Cells.read_of_mem booked.flights.ids member
  rw [same] at found
  exact Option.some.inj (found.symm.trans known)

/-- The entry of an id after a step is a new one or an old one. -/
theorem mem_renewed {cells : List PendingOperation} {id : Nat} {renewed cell : PendingOperation}
    (member : cell ∈ Cells.write PendingOperation.id id (fun _ => renewed) cells) :
    cell = renewed ∨ cell ∈ cells := by
  obtain ⟨before, inside, rfl⟩ := List.mem_map.mp member
  split
  · exact .inl rfl
  · exact .inr inside

section Step
variable {state next : State} {input : Input}

theorem Onward.callers (onward : Onward state input next) (filed : Filed state) :
    ∀ call ∈ next.unconnected, call < next.nextAddress := by
  intro call member
  rcases (onward.calls call member).1 with old | new
  · exact Nat.lt_of_lt_of_le (filed.callers call old) onward.addresses
  · exact new.2

/-- An old event stays after the beginning of its call. -/
theorem Onward.begun (onward : Onward state input next) (filed : Filed state)
    {event : Event} (member : event ∈ state.log) :
    event.call < next.nextAddress ∧ event.call ∉ next.unconnected := by
  have past := filed.past event member
  refine ⟨Nat.lt_of_lt_of_le past onward.addresses, ?_⟩
  intro waits
  rcases (onward.calls _ waits).1 with old | new
  · exact filed.begun event member old
  · exact Nat.ne_of_lt past new.1

theorem Filed.idle (filed : Filed state) (onward : Onward state input next)
    (log : next.log = state.log) (pendings : next.pendingOperations = state.pendingOperations) :
    Filed next where
  callers := onward.callers filed
  past := by
    rw [log]
    exact fun event member => (onward.begun filed member).1
  begun := by
    rw [log]
    exact fun event member => (onward.begun filed member).2
  parked := by
    rw [log, pendings]
    exact filed.parked
  single := by
    rw [log]
    exact filed.single
  distinct := by
    rw [pendings]
    exact filed.distinct

/-- The events of a call that waits for its connection are new. -/
theorem Filed.fresh_call (filed : Filed state) {event : Event} {id : Nat} (member : event ∈ state.log)
    (waits : id ∈ state.unconnected) : event.call ≠ id :=
  fun same => filed.begun event member (same ▸ waits)

theorem Filed.begin {defaultTimeoutMs : Option UInt32} {now fuel id : Nat} {script : Script}
    {handler : ResourceHandler} {server : State.ServerAnswer} {operation : Operation} {opType : String}
    {actions : List Action} (filed : Filed state)
    (onward : Onward state (.connected id now script fuel handler server) next)
    (waits : id ∈ state.unconnected) (own : operation.call = id)
    (handled : handleResourceOp defaultTimeoutMs now operation script fuel opType handler = some actions)
    (log : next.log = state.log ++ actions.map (Event.mk now id))
    (pendings : Parks state actions next) : Filed next := by
  have kept : ∀ pending ∈ state.pendingOperations, ∃ event ∈ next.log,
      event.call = pending.operation.call ∧ event.deadline = some pending.overallDeadline := by
    intro pending member
    obtain ⟨event, inside, facts⟩ := filed.parked pending member
    exact ⟨event, log ▸ List.mem_append_left _ inside, facts⟩
  have others : ∀ pending ∈ state.pendingOperations, pending.operation.call ≠ id := by
    intro pending member same
    obtain ⟨event, inside, facts⟩ := filed.parked pending member
    exact filed.fresh_call inside waits (facts.1.trans same)
  constructor
  · exact onward.callers filed
  · rw [log]
    intro event member
    rcases mem_events member with old | ⟨action, inside, rfl⟩
    · exact (onward.begun filed old).1
    · exact Nat.lt_of_lt_of_le (filed.callers id waits) onward.addresses
  · rw [log]
    intro event member
    rcases mem_events member with old | ⟨action, inside, rfl⟩
    · exact (onward.begun filed old).2
    · exact fun again => (onward.calls id again).2 _ _ _ _ _ _ rfl rfl
  · intro pending member
    rcases pendings with same | ⟨request, pendingId, promise, inside, added⟩
    · exact kept pending (same ▸ member)
    · rw [added] at member
      rcases List.mem_append.mp member with old | new
      · exact kept pending old
      · cases List.mem_singleton.mp new
        refine ⟨_, log ▸ List.mem_append_right _ (List.mem_map_of_mem inside), ?_, rfl⟩
        change id = request.operation.call
        rw [(handleResourceOp_parked handled inside).1, own]
  · rw [log]
    intro first left second right same early late
    rcases mem_events left with old | ⟨action, inside, rfl⟩
    · rcases mem_events right with old' | ⟨action, inside, rfl⟩
      · exact filed.single first old second old' same early late
      · exact absurd same (filed.fresh_call old waits)
    · rcases mem_events right with old' | ⟨action', inside', rfl⟩
      · exact absurd same.symm (filed.fresh_call old' waits)
      · intro begins ends
        obtain ⟨request, rfl, rfl⟩ := Event.park_of_deadline begins
        obtain ⟨other, rfl, rfl⟩ := Event.park_of_deadline ends
        rw [(handleResourceOp_parked handled inside).2.2 other inside']
  · rcases pendings with same | ⟨request, pendingId, promise, inside, added⟩
    · rw [same]
      exact filed.distinct
    · rw [added]
      apply Cells.nodup_append_fresh filed.distinct
      intro pending member
      change pending.operation.call ≠ request.operation.call
      rw [(handleResourceOp_parked handled inside).1, own]
      exact others pending member

theorem Filed.answer {now fuel sender : Nat} {answer : Except ErrorData ResponseData} {script : Script}
    {pending : PendingOperation} {actions : List Action} (booked : Booked [] state) (filed : Filed state)
    (onward : Onward state (.commandAnswer sender now answer script fuel) next)
    (known : state.pending pending.id = some pending)
    (handled : handleDeferredAnswer script fuel now pending answer = some actions)
    (log : next.log = state.log ++ actions.map (Event.mk now pending.operation.call))
    (pendings : Resumes state pending actions next) :
    Filed next := by
  have parked : ∀ entry ∈ state.pendingOperations, ∃ event ∈ next.log,
      event.call = entry.operation.call ∧ event.deadline = some entry.overallDeadline := by
    intro entry member
    obtain ⟨event, inside, facts⟩ := filed.parked entry member
    exact ⟨event, log ▸ List.mem_append_left _ inside, facts⟩
  have silent : ∀ action ∈ actions, ∀ deadline,
      (⟨now, pending.operation.call, action⟩ : Event).deadline ≠ some deadline := by
    intro action inside deadline parks
    obtain ⟨request, rfl, _⟩ := Event.park_of_deadline parks
    exact (handleDeferredAnswer_answers handled).not_park request inside
  obtain ⟨origin, started, own, _⟩ := filed.parked pending (Cells.read_mem known)
  have begun := onward.begun filed started
  rw [own] at begun
  constructor
  · exact onward.callers filed
  · rw [log]
    intro event member
    rcases mem_events member with old | ⟨action, inside, rfl⟩
    · exact (onward.begun filed old).1
    · exact begun.1
  · rw [log]
    intro event member
    rcases mem_events member with old | ⟨action, inside, rfl⟩
    · exact (onward.begun filed old).2
    · exact begun.2
  · intro entry member
    rcases pendings with removed | ⟨renewed, _, same, written⟩
    · rw [removed] at member
      exact parked entry (Cells.mem_of_mem_delete member)
    · rw [written] at member
      rcases mem_renewed member with rfl | old
      · rw [same.operation, same.overallDeadline]
        exact parked pending (Cells.read_mem known)
      · exact parked entry old
  · rw [log]
    intro first left second right same early late begins ends
    rcases mem_events left with old | ⟨action, inside, rfl⟩
    · rcases mem_events right with old' | ⟨action, inside, rfl⟩
      · exact filed.single first old second old' same early late begins ends
      · exact absurd ends (silent action inside late)
    · exact absurd begins (silent action inside early)
  · rcases pendings with removed | ⟨renewed, _, same, written⟩
    · rw [removed]
      exact filed.distinct.sublist (List.filter_sublist.map _)
    · rw [written, Cells.map_write]
      · exact filed.distinct
      · intro entry member equal
        rw [booked.known_unique known member equal, same.operation]

end Step

theorem Filed.step (booked : Booked [] state) (filed : Filed state)
    (stepped : step defaultTimeoutMs state input = some next) : Filed next := by
  have onward := step_onward stepped
  cases step_progress stepped with
  | idle log pendings => exact filed.idle onward log pendings
  | begin waits own handled log pendings => exact filed.begin onward waits own handled log pendings
  | answer found target known handled log pendings =>
      exact filed.answer booked onward known handled log pendings

/-- The pending operations after the start of an operation are the old ones and the one that it parks. -/
theorem Filed.forall_begun {now fuel id : Nat} {opType : String}
    (filed : Filed state) (waits : id ∈ state.unconnected)
    (own : operation.call = id)
    (handled : handleResourceOp defaultTimeoutMs now operation script fuel opType handler = some actions)
    (pendings : Parks state actions next)
    {Holds : PendingOperation → Prop}
    (kept : ∀ pending ∈ state.pendingOperations, id ≠ pending.operation.call → Holds pending)
    (parked : ∀ request pendingId promise, .park request ∈ actions →
      (request.pendingOperation pendingId promise).operation.call = id →
      Holds (request.pendingOperation pendingId promise)) :
    ∀ pending ∈ next.pendingOperations, Holds pending := by
  have olds : ∀ pending ∈ state.pendingOperations, Holds pending := by
    intro pending member
    obtain ⟨event, inside, same, _⟩ := filed.parked pending member
    exact kept pending member fun equal => filed.fresh_call inside waits (same.trans equal.symm)
  rcases pendings with same | ⟨request, pendingId, promise, inside, added⟩
  · rw [same]
    exact olds
  · rw [added]
    intro pending member
    rcases List.mem_append.mp member with old | new
    · exact olds pending old
    · cases List.mem_singleton.mp new
      apply parked request pendingId promise inside
      rw [← own, ← (handleResourceOp_parked handled inside).1]
      rfl

/-- The pending operations after an answer are those of other calls and the renewed one. -/
theorem Filed.forall_answered {pending : PendingOperation}
    (filed : Filed state) (known : state.pending pending.id = some pending)
    (pendings : Resumes state pending actions next)
    {Holds : PendingOperation → Prop}
    (kept : ∀ other ∈ state.pendingOperations,
      pending.operation.call ≠ other.operation.call → Holds other)
    (rearmed : ∀ renewed, .rearm renewed ∈ actions → SameOperation pending renewed → Holds renewed) :
    ∀ other ∈ next.pendingOperations, Holds other := by
  have others : ∀ other ∈ state.pendingOperations, other.id ≠ pending.id → Holds other := by
    intro other member different
    refine kept other member fun same => different (congrArg _ ?_)
    exact List.inj_on_of_nodup_map filed.distinct member (Cells.read_mem known) same.symm
  rcases pendings with removed | ⟨renewed, inside, same, written⟩
  · rw [removed]
    intro other member
    have kept := List.mem_filter.mp member
    exact others other kept.1 (by simpa using kept.2)
  · rw [written]
    intro other member
    obtain ⟨before, old, rfl⟩ := List.mem_map.mp member
    by_cases equal : before.id = pending.id
    · rw [if_pos equal]
      exact rearmed renewed inside same
    · rw [if_neg equal]
      exact others before old equal

end Filed

section Closed

/-- The operation of a completion is not pending. -/
def Closed (state : State) : Prop :=
  ∀ event ∈ state.log, ∀ id success, event.action = .complete id success →
    ∀ pending ∈ state.pendingOperations, pending.operation.call ≠ event.call

/-- An answer that completes its operation does not renew it. -/
theorem Answers.not_rearm {script : Script} {pending renewed : PendingOperation} {actions : List Action}
    (answers : Answers script pending actions) {id : Nat} {success : Bool}
    (completes : .complete id success ∈ actions) : .rearm renewed ∉ actions := by
  obtain ⟨quiets, last, rfl, each, _⟩ := answers.closes
  intro renews
  have final {action : Action} (member : action ∈ quiets ++ [last]) (loud : action.quiet = false) : action = last := by
    rcases List.mem_append.mp member with inside | same
    · exact absurd (each action inside) (by simp [loud])
    · exact List.mem_singleton.mp same
  cases (final completes rfl).trans (final renews rfl).symm

theorem Closed.step {defaultTimeoutMs : Option UInt32} {state next : State} {input : Input}
    (closed : Closed state) (filed : Filed state) (stepped : Sbmd.step defaultTimeoutMs state input = some next) :
    Closed next := by
  cases step_progress stepped with
  | idle log pendings =>
      unfold Closed
      rw [log, pendings]
      exact closed
  | begin waits own handled log pendings =>
      intro event member id success completes
      rw [log] at member
      rcases mem_events member with old | ⟨action, inside, rfl⟩
      · refine filed.forall_begun waits own handled pendings
          (fun pending held _ => closed event old id success completes pending held) ?_
        intro request pendingId promise _ same equal
        exact filed.fresh_call old waits (equal.symm.trans same)
      · have steady := handleResourceOp_steady handled action inside
        rw [show action = .complete id success from completes] at steady
        cases steady
  | answer found target known handled log pendings =>
      rename_i context pending actions
      intro event member id success completes
      rw [log] at member
      rcases mem_events member with old | ⟨action, inside, rfl⟩
      · refine filed.forall_answered known pendings
          (fun other held _ => closed event old id success completes other held) ?_
        intro renewed _ same
        rw [same.operation]
        exact closed event old id success completes pending (Cells.read_mem known)
      · refine filed.forall_answered known pendings (fun other _ different => Ne.symm different) ?_
        intro renewed renews _
        rw [show action = .complete id success from completes] at inside
        exact absurd renews ((handleDeferredAnswer_answers handled).not_rearm inside)

end Closed

end Barton.Sbmd
