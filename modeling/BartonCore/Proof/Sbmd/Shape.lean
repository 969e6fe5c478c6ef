import BartonCore.Construction.Sbmd.Machine

namespace Barton.Sbmd

/-- The device takes the command of a chain step. -/
def Device.takesCommand (device : Device) (command : CommandData) : Bool :=
  match device.resolveEndpoint command.clusterId command.endpointId with
  | none => false
  | some endpoint =>
      match device.decodeBase64Tlv command.tlvBase64 with
      | none => false
      | some tlv => device.sessionValid && device.prepareCommand endpoint command tlv &&
          device.sendCommandRequest

/-- The device takes the write of a chain step. -/
def Device.takesWrite (device : Device) (path : AttributeData) (tlvBase64 : String) : Bool :=
  match device.resolveEndpoint path.clusterId path.endpointId with
  | none => false
  | some endpoint =>
      tlvBase64 != "" &&
        match device.decodeBase64Tlv tlvBase64 with
        | none => false
        | some tlv => device.sessionValid && device.prepareWrite endpoint path tlv &&
            device.sendWriteRequest

/-- The result sends a chained command or a chained write. -/
def Reply.dispatches (reply : Reply) : Bool :=
  reply.device.alive &&
    match reply.result with
    | some (.sendCommand command _) => reply.device.takesCommand command
    | some (.writeAttribute path tlvBase64) => reply.device.takesWrite path tlvBase64
    | _ => false

/-- The result is a cached read. -/
def Reply.reads (reply : Reply) : Bool :=
  match reply.result with
  | some (.readAttribute _ _ _) => true
  | _ => false

/-- The result is a cached read that selects a callback. -/
def Reply.invokes (reply : Reply) : Bool :=
  match reply.result with
  | some (.readAttribute path callbacks _) =>
      match reply.device.resolveEndpoint path.clusterId path.endpointId with
      | none => false
      | some endpoint => (cachedRead reply.device path endpoint callbacks).isSome
  | _ => false

/-- The result defers the operation. -/
def Reply.requests (reply : Reply) : Bool :=
  match reply.result with
  | some (.requestCommand _ _ _ _) => true
  | _ => false

/-- The actions only write slots. -/
def Stores (actions : List Action) : Prop :=
  ∀ action ∈ actions, ∃ slot text, action = .writeSlot slot text

theorem Stores.nil : Stores [] := by
  intro action member
  contradiction

theorem Stores.singleton (slot : Slot) (text : String) : Stores [.writeSlot slot text] := by
  intro action member
  exact ⟨slot, text, List.mem_singleton.mp member⟩

theorem storeResult_stores (operation : Operation) (value : String) : Stores (storeResult operation value) := by
  unfold storeResult
  split
  · exact .nil
  · split
    · exact .singleton _ _
    · split
      · exact .singleton _ _
      · exact .nil

theorem storeOptimistically_stores (operation : Operation) (value : String) :
    Stores (storeOptimistically operation value) := by
  unfold storeOptimistically
  split
  · exact .singleton _ _
  · exact .nil

/-- The handler gets the result of a cached read. -/
def Arguments.isCached : Arguments → Bool
  | .attributeReadResponse _ _ _ _ => true
  | .error type _ _ _ => type = "readFailed"
  | _ => false

theorem cachedRead_isCached {device : Device} {path : AttributeData} {endpoint : UInt16}
    {callbacks : Callbacks} {handler : Handler} {arguments : Arguments}
    (selected : cachedRead device path endpoint callbacks = some (handler, arguments)) :
    arguments.isCached = true := by
  unfold cachedRead at selected
  split at selected
  · obtain ⟨other, _, same⟩ := Option.map_eq_some_iff.mp selected
    cases same
    rfl
  · obtain ⟨text, _, found⟩ := Option.bind_eq_some_iff.mp selected
    obtain ⟨other, _, same⟩ := Option.map_eq_some_iff.mp found
    cases same
    rfl

section Parked
variable (script : Script)

/-- The effects of `ContinueDeferredChain` for the result at an index. -/
inductive Ends : Nat → PendingOperation → List Action → Prop where
  | complete {index : Nat} {pending : PendingOperation} {stores : List Action} (success : Bool)
      (each : Stores stores) : Ends index pending (stores ++ [.complete pending.id success])
  | rearm {index : Nat} {pending : PendingOperation} {callbacks : Callbacks}
      (room : pending.deferralDepth < maxDeferralDepth) :
      Ends index pending [.rearm (pending.rearmed callbacks)]
  | dispatch {index : Nat} {pending : PendingOperation} {send : Action} {stores : List Action}
      (chained : send = .chainedCommand ∨ send = .chainedWrite)
      (taken : (script index).dispatches = true) (each : Stores stores) :
      Ends index pending (send :: stores ++ [.complete pending.id true])
  | fail {index : Nat} {pending : PendingOperation} {handler : Handler} {arguments : Arguments}
      (room : pending.deferralDepth < maxDeferralDepth) (cached : arguments.isCached = true) :
      Ends index pending [.invoke handler arguments, .complete pending.id false]
  | invoke {index : Nat} {pending : PendingOperation} {handler : Handler} {arguments : Arguments}
      {callbacks : Callbacks} {actions : List Action} (room : pending.deferralDepth < maxDeferralDepth)
      (reads : (script index).reads = true) (cached : arguments.isCached = true)
      (rest : Ends (index + 1) (pending.rearmed callbacks) actions) :
      Ends index pending (.invoke handler arguments :: actions)

/-- The effects of a response or an error for a known operation. -/
inductive Answers (pending : PendingOperation) : List Action → Prop where
  | refuse : Answers pending [.complete pending.id false]
  | fail {handler : Handler} {arguments : Arguments} (answers : arguments.isCached = false) :
      Answers pending [.invoke handler arguments, .complete pending.id false]
  | proceed {handler : Handler} {arguments : Arguments} {actions : List Action}
      (answers : arguments.isCached = false) (rest : Ends script 0 pending actions) :
      Answers pending (.invoke handler arguments :: actions)

variable {script} {pending : PendingOperation} {actions : List Action} {index : Nat}

theorem Ends.refuse {index : Nat} {pending : PendingOperation} :
    Ends script index pending [.complete pending.id false] :=
  .complete false .nil

theorem continueSendCommand_ends {command : CommandData}
    {successValue : String} (given : (script index).result = some (.sendCommand command successValue))
    (alive : (script index).device.alive = true) :
    Ends script index pending
      (continueSendCommand pending (script index).device command successValue) := by
  unfold continueSendCommand
  split
  · exact .refuse
  · rename_i endpoint resolved
    split
    · exact .refuse
    · rename_i tlv decoded
      split
      · exact .refuse
      · rename_i valid
        split
        · exact .refuse
        · rename_i sent
          apply Ends.dispatch (.inl rfl) _ (storeOptimistically_stores _ _)
          simp only [not_not] at valid sent
          simp [Reply.dispatches, given, alive, Device.takesCommand, resolved, decoded, valid, sent]

theorem continueWriteAttribute_ends {path : AttributeData}
    {tlvBase64 : String} (given : (script index).result = some (.writeAttribute path tlvBase64))
    (alive : (script index).device.alive = true) :
    Ends script index pending (continueWriteAttribute pending (script index).device path tlvBase64) := by
  unfold continueWriteAttribute
  split
  · exact .refuse
  · rename_i endpoint resolved
    split
    · exact .refuse
    · rename_i present
      split
      · exact .refuse
      · rename_i tlv decoded
        split
        · exact .refuse
        · rename_i valid
          split
          · exact .refuse
          · rename_i sent
            apply Ends.dispatch (.inr rfl) _ .nil
            simp only [not_not] at valid sent
            simp [Reply.dispatches, given, alive, Device.takesWrite, resolved, present, decoded, valid,
              sent]

theorem continueRequestCommand_ends (device : Device)
    (command : CommandData) (callbacks : Callbacks) (room : pending.deferralDepth < maxDeferralDepth) :
    Ends script index pending (continueRequestCommand pending device command callbacks) := by
  unfold continueRequestCommand
  split
  · exact .refuse
  · split
    · exact .refuse
    · split
      · exact .refuse
      · split
        · exact .refuse
        · exact .rearm room

theorem continueDeferredChain_ends {fuel next index : Nat} {terminal : Terminal} {device : Device}
    (given : (script index).result = some terminal) (source : device = (script index).device)
    (place : next = index + 1)
    (continued : continueDeferredChain script fuel next pending terminal device = some actions) :
    Ends script index pending actions := by
  fun_induction continueDeferredChain script fuel next pending terminal device
    generalizing index actions with
  | case2 =>
      cases continued
      exact .complete true (storeResult_stores _ _)
  | case5 _ _ _ _ _ _ _ alive =>
      cases continued
      subst source
      exact continueSendCommand_ends given (not_not.mp alive)
  | case7 _ _ _ _ _ _ _ alive =>
      cases continued
      subst source
      exact continueWriteAttribute_ends given (not_not.mp alive)
  | case9 _ _ _ _ room =>
      cases continued
      exact continueRequestCommand_ends _ _ _ (Nat.lt_of_not_le room)
  | case13 _ _ _ _ room _ _ _ _ _ _ _ _ selected =>
      cases continued
      exact .fail (Nat.lt_of_not_le room) (cachedRead_isCached selected)
  | case14 => contradiction
  | case15 _ _ _ room _ _ _ _ _ _ _ _ selected next found _ ih =>
      obtain ⟨rest, later, rfl⟩ := Option.map_eq_some_iff.mp continued
      subst place
      apply Ends.invoke (Nat.lt_of_not_le room) _ (cachedRead_isCached selected) (ih found rfl rfl later)
      rw [Reply.reads, given]
  | _ =>
      cases continued
      exact .refuse

theorem handleDeferredCommandResponse_answers {fuel now : Nat} {response : ResponseData}
    (handled : handleDeferredCommandResponse script fuel now pending response = some actions) :
    Answers script pending actions := by
  unfold handleDeferredCommandResponse at handled
  split at handled
  · split at handled
    · cases handled
      exact .fail rfl
    · cases handled
      exact .refuse
  · split at handled
    · cases handled
      exact .refuse
    · dsimp only at handled
      split at handled
      · cases handled
        exact .fail rfl
      · rename_i given
        obtain ⟨rest, later, rfl⟩ := Option.map_eq_some_iff.mp handled
        exact .proceed rfl (continueDeferredChain_ends given rfl rfl later)

theorem handleDeferredCommandError_answers {fuel : Nat} {error : ErrorData}
    (handled : handleDeferredCommandError script fuel pending error = some actions) :
    Answers script pending actions := by
  unfold handleDeferredCommandError at handled
  split at handled
  · cases handled
    exact .refuse
  · dsimp only at handled
    split at handled
    · cases handled
      exact .fail rfl
    · rename_i given
      split at handled
      · cases handled
        exact .fail rfl
      · obtain ⟨rest, later, rfl⟩ := Option.map_eq_some_iff.mp handled
        exact .proceed rfl (continueDeferredChain_ends given rfl rfl later)

/-- Every answer has one of the three shapes. -/
theorem handleDeferredAnswer_answers {fuel now : Nat} {answer : Except ErrorData ResponseData}
    (handled : handleDeferredAnswer script fuel now pending answer = some actions) :
    Answers script pending actions := by
  cases answer with
  | ok response => exact handleDeferredCommandResponse_answers handled
  | error error => exact handleDeferredCommandError_answers handled

/-- These effects do not change the pending operations. -/
def Action.quiet : Action → Bool
  | .invoke _ _ => true
  | .writeSlot _ _ => true
  | .chainedCommand => true
  | .chainedWrite => true
  | _ => false

/-- A deferral keeps the identity, the promise, the slots, and the deadline of its operation. -/
structure SameOperation (pending next : PendingOperation) : Prop where
  id : next.id = pending.id
  parkingPromise : next.parkingPromise = pending.parkingPromise
  operation : next.operation = pending.operation
  overallDeadline : next.overallDeadline = pending.overallDeadline

theorem SameOperation.of_rearmed {pending next : PendingOperation} {callbacks : Callbacks}
    (same : SameOperation (pending.rearmed callbacks) next) : SameOperation pending next :=
  ⟨same.id, same.parkingPromise, same.operation, same.overallDeadline⟩

/-- The last effect of an answer completes the operation or waits for one more command. -/
inductive Closing (pending : PendingOperation) : Action → Prop where
  | complete (success : Bool) : Closing pending (.complete pending.id success)
  | rearm {next : PendingOperation} (same : SameOperation pending next) : Closing pending (.rearm next)

theorem Closing.of_rearmed {callbacks : Callbacks} {action : Action}
    (closing : Closing (pending.rearmed callbacks) action) : Closing pending action := by
  cases closing with
  | complete success => exact .complete success
  | rearm same => exact .rearm same.of_rearmed

theorem Stores.quiet (stores : Stores actions) : ∀ action ∈ actions, action.quiet = true := by
  intro action member
  obtain ⟨slot, text, rfl⟩ := stores action member
  rfl

theorem quiet_cons {first : Action} {rest : List Action} (quiet : first.quiet = true)
    (each : ∀ action ∈ rest, action.quiet = true) : ∀ action ∈ first :: rest, action.quiet = true := by
  intro action member
  rcases List.mem_cons.mp member with rfl | later
  · exact quiet
  · exact each action later

/-- A chain step closes its operation exactly once, as its last effect. -/
theorem Ends.closes (ends : Ends script index pending actions) :
    ∃ quiets last, actions = quiets ++ [last] ∧ (∀ action ∈ quiets, action.quiet = true) ∧
      Closing pending last := by
  induction ends with
  | complete success each => exact ⟨_, _, rfl, each.quiet, .complete success⟩
  | rearm room => exact ⟨[], _, rfl, by simp, .rearm ⟨rfl, rfl, rfl, rfl⟩⟩
  | dispatch chained taken each =>
      refine ⟨_, _, rfl, quiet_cons ?_ each.quiet, .complete true⟩
      rcases chained with rfl | rfl
      · rfl
      · rfl
  | fail room cached => exact ⟨[_], _, rfl, by simp [Action.quiet], .complete false⟩
  | invoke room reads cached rest ih =>
      obtain ⟨quiets, last, rfl, each, closing⟩ := ih
      exact ⟨_ :: quiets, last, rfl, quiet_cons rfl each, closing.of_rearmed⟩

/-- An answer closes its operation exactly once, as its last effect. -/
theorem Answers.closes (answers : Answers script pending actions) :
    ∃ quiets last, actions = quiets ++ [last] ∧ (∀ action ∈ quiets, action.quiet = true) ∧
      Closing pending last := by
  cases answers with
  | refuse => exact ⟨[], _, rfl, by simp, .complete false⟩
  | fail answers => exact ⟨[_], _, rfl, by simp [Action.quiet], .complete false⟩
  | proceed answers rest =>
      obtain ⟨quiets, last, rfl, each, closing⟩ := rest.closes
      exact ⟨_ :: quiets, last, rfl, quiet_cons rfl each, closing⟩

end Parked

section Unparked
variable (now : Nat) (operation : Operation) (script : Script)

/-- These effects before parking neither defer the operation nor run a handler. -/
def Action.direct : Action → Bool
  | .writeSlot _ _ => true
  | .failOperation => true
  | .readyPromise => true
  | .sendCommand _ => true
  | .sendWrite _ => true
  | _ => false

/-- The effects of `ExecuteTerminal` for the result at an index. -/
inductive Begins : Nat → List Action → Prop where
  | direct {index : Nat} {actions : List Action} (each : ∀ action ∈ actions, action.direct = true) :
      Begins index actions
  | park {index : Nat} {request : Request} (same : request.operation = operation)
      (later : now ≤ request.overallDeadline) (requests : (script index).requests = true) :
      Begins index [.park request]
  | fail {index : Nat} {handler : Handler} {arguments : Arguments}
      (invokes : (script index).invokes = true) : Begins index [.invoke handler arguments, .failOperation]
  | invoke {index : Nat} {handler : Handler} {arguments : Arguments} {actions : List Action}
      (invokes : (script index).invokes = true) (rest : Begins (index + 1) actions) :
      Begins index (.invoke handler arguments :: actions)

variable {now operation script} {defaultTimeoutMs : Option UInt32} {actions : List Action}

theorem Stores.direct (stores : Stores actions) : ∀ action ∈ actions, action.direct = true := by
  intro action member
  obtain ⟨slot, text, rfl⟩ := stores action member
  rfl

theorem Begins.single {index : Nat} {action : Action} (plain : action.direct = true) :
    Begins now operation script index [action] := by
  apply Begins.direct
  intro other member
  rwa [List.mem_singleton.mp member]

theorem executeSendCommand_direct (device : Device) (command : CommandData) (successValue : String) :
    ∀ action ∈ executeSendCommand operation device command successValue, action.direct = true := by
  unfold executeSendCommand
  split
  · simp [Action.direct]
  · split
    · simp [Action.direct]
    · split
      · simp [Action.direct]
      · split
        · simp [Action.direct]
        · intro action member
          rcases List.mem_cons.mp member with rfl | stored
          · rfl
          · exact (storeOptimistically_stores _ _).direct action stored

theorem executeWriteAttribute_direct (device : Device) (path : AttributeData) (tlvBase64 : String) :
    ∀ action ∈ executeWriteAttribute device path tlvBase64, action.direct = true := by
  unfold executeWriteAttribute
  split
  · simp [Action.direct]
  · split
    · simp [Action.direct]
    · split
      · simp [Action.direct]
      · split
        · simp [Action.direct]
        · split
          · simp [Action.direct]
          · simp [Action.direct]

theorem executeRequestCommand_begins {index : Nat} {device : Device}
    {command : CommandData} {responseCommandId : UInt32} {callbacks : Callbacks} {timeoutMs : Option UInt32}
    (given : (script index).result = some (.requestCommand command responseCommandId callbacks timeoutMs)) :
    Begins now operation script index
      (executeRequestCommand defaultTimeoutMs now operation device command callbacks timeoutMs) := by
  unfold executeRequestCommand
  split
  · exact .single rfl
  · split
    · exact .single rfl
    · apply Begins.park
      · rfl
      · exact Nat.le_add_right now _
      · rw [Reply.requests, given]

theorem executeTerminal_begins {fuel next index : Nat} {terminal : Terminal} {device : Device}
    (given : (script index).result = some terminal) (source : device = (script index).device)
    (place : next = index + 1)
    (executed : executeTerminal defaultTimeoutMs now operation script fuel next terminal device =
      some actions) : Begins now operation script index actions := by
  fun_induction executeTerminal defaultTimeoutMs now operation script fuel next terminal device
    generalizing index actions with
  | case1 =>
      cases executed
      exact .direct (storeResult_stores _ _).direct
  | case3 =>
      cases executed
      exact .direct (executeSendCommand_direct _ _ _)
  | case4 =>
      cases executed
      exact .direct (executeWriteAttribute_direct _ _ _)
  | case5 =>
      cases executed
      exact executeRequestCommand_begins given
  | case8 _ _ _ _ _ _ _ resolved _ _ selected =>
      cases executed
      subst source
      apply Begins.fail
      simp [Reply.invokes, given, resolved, selected]
  | case9 => contradiction
  | case10 _ _ _ _ _ _ resolved _ _ selected _ found _ ih =>
      obtain ⟨rest, later, rfl⟩ := Option.map_eq_some_iff.mp executed
      subst place source
      apply Begins.invoke _ (ih found rfl rfl later)
      simp [Reply.invokes, given, resolved, selected]
  | _ =>
      cases executed
      exact .single rfl

/-- A resource operation runs its handler first. -/
theorem handleResourceOp_begins {fuel : Nat} {opType : String} {handler : ResourceHandler}
    (handled : handleResourceOp defaultTimeoutMs now operation script fuel opType handler = some actions) :
    (∀ action ∈ actions, action.direct = true) ∨
      ∃ function arguments rest, handler = .handler function ∧
        actions = .invoke function arguments :: rest ∧ Begins now operation script 0 rest := by
  cases handler with
  | deviceMissing | resourceMissing =>
      cases handled
      left
      simp [Action.direct]
  | noHandler value =>
      left
      simp only [handleResourceOp] at handled
      split at handled
      · cases handled
        intro action member
        rcases List.mem_append.mp member with stored | ready
        · split at stored
          · split at stored
            · rw [List.mem_singleton.mp stored]
              rfl
            · contradiction
          · contradiction
        · rw [List.mem_singleton.mp ready]
          rfl
      · cases handled
        simp [Action.direct]
  | handler function =>
      right
      simp only [handleResourceOp] at handled
      split at handled
      · cases handled
        exact ⟨function, _, _, rfl, rfl, .single rfl⟩
      · rename_i given
        obtain ⟨rest, later, rfl⟩ := Option.map_eq_some_iff.mp handled
        exact ⟨function, _, rest, rfl, rfl, executeTerminal_begins given rfl rfl later⟩

end Unparked
end Barton.Sbmd
