import BartonCore.Construction.Sbmd.Camera

namespace Barton.Camera
open Tlv Cells

section Cases
variable (inherited : PropertyKey → Bool) (deviceUuid : JsString) (sessionsJson : Option Sessions)

/-- The outcome requests no command. -/
def Outcome.Plain (outcome : Outcome) : Prop := ∀ command context, outcome ≠ .requestCommand command context

theorem Outcome.plain_error (message : JsString) : (Outcome.error message).Plain := by
  rintro command context ⟨⟩

theorem Outcome.plain_success : Outcome.success.Plain := by
  rintro command context ⟨⟩

theorem Outcome.plain_entryPoint (uri : JsString) : (Outcome.entryPoint uri).Plain := by
  rintro command context ⟨⟩

theorem Outcome.plain_sendCommand (sent : Command) : (Outcome.sendCommand sent).Plain := by
  rintro command context ⟨⟩

/-- `stream` marks one session, or it stores nothing. -/
theorem executeStream_cases (input : Option PropertyKey) : ∃ outcome : Outcome, outcome.Plain ∧
    (executeStream inherited deviceUuid input sessionsJson = ⟨none, none, outcome⟩ ∨
      ∃ sessionId, input = some sessionId ∧ executeStream inherited deviceUuid input sessionsJson =
        ⟨some (modify sessionId (fun session => { session with state := .streaming }) (parseSessions sessionsJson)),
          none, outcome⟩) := by
  cases input with
  | none => exact ⟨.error _, Outcome.plain_error _, Or.inl rfl⟩
  | some sessionId =>
      unfold executeStream
      dsimp only
      split
      · exact ⟨.entryPoint _, Outcome.plain_entryPoint _, Or.inr ⟨sessionId, rfl, rfl⟩⟩
      · exact ⟨.error _, Outcome.plain_error _, Or.inl rfl⟩

/-- `destroySession` deletes a stored session, or it changes nothing. -/
theorem executeDestroySession_cases (input : Option PropertyKey) : ∃ outcome : Outcome, outcome.Plain ∧
    ((∃ stored, (stored = none ∨ stored = some (parseSessions sessionsJson)) ∧
        executeDestroySession inherited input sessionsJson = ⟨stored, none, outcome⟩ ∧
        ∀ sessionId, input = some sessionId → read Entry.id sessionId (parseSessions sessionsJson) = none) ∨
      ∃ sessionId, input = some sessionId ∧ read Entry.id sessionId (parseSessions sessionsJson) ≠ none ∧
        executeDestroySession inherited input sessionsJson =
          ⟨some (delete Entry.id sessionId (parseSessions sessionsJson)), none, outcome⟩) := by
  cases input with
  | none => exact ⟨.error _, Outcome.plain_error _, Or.inl ⟨none, Or.inl rfl, rfl, by rintro id ⟨⟩⟩⟩
  | some sessionId =>
      unfold executeDestroySession
      dsimp only
      cases own : read Entry.id sessionId (parseSessions sessionsJson) with
      | some entry =>
          refine ⟨_, ?_, Or.inr ⟨sessionId, rfl, ?_, rfl⟩⟩
          · split
            · exact Outcome.plain_sendCommand _
            · exact Outcome.plain_success
          · rw [own]
            exact Option.some_ne_none entry
      | none =>
          have absent : ∀ other, some sessionId = some other →
              read Entry.id other (parseSessions sessionsJson) = none := by
            rintro other ⟨⟩
            exact own
          dsimp only
          split
          · exact ⟨.success, Outcome.plain_success, Or.inl ⟨_, Or.inr rfl, rfl, absent⟩⟩
          · exact ⟨.error _, Outcome.plain_error _, Or.inl ⟨_, Or.inl rfl, rfl, absent⟩⟩

/-- `localSdp` requests a command for the session that streams, or it stores nothing. -/
theorem executeLocalSdp_cases (cameraIsOfferer : Bool) (sdp : JsString) :
    (∃ outcome : Outcome, outcome.Plain ∧ executeLocalSdp cameraIsOfferer sdp sessionsJson = ⟨none, none, outcome⟩) ∨
      ∃ entry context, (parseSessions sessionsJson).find? (fun entry => entry.session.state = .streaming) = some entry ∧
        (context = .handleAllocateForSolicit entry.id (parseSessions sessionsJson) ∨
          context = .handleVideoStreamAllocateResponse sdp entry.id (parseSessions sessionsJson)) ∧
        executeLocalSdp cameraIsOfferer sdp sessionsJson =
          ⟨some (parseSessions sessionsJson), none, .requestCommand .videoStreamAllocate context⟩ := by
  unfold executeLocalSdp
  dsimp only
  cases found : (parseSessions sessionsJson).find? fun entry => entry.session.state = .streaming with
  | none => exact Or.inl ⟨.error _, Outcome.plain_error _, rfl⟩
  | some entry =>
      dsimp only
      split
      · split
        · unfold sendProvideAnswer
          split
          · exact Or.inl ⟨.error _, Outcome.plain_error _, rfl⟩
          · exact Or.inl ⟨.sendCommand _, Outcome.plain_sendCommand _, rfl⟩
        · exact Or.inr ⟨entry, _, rfl, Or.inl rfl, rfl⟩
      · split
        · exact Or.inl ⟨.error _, Outcome.plain_error _, rfl⟩
        · exact Or.inr ⟨entry, _, rfl, Or.inr rfl, rfl⟩

end Cases

section All
variable {property : Sessions → Prop} {state next : State}

/-- The `sessions` object in the context of a deferred operation. -/
def Context.sessions : Context → Sessions
  | .handleAllocateForSolicit _ sessions => sessions
  | .handleSolicitOfferResponse _ sessions => sessions
  | .handleVideoStreamAllocateResponse _ _ sessions => sessions
  | .handleProvideOfferResponse _ sessions => sessions

/-- The stored sessions and the sessions of all contexts have the property. -/
structure State.All (property : Sessions → Prop) (state : State) : Prop where
  stored : property (parseSessions state.sessions)
  pending : ∀ context ∈ state.pending, property context.sessions

/-- The sessions that a result stores and passes on have the property. -/
structure Result.All (property : Sessions → Prop) (result : Result) : Prop where
  stored : ∀ sessions, result.sessions = some sessions → property sessions
  passed : ∀ command context, result.outcome = .requestCommand command context → property context.sessions

/-- The property survives a deletion and the fields that the camera sets. -/
structure Stable (property : Sessions → Prop) : Prop where
  empty : property []
  video : ∀ id field sessions, property sessions →
    property (modify id (fun session => { session with videoStreamID := field }) sessions)
  record : ∀ id field sessions, property sessions → property (record id field sessions)
  delete : ∀ id sessions, property sessions → property (delete Entry.id id sessions)

theorem State.All.execute (all : state.All property) {pending : List Context}
    (fewer : pending ⊆ state.pending) {result : Result} (own : result.All property) :
    (state.execute pending result).All property := by
  constructor
  · unfold State.execute parseSessions
    cases stores : result.sessions with
    | none => exact all.stored
    | some sessions => exact own.stored sessions stores
  · have old : ∀ context ∈ pending, property context.sessions :=
      fun context member => all.pending context (fewer member)
    unfold State.execute
    dsimp only
    split
    · rename_i command context outcome
      intro other member
      rcases List.mem_append.mp member with member | member
      · exact old other member
      · rw [List.mem_singleton.mp member]
        exact own.passed command context outcome
    · exact old

theorem Result.All.failed (message : String) : (Result.failed message).All property := ⟨nofun, nofun⟩

/-- A handler that stores nothing and requests no command. -/
theorem Result.All.of_plain {outcome : Outcome} (plain : outcome.Plain) :
    (Result.mk none none outcome).All property :=
  ⟨nofun, fun command context same => absurd same (plain command context)⟩

/-- A handler that stores sessions and requests no command. -/
theorem Result.All.of_sessions {sessions : Sessions} {nextSessionId : Option JsString} {outcome : Outcome}
    (stored : property sessions) (plain : outcome.Plain) :
    (Result.mk (some sessions) nextSessionId outcome).All property := by
  constructor
  · intro other same
    cases same
    exact stored
  · exact fun command context same => absurd same (plain command context)

/-- A handler that stores sessions and passes them on. -/
theorem Result.All.of_context {sessions : Sessions} {command : Command} {context : Context}
    (stored : property sessions) (same : context.sessions = sessions) :
    (Result.mk (some sessions) none (.requestCommand command context)).All property := by
  constructor
  · intro other equal
    cases equal
    exact stored
  · intro other later equal
    cases equal
    rw [same]
    exact stored

theorem all_executeStream (inherited : PropertyKey → Bool) (deviceUuid : JsString) (input : Option PropertyKey)
    (streamed : ∀ sessionId, input = some sessionId → property
      (modify sessionId (fun session => { session with state := .streaming }) (parseSessions state.sessions))) :
    (executeStream inherited deviceUuid input state.sessions).All property := by
  obtain ⟨outcome, plain, same | ⟨sessionId, given, same⟩⟩ :=
    executeStream_cases inherited deviceUuid state.sessions input
  · rw [same]
    exact .of_plain plain
  · rw [same]
    exact .of_sessions (streamed sessionId given) plain

theorem all_executeDestroySession (stable : Stable property) (inherited : PropertyKey → Bool)
    (input : Option PropertyKey) (stored : property (parseSessions state.sessions)) :
    (executeDestroySession inherited input state.sessions).All property := by
  obtain ⟨outcome, plain, ⟨_, rfl | rfl, same, _⟩ | ⟨sessionId, _, _, same⟩⟩ :=
    executeDestroySession_cases inherited state.sessions input
  · rw [same]
    exact .of_plain plain
  · rw [same]
    exact .of_sessions stored plain
  · rw [same]
    exact .of_sessions (stable.delete _ _ stored) plain

theorem all_executeLocalSdp (cameraIsOfferer : Bool) (sdp : JsString)
    (stored : property (parseSessions state.sessions)) :
    (executeLocalSdp cameraIsOfferer sdp state.sessions).All property := by
  obtain ⟨outcome, plain, same⟩ | ⟨entry, _, _, rfl | rfl, same⟩ :=
    executeLocalSdp_cases state.sessions cameraIsOfferer sdp
  · rw [same]
    exact .of_plain plain
  · rw [same]
    exact .of_context stored rfl
  · rw [same]
    exact .of_context stored rfl

theorem all_handleResponse (stable : Stable property) (field : Field) {context : Context}
    (snapshot : property context.sessions) : (handleResponse field context).All property := by
  cases context with
  | handleAllocateForSolicit sessionId sessions =>
      exact .of_context (stable.video sessionId field sessions snapshot) rfl
  | handleSolicitOfferResponse sessionId sessions | handleProvideOfferResponse sessionId sessions =>
      exact .of_sessions (stable.record sessionId field sessions snapshot) nofun
  | handleVideoStreamAllocateResponse sdp sessionId sessions =>
      refine ⟨nofun, ?_⟩
      intro command context same
      cases same
      exact snapshot

theorem all_handleIncomingOffer (stable : Stable property) (webRTCSessionID : Field) (sdp : Option JsString)
    (stored : property (parseSessions state.sessions)) :
    (handleIncomingOffer webRTCSessionID sdp state.sessions).All property := by
  cases sdp with
  | none => exact .failed _
  | some sdp =>
      unfold handleIncomingOffer
      dsimp only
      split
      · exact .of_sessions (stable.record _ _ _ stored) nofun
      · exact .of_sessions stored nofun

theorem all_handleIncomingAnswer (stable : Stable property) (webRTCSessionID : Field) (sdp : Option JsString)
    (stored : property (parseSessions state.sessions)) :
    (handleIncomingAnswer webRTCSessionID sdp state.sessions).All property := by
  cases sdp with
  | none => exact .failed _
  | some sdp =>
      unfold handleIncomingAnswer
      dsimp only
      split
      · exact .of_sessions (stable.record _ _ _ stored) nofun
      · exact .of_sessions stored nofun

theorem all_handleIncomingEndSession (stable : Stable property)
    (stored : property (parseSessions state.sessions)) :
    (handleIncomingEndSession state.sessions).All property := by
  unfold handleIncomingEndSession
  dsimp only
  split
  · exact .of_sessions (stable.delete _ _ stored) nofun
  · exact .of_sessions stored nofun

/-- A stable property can only be lost by a new session and by a new stream. -/
theorem State.All.step {inherited : PropertyKey → Bool} {deviceUuid : JsString} {input : Input}
    (all : state.All property) (stable : Stable property)
    (created : input = .createSession → (executeCreateSession state.sessions state.nextSessionId).All property)
    (streamed : ∀ sessionId, input = .stream (some sessionId) → property
      (modify sessionId (fun session => { session with state := .streaming }) (parseSessions state.sessions)))
    (stepped : step inherited deviceUuid state input = some next) : next.All property := by
  have whole : state.pending ⊆ state.pending := List.Subset.refl _
  cases input with
  | createSession =>
      cases stepped
      exact all.execute whole (created rfl)
  | stream input =>
      cases stepped
      exact all.execute whole
        (all_executeStream inherited deviceUuid input fun sessionId same => streamed sessionId (by rw [same]))
  | localSdp cameraIsOfferer sdp =>
      cases stepped
      exact all.execute whole (all_executeLocalSdp cameraIsOfferer sdp all.stored)
  | destroySession input =>
      cases stepped
      exact all.execute whole (all_executeDestroySession stable inherited input all.stored)
  | response index field =>
      obtain ⟨context, found, rfl⟩ := Option.map_eq_some_iff.mp stepped
      exact all.execute (List.eraseIdx_subset ..)
        (all_handleResponse stable field (all.pending context (List.mem_of_getElem? found)))
  | failure index =>
      obtain ⟨context, found, rfl⟩ := Option.map_eq_some_iff.mp stepped
      exact all.execute (List.eraseIdx_subset ..) ⟨nofun, nofun⟩
  | offer webRTCSessionID sdp =>
      cases stepped
      exact all.execute whole (all_handleIncomingOffer stable webRTCSessionID sdp all.stored)
  | answer webRTCSessionID sdp =>
      cases stepped
      exact all.execute whole (all_handleIncomingAnswer stable webRTCSessionID sdp all.stored)
  | endSession webRTCSessionID =>
      cases stepped
      exact all.execute whole (all_handleIncomingEndSession stable all.stored)
  | expireSessions =>
      cases stepped
      exact ⟨stable.empty, all.pending⟩
  | expireNextSessionId =>
      cases stepped
      exact ⟨all.stored, all.pending⟩

end All

section Found

/-- The session that the handlers of the commands find. -/
def State.found (state : State) : Option Entry :=
  (parseSessions state.sessions).find? fun entry => entry.session.state = .streaming

/-- The sessions after a change of the found session. -/
def State.changeFound (state : State) (change : PropertyKey → Sessions → Sessions) : Sessions :=
  state.found.elim (parseSessions state.sessions) fun found => change found.id (parseSessions state.sessions)

theorem stored_offer (state : State) (pending : List Context) (field : Field) (sdp : JsString) :
    parseSessions (state.execute pending (handleIncomingOffer field (some sdp) state.sessions)).sessions =
      state.changeFound fun id => record id field := by
  have finds : findStreamingSessionId (parseSessions state.sessions) = state.found.map Entry.id := rfl
  unfold State.execute handleIncomingOffer State.changeFound
  dsimp only
  rw [finds]
  cases state.found with
  | none => rfl
  | some found => rfl

theorem stored_answer (state : State) (pending : List Context) (value : Nat) (sdp : JsString) :
    parseSessions (state.execute pending (handleIncomingAnswer (.number value) (some sdp) state.sessions)).sessions =
      state.changeFound fun id => record id (.number value) := by
  have finds : findStreamingSessionId (parseSessions state.sessions) = state.found.map Entry.id := rfl
  unfold State.execute handleIncomingAnswer State.changeFound
  dsimp only
  rw [finds]
  cases state.found with
  | none => rfl
  | some found => rfl

theorem stored_endSession (state : State) (pending : List Context) :
    parseSessions (state.execute pending (handleIncomingEndSession state.sessions)).sessions =
      state.changeFound fun id => delete Entry.id id := by
  have finds : findStreamingSessionId (parseSessions state.sessions) = state.found.map Entry.id := rfl
  unfold State.execute handleIncomingEndSession State.changeFound
  dsimp only
  rw [finds]
  cases state.found with
  | none => rfl
  | some found => rfl

end Found

end Barton.Camera
