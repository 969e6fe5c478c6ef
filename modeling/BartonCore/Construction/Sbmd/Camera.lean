/-
This file contains the session handling of the camera driver. A handler and the storing of its result are one
step.
-/

import BartonCore.Construction.Tlv.Value
import BartonCore.ToMathlib.Cells
import BartonCore.ToMathlib.Runs

namespace Barton.Camera
open Tlv Cells
open Rounding (toDouble)

inductive SessionState where
  | created
  | streaming
  deriving DecidableEq

/-- A field that a script has decoded or has not set. -/
inductive Field where
  | undefined
  | null
  | number (value : Nat)
  deriving DecidableEq

/-- A session as `JSON.stringify` stores it, which leaves out a field that is `undefined`. -/
structure Session where
  state : SessionState
  webRTCSessionID : Field
  videoStreamID : Field
  deriving DecidableEq

structure Entry where
  id : PropertyKey
  session : Session
  deriving DecidableEq

/-- The own properties of the `sessions` object in the order of a loop over it. -/
abbrev Sessions := List Entry

/-- The context of a deferred operation holds the `sessions` object of its first step. -/
inductive Context where
  | handleAllocateForSolicit (sessionId : PropertyKey) (sessions : Sessions)
  | handleSolicitOfferResponse (sessionId : PropertyKey) (sessions : Sessions)
  | handleVideoStreamAllocateResponse (sdp : JsString) (sessionId : PropertyKey) (sessions : Sessions)
  | handleProvideOfferResponse (sessionId : PropertyKey) (sessions : Sessions)
  deriving DecidableEq

/-- A command for the camera. -/
inductive Command where
  | videoStreamAllocate
  | solicitOffer (videoStreamID : Field)
  | provideOffer (sdp : JsString) (videoStreamID : Field)
  | provideAnswer (webRTCSessionID : Field) (sdp : JsString)
  | endSession (webRTCSessionID : Field)
  deriving DecidableEq

inductive Outcome where
  | sessionId (id : PropertyKey)
  | entryPoint (uri : JsString)
  | success
  | error (message : JsString)
  | sendCommand (command : Command)
  | requestCommand (command : Command) (context : Context)
  | updateResource (resource : String) (value : JsString)
  deriving DecidableEq

/-- What a handler stores, and its outcome. -/
structure Result where
  sessions : Option Sessions
  nextSessionId : Option JsString
  outcome : Outcome
  deriving DecidableEq

/-- A handler that stores nothing. -/
def Result.failed (message : String) : Result := ⟨none, none, .error (units message)⟩

section Sessions

/-- Data that is absent or has expired is an empty object. -/
def parseSessions (sessionsJson : Option Sessions) : Sessions := sessionsJson.getD []

/-- This is the assignment `sessions[id] = session`. -/
def assign (id : PropertyKey) (session : Session) : Sessions → Sessions
  | [] => [⟨id, session⟩]
  | entry :: rest =>
      if entry.id = id then ⟨id, session⟩ :: rest
      else if id.before entry.id then ⟨id, session⟩ :: entry :: rest
      else entry :: assign id session rest

/-- This is the assignment of a field of a session. -/
def modify (id : PropertyKey) (update : Session → Session) (sessions : Sessions) : Sessions :=
  write Entry.id id (fun entry => { entry with session := update entry.session }) sessions

def findStreamingSessionId (sessions : Sessions) : Option PropertyKey :=
  (sessions.find? fun entry => entry.session.state = .streaming).map Entry.id

end Sessions

section Execute

/-- The number after the ids of the sessions. -/
def nextFreeId (sessions : Sessions) : Nat :=
  sessions.foldl (fun nextId entry =>
    match parseInt entry.id.text with
    | some number => if nextId ≤ number then toDouble (number.toNat + 1) else nextId
    | none => nextId) 1

/-- The stored number, or the number after the ids of the sessions. -/
def nextId (sessions : Sessions) (nextIdStr : Option JsString) : Nat :=
  match (nextIdStr.filter fun text => text ≠ []).bind parseInt with
  | some number => if number < 1 then nextFreeId sessions else number.toNat
  | none => nextFreeId sessions

def executeCreateSession (sessionsJson : Option Sessions) (nextIdStr : Option JsString) : Result :=
  let sessions := parseSessions sessionsJson
  let next := nextId sessions nextIdStr
  let sessionId := PropertyKey.ofNumber next
  ⟨some (assign sessionId ⟨.created, .undefined, .undefined⟩ sessions),
    some (units (toString (toDouble (next + 1)))), .sessionId sessionId⟩

/-- An inherited property is not a session, and yet `sessions[sessionId]` finds it. -/
def executeStream (inherited : PropertyKey → Bool) (deviceUuid : JsString) (input : Option PropertyKey)
    (sessionsJson : Option Sessions) : Result :=
  match input with
  | none => .failed "sessionId required"
  | some sessionId =>
      let sessions := parseSessions sessionsJson
      if (read Entry.id sessionId sessions).isSome || inherited sessionId then
        ⟨some (modify sessionId (fun session => { session with state := .streaming }) sessions), none,
          .entryPoint (units "/" ++ deviceUuid ++ units "/ep/webrtc/r/localSdp")⟩
      else ⟨none, none, .error (units "unknown sessionId: " ++ sessionId.text)⟩

def executeDestroySession (inherited : PropertyKey → Bool) (input : Option PropertyKey)
    (sessionsJson : Option Sessions) : Result :=
  match input with
  | none => .failed "sessionId required"
  | some sessionId =>
      let sessions := parseSessions sessionsJson
      match read Entry.id sessionId sessions with
      | some entry =>
          ⟨some (delete Entry.id sessionId sessions), none,
            if entry.session.state = .streaming ∧ entry.session.webRTCSessionID ≠ .undefined then
              .sendCommand (.endSession entry.session.webRTCSessionID)
            else .success⟩
      | none =>
          if inherited sessionId then ⟨some sessions, none, .success⟩
          else ⟨none, none, .error (units "unknown sessionId: " ++ sessionId.text)⟩

def sendProvideAnswer (webRTCSessionID : Field) (sdp : JsString) : Result :=
  if sdp = [] then .failed "SDP string required"
  else ⟨none, none, .sendCommand (.provideAnswer webRTCSessionID sdp)⟩

def allocateThenSolicitOffer (sessions : Sessions) (sessionId : PropertyKey) : Result :=
  ⟨some sessions, none, .requestCommand .videoStreamAllocate (.handleAllocateForSolicit sessionId sessions)⟩

def allocateThenProvideOffer (sessions : Sessions) (sessionId : PropertyKey) (sdp : JsString) : Result :=
  ⟨some sessions, none,
    .requestCommand .videoStreamAllocate (.handleVideoStreamAllocateResponse sdp sessionId sessions)⟩

/-- The flow depends on whether the camera makes the offer. -/
def executeLocalSdp (cameraIsOfferer : Bool) (sdp : JsString) (sessionsJson : Option Sessions) : Result :=
  let sessions := parseSessions sessionsJson
  match sessions.find? fun entry => entry.session.state = .streaming with
  | none => .failed "No active streaming session"
  | some entry =>
      if cameraIsOfferer then
        match entry.session.webRTCSessionID with
        | .number value => sendProvideAnswer (.number value) sdp
        | _ => allocateThenSolicitOffer sessions entry.id
      else if sdp = [] then .failed "SDP string required"
      else allocateThenProvideOffer sessions entry.id sdp

end Execute

section Deferred

def record (sessionId : PropertyKey) (webRTCSessionID : Field) (sessions : Sessions) : Sessions :=
  modify sessionId (fun session => { session with webRTCSessionID := webRTCSessionID }) sessions

/-- The response of the camera to a deferred command. The field has the tag 0. -/
def handleResponse (field : Field) : Context → Result
  | .handleAllocateForSolicit sessionId sessions =>
      let recorded := modify sessionId (fun session => { session with videoStreamID := field }) sessions
      ⟨some recorded, none,
        .requestCommand (.solicitOffer field) (.handleSolicitOfferResponse sessionId recorded)⟩
  | .handleSolicitOfferResponse sessionId sessions => ⟨some (record sessionId field sessions), none, .success⟩
  | .handleVideoStreamAllocateResponse sdp sessionId sessions =>
      ⟨none, none, .requestCommand (.provideOffer sdp field) (.handleProvideOfferResponse sessionId sessions)⟩
  | .handleProvideOfferResponse sessionId sessions => ⟨some (record sessionId field sessions), none, .success⟩

/-- The error or the timeout of a deferred command. -/
def handleError : Result := ⟨none, none, .updateResource "webrtcError" (units "failed")⟩

end Deferred

section Incoming

def handleIncomingOffer (webRTCSessionID : Field) (sdp : Option JsString) (sessionsJson : Option Sessions) :
    Result :=
  match sdp with
  | none => .failed "Offer command missing SDP"
  | some sdp =>
      let sessions := parseSessions sessionsJson
      let recorded := match findStreamingSessionId sessions with
        | some sessionId => record sessionId webRTCSessionID sessions
        | none => sessions
      ⟨some recorded, none, .updateResource "remoteSdp" sdp⟩

/-- An answer without a session id records nothing. -/
def handleIncomingAnswer (webRTCSessionID : Field) (sdp : Option JsString) (sessionsJson : Option Sessions) :
    Result :=
  match sdp with
  | none => .failed "Answer command missing SDP"
  | some sdp =>
      let sessions := parseSessions sessionsJson
      let recorded := match webRTCSessionID, findStreamingSessionId sessions with
        | .number value, some sessionId => record sessionId (.number value) sessions
        | _, _ => sessions
      ⟨some recorded, none, .updateResource "remoteSdp" sdp⟩

/-- The session id of the command is not read. -/
def handleIncomingEndSession (sessionsJson : Option Sessions) : Result :=
  let sessions := parseSessions sessionsJson
  let kept := match findStreamingSessionId sessions with
    | some sessionId => delete Entry.id sessionId sessions
    | none => sessions
  ⟨some kept, none, .updateResource "webrtcError" (units "ended")⟩

end Incoming

/-- The transient data of the device, and the deferred operations that wait for a response. -/
structure State where
  sessions : Option Sessions
  nextSessionId : Option JsString
  pending : List Context
  deriving DecidableEq

def State.initial : State := ⟨none, none, []⟩

/-- An input runs one handler, or one of the two stored values expires. -/
inductive Input where
  | createSession
  | stream (input : Option PropertyKey)
  | localSdp (cameraIsOfferer : Bool) (sdp : JsString)
  | destroySession (input : Option PropertyKey)
  | response (index : Nat) (field : Field)
  | failure (index : Nat)
  | offer (webRTCSessionID : Field) (sdp : Option JsString)
  | answer (webRTCSessionID : Field) (sdp : Option JsString)
  | endSession (webRTCSessionID : Field)
  | expireSessions
  | expireNextSessionId
  deriving DecidableEq

/-- The operations of a result are executed in order. A requested command waits for its response. -/
def State.execute (state : State) (pending : List Context) (result : Result) : State where
  sessions := result.sessions.or state.sessions
  nextSessionId := result.nextSessionId.or state.nextSessionId
  pending := match result.outcome with
    | .requestCommand _ context => pending ++ [context]
    | _ => pending

section
variable (inherited : PropertyKey → Bool) (deviceUuid : JsString)

def step (state : State) (input : Input) : Option State :=
  match input with
  | .createSession => some (state.execute state.pending (executeCreateSession state.sessions state.nextSessionId))
  | .stream input => some (state.execute state.pending (executeStream inherited deviceUuid input state.sessions))
  | .localSdp cameraIsOfferer sdp =>
      some (state.execute state.pending (executeLocalSdp cameraIsOfferer sdp state.sessions))
  | .destroySession input =>
      some (state.execute state.pending (executeDestroySession inherited input state.sessions))
  | .response index field => state.pending[index]?.map fun context =>
      state.execute (state.pending.eraseIdx index) (handleResponse field context)
  | .failure index => state.pending[index]?.map fun _ =>
      state.execute (state.pending.eraseIdx index) handleError
  | .offer webRTCSessionID sdp =>
      some (state.execute state.pending (handleIncomingOffer webRTCSessionID sdp state.sessions))
  | .answer webRTCSessionID sdp =>
      some (state.execute state.pending (handleIncomingAnswer webRTCSessionID sdp state.sessions))
  | .endSession _ => some (state.execute state.pending (handleIncomingEndSession state.sessions))
  | .expireSessions => some { state with sessions := none }
  | .expireNextSessionId => some { state with nextSessionId := none }

/-- A run of the driver. -/
def run (state : State) (inputs : List Input) : Option State := Runs.run (step inherited deviceUuid) state inputs

end

end Barton.Camera
