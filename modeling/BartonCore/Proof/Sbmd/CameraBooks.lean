import BartonCore.Proof.Sbmd.CameraStreams

namespace Barton.Camera
open Tlv Cells

section View

/-- The recorded id of the session behind a key. -/
def view (key : PropertyKey) (sessions : Sessions) : Option (Option Nat) :=
  (read Entry.id key sessions).map fun entry => entry.session.recorded

variable {key id : PropertyKey} {sessions : Sessions}

theorem view_ne_none_of_mem {entry : Entry} (member : entry ∈ sessions) : view entry.id sessions ≠ none := by
  intro absent
  exact read_eq_none.mp (Option.map_eq_none_iff.mp absent) entry member rfl

theorem view_eq_none (absent : key ∉ ids sessions) : view key sessions = none := by
  unfold view
  rw [Option.map_eq_none_iff, read_eq_none]
  intro entry member same
  exact absent (same ▸ List.mem_map_of_mem member)

/-- A field that is not the recorded id does not change the view. -/
theorem view_modify {update : Session → Session} (keeps : ∀ session, (update session).recorded = session.recorded) :
    view key (modify id update sessions) = view key sessions := by
  unfold view modify
  by_cases same : key = id
  · subst same
    rw [read_write, Option.map_map]
    · congr 1
      funext entry
      exact keeps entry.session
    · exact fun _ => rfl
  · rw [read_write_of_ne]
    · exact fun _ => rfl
    · exact same

theorem view_record (field : Field) : view key (record id field sessions) =
    if key = id then (view key sessions).map fun _ => field.value else view key sessions := by
  unfold view record modify
  by_cases same : key = id
  · subst same
    rw [if_pos rfl, read_write, Option.map_map, Option.map_map]
    · rfl
    · exact fun _ => rfl
  · rw [if_neg same, read_write_of_ne]
    · exact fun _ => rfl
    · exact same

theorem view_delete : view key (delete Entry.id id sessions) = if key = id then none else view key sessions := by
  unfold view
  by_cases same : key = id
  · subst same
    rw [if_pos rfl, read_delete, Option.map_none]
  · rw [if_neg same, read_delete_of_ne same]

theorem view_assign (session : Session) : view key (assign id session sessions) =
    if key = id then some session.recorded else view key sessions := by
  unfold view Cells.read
  induction sessions with
  | nil =>
      by_cases same : key = id
      · simp [assign, same]
      · simp [assign, same, Ne.symm same]
  | cons entry rest ih =>
      unfold assign
      by_cases own : entry.id = id
      · rw [if_pos own]
        by_cases same : key = id
        · simp [same]
        · simp [same, own, Ne.symm same]
      · rw [if_neg own]
        by_cases before : id.before entry.id = true
        · rw [if_pos before]
          by_cases same : key = id
          · simp [same]
          · simp [same, Ne.symm same]
        · rw [if_neg before]
          by_cases first : entry.id = key
          · have other : key ≠ id := first ▸ own
            simp [first, other]
          · simpa [first] using ih

end View

section Books

/-- The books list the returned ids and the ids that were destroyed or ended, and the latest recorded id of each. -/
structure Books where
  created : List PropertyKey
  ended : List PropertyKey
  recorded : PropertyKey → Option Nat

def Books.initial : Books := ⟨[], [], fun _ => none⟩

/-- What the stored sessions show behind a key. -/
def Books.expected (books : Books) (key : PropertyKey) : Option (Option Nat) :=
  if key ∈ books.created ∧ key ∉ books.ended then some (books.recorded key) else none

def Books.create (books : Books) (id : PropertyKey) : Books :=
  { books with created := id :: books.created, recorded := Function.update books.recorded id none }

def Books.finish (books : Books) (id : PropertyKey) : Books := { books with ended := id :: books.ended }

/-- A field without a number records nothing. -/
def Books.note (books : Books) (id : PropertyKey) (field : Field) : Books :=
  field.value.elim books fun value => { books with recorded := Function.update books.recorded id (some value) }

/-- The books after an input. -/
def Books.next (state : State) (books : Books) : Input → Books
  | .createSession => books.create state.createdId
  | .destroySession (some sessionId) =>
      if view sessionId (parseSessions state.sessions) = none then books else books.finish sessionId
  | .endSession _ => state.found.elim books fun found => books.finish found.id
  | .offer field (some _) => state.found.elim books fun found => books.note found.id field
  | .answer field (some _) => state.found.elim books fun found => books.note found.id field
  | .response index field =>
      match state.pending[index]? with
      | some (.handleSolicitOfferResponse sessionId _) => books.note sessionId field
      | some (.handleProvideOfferResponse sessionId _) => books.note sessionId field
      | _ => books
  | _ => books

/-- A step, and the books about it. -/
def keep (inherited : PropertyKey → Bool) (deviceUuid : JsString) (current : State × Books) (input : Input) :
    Option (State × Books) :=
  (step inherited deviceUuid current.1 input).map fun next => (next, Books.next current.1 current.2 input)

/-- The response does not store outdated sessions. -/
def recordable (stored sessions : Sessions) (sessionId : PropertyKey) (field : Field) : Bool :=
  view sessionId stored ≠ none ∧ (field.value ≠ none ∨ view sessionId stored = some none) ∧
    ∀ key ∈ ids sessions ++ ids stored, key ≠ sessionId → view key sessions = view key stored

/-- Nothing has changed the stored sessions behind the back of a deferred operation. -/
def undisturbed (state : State) : Input → Bool
  | .expireSessions => false
  | .expireNextSessionId => false
  | .createSession => nextId (parseSessions state.sessions) state.nextSessionId < 2 ^ 53
  | .offer field (some _) => field.value ≠ none ||
      state.found.all fun found => view found.id (parseSessions state.sessions) = some none
  | .response index field =>
      match state.pending[index]? with
      | some (.handleAllocateForSolicit _ sessions) =>
          ∀ key ∈ ids sessions ++ ids (parseSessions state.sessions),
            view key sessions = view key (parseSessions state.sessions)
      | some (.handleSolicitOfferResponse sessionId sessions) =>
          recordable (parseSessions state.sessions) sessions sessionId field
      | some (.handleProvideOfferResponse sessionId sessions) =>
          recordable (parseSessions state.sessions) sessions sessionId field
      | _ => true
  | _ => true

variable {books : Books} {key id : PropertyKey} {sessions stored : Sessions} {field : Field}

theorem Books.expected_create (fresh : id ∉ books.ended) : (books.create id).expected key =
    if key = id then some none else books.expected key := by
  unfold Books.expected Books.create
  by_cases same : key = id
  · subst same
    simp [fresh]
  · simp [same]

theorem Books.expected_finish : (books.finish id).expected key = if key = id then none else books.expected key := by
  unfold Books.expected Books.finish
  by_cases same : key = id
  · simp [same]
  · simp [same]

theorem Books.expected_note : (books.note id field).expected key =
    if key = id then (books.expected key).map fun recorded => field.value.or recorded else books.expected key := by
  unfold Books.note
  cases field.value with
  | none =>
      rw [Option.elim_none]
      split
      · simp
      · rfl
  | some value =>
      unfold Books.expected
      by_cases same : key = id
      · subst same
        simp
      · simp [same]

/-- The response of a deferred operation records its id in current sessions. -/
theorem view_note (own : view id sessions ≠ none) (live : books.expected id ≠ none)
    (records : field.value ≠ none ∨ books.expected id = some none)
    (others : key ≠ id → view key sessions = books.expected key) :
    view key (record id field sessions) = (books.note id field).expected key := by
  rw [view_record, Books.expected_note]
  by_cases same : key = id
  · subst same
    rw [if_pos rfl, if_pos rfl]
    obtain ⟨before, held⟩ := Option.ne_none_iff_exists'.mp own
    obtain ⟨recorded, known⟩ := Option.ne_none_iff_exists'.mp live
    rw [held, known, Option.map_some, Option.map_some]
    rcases records with number | empty
    · obtain ⟨value, same⟩ := Option.ne_none_iff_exists'.mp number
      rw [same, Option.some_or]
    · obtain rfl := Option.some.inj (known.symm.trans empty)
      rw [Option.or_none]
  · rw [if_neg same, if_neg same]
    exact others same

/-- Sessions that agree on their own keys agree on all keys. -/
theorem view_eq_of_ids {property : PropertyKey → Prop}
    (agree : ∀ key ∈ ids sessions ++ ids stored, property key → view key sessions = view key stored)
    (applies : property key) : view key sessions = view key stored := by
  by_cases member : key ∈ ids sessions ++ ids stored
  · exact agree key member applies
  · rw [List.mem_append, not_or] at member
    rw [view_eq_none member.1, view_eq_none member.2]

end Books

section Kept
variable {inherited : PropertyKey → Bool} {deviceUuid : JsString}

/-- The session of a deferred operation. -/
def Context.sessionId : Context → PropertyKey
  | .handleAllocateForSolicit sessionId _ => sessionId
  | .handleSolicitOfferResponse sessionId _ => sessionId
  | .handleVideoStreamAllocateResponse _ sessionId _ => sessionId
  | .handleProvideOfferResponse sessionId _ => sessionId

/-- The snapshot of a deferred operation has its session. -/
def Context.owned (context : Context) : Prop := view context.sessionId context.sessions ≠ none

/-- The stored sessions agree with the books. -/
structure Kept (current : State × Books) : Prop where
  agrees : ∀ key, view key (parseSessions current.1.sessions) = current.2.expected key
  fresh : Fresh (current.1, current.2.created)
  ended : current.2.ended ⊆ current.2.created
  counts : current.1.pending = [] ∨ current.1.nextSessionId.isSome = true
  owned : ∀ context ∈ current.1.pending, context.owned

theorem kept_initial : Kept (State.initial, Books.initial) where
  agrees _ := rfl
  fresh := fresh_initial
  ended := List.Subset.refl _
  counts := Or.inl rfl
  owned := nofun

variable {current : State × Books} {next : State} {input : Input} {context : Context} {state : State}

/-- The found session has a key of the stored sessions. -/
theorem view_found {found : Entry} (finds : state.found = some found) :
    view found.id (parseSessions state.sessions) ≠ none := view_ne_none_of_mem (List.mem_of_find?_eq_some finds)

/-- Without a created session no session is stored. -/
theorem Kept.empty (kept : Kept current) (none : current.2.created = []) : parseSessions current.1.sessions = [] := by
  apply List.eq_nil_iff_forall_not_mem.mpr
  intro entry member
  have stored := view_ne_none_of_mem member
  rw [kept.agrees] at stored
  unfold Books.expected at stored
  simp [none] at stored

/-- The camera driver requests commands only for a stored session. -/
theorem executeLocalSdp_owned (cameraIsOfferer : Bool) (sdp : JsString) (state : State) {command : Command}
    (requests : (executeLocalSdp cameraIsOfferer sdp state.sessions).outcome = .requestCommand command context) :
    context.owned := by
  obtain ⟨outcome, plain, same⟩ | ⟨entry, requested, found, kind, same⟩ :=
    executeLocalSdp_cases state.sessions cameraIsOfferer sdp
  · rw [same] at requests
    exact absurd requests (plain command context)
  · rw [same] at requests
    cases requests
    have own : view entry.id (parseSessions state.sessions) ≠ none := view_found found
    rcases kind with rfl | rfl
    · exact own
    · exact own

theorem handleResponse_owned (field : Field) {context later : Context} {command : Command} (own : context.owned)
    (requests : (handleResponse field context).outcome = .requestCommand command later) : later.owned := by
  cases context with
  | handleAllocateForSolicit sessionId sessions =>
      cases requests
      unfold Context.owned Context.sessionId Context.sessions at own ⊢
      dsimp only at own ⊢
      rw [view_modify]
      · exact own
      · exact fun _ => rfl
  | handleVideoStreamAllocateResponse sdp sessionId sessions =>
      cases requests
      exact own
  | handleSolicitOfferResponse | handleProvideOfferResponse => cases requests

/-- A step adds at most the context of a requested command. -/
theorem mem_execute_pending {pending : List Context} {result : Result}
    (member : context ∈ (state.execute pending result).pending) :
    context ∈ pending ∨ ∃ command, result.outcome = .requestCommand command context := by
  unfold State.execute at member
  dsimp only at member
  split at member
  · rename_i command later outcome
    rcases List.mem_append.mp member with old | new
    · exact Or.inl old
    · rw [List.mem_singleton.mp new]
      exact Or.inr ⟨command, outcome⟩
  · exact Or.inl member

/-- Only `localSdp` and a response request a command with a context. -/
theorem pending_step (stepped : step inherited deviceUuid state input = some next) (member : context ∈ next.pending) :
    context ∈ state.pending ∨
      (∃ cameraIsOfferer sdp command,
        (executeLocalSdp cameraIsOfferer sdp state.sessions).outcome = .requestCommand command context) ∨
      ∃ before ∈ state.pending, ∃ field command,
        (handleResponse field before).outcome = .requestCommand command context := by
  cases input with
  | createSession | endSession =>
      cases stepped
      rcases mem_execute_pending member with old | ⟨command, requests⟩
      · exact Or.inl old
      · cases requests
  | stream sessionId =>
      cases stepped
      rcases mem_execute_pending member with old | ⟨command, requests⟩
      · exact Or.inl old
      · obtain ⟨outcome, plain, same | ⟨_, _, same⟩⟩ :=
          executeStream_cases inherited deviceUuid state.sessions sessionId
        · rw [same] at requests
          exact absurd requests (plain command context)
        · rw [same] at requests
          exact absurd requests (plain command context)
  | localSdp cameraIsOfferer sdp =>
      cases stepped
      rcases mem_execute_pending member with old | ⟨command, requests⟩
      · exact Or.inl old
      · exact Or.inr (Or.inl ⟨cameraIsOfferer, sdp, command, requests⟩)
  | destroySession sessionId =>
      cases stepped
      rcases mem_execute_pending member with old | ⟨command, requests⟩
      · exact Or.inl old
      · obtain ⟨outcome, plain, ⟨_, _, same, _⟩ | ⟨_, _, _, same⟩⟩ :=
          executeDestroySession_cases inherited state.sessions sessionId
        · rw [same] at requests
          exact absurd requests (plain command context)
        · rw [same] at requests
          exact absurd requests (plain command context)
  | response index field =>
      obtain ⟨before, found, rfl⟩ := Option.map_eq_some_iff.mp stepped
      rcases mem_execute_pending member with old | ⟨command, requests⟩
      · exact Or.inl (List.mem_of_mem_eraseIdx old)
      · exact Or.inr (Or.inr ⟨before, List.mem_of_getElem? found, field, command, requests⟩)
  | failure index =>
      obtain ⟨before, found, rfl⟩ := Option.map_eq_some_iff.mp stepped
      rcases mem_execute_pending member with old | ⟨command, requests⟩
      · exact Or.inl (List.mem_of_mem_eraseIdx old)
      · cases requests
  | offer field sdp | answer field sdp =>
      cases stepped
      rcases mem_execute_pending member with old | ⟨command, requests⟩
      · exact Or.inl old
      · cases sdp with
        | none | some => cases requests
  | expireSessions | expireNextSessionId =>
      cases stepped
      exact Or.inl member

theorem Kept.owned_step (kept : Kept current) (stepped : step inherited deviceUuid current.1 input = some next) :
    ∀ context ∈ next.pending, context.owned := by
  intro context member
  rcases pending_step stepped member with
    old | ⟨offerer, sdp, command, requests⟩ | ⟨before, old, field, command, requests⟩
  · exact kept.owned context old
  · exact executeLocalSdp_owned offerer sdp current.1 requests
  · exact handleResponse_owned field (kept.owned before old) requests

/-- Before the first session no operation is pending. -/
theorem Kept.counts_step (kept : Kept current) (live : input ≠ .expireNextSessionId)
    (stepped : step inherited deviceUuid current.1 input = some next) :
    next.pending = [] ∨ next.nextSessionId.isSome = true := by
  by_cases create : input = .createSession
  · subst create
    cases stepped
    exact Or.inr rfl
  · have same : next.nextSessionId = current.1.nextSessionId := by
      rcases step_nextSessionId create stepped with same | ⟨expires, _⟩
      · exact same
      · exact absurd expires live
    rw [same]
    by_cases stored : current.1.nextSessionId.isSome = true
    · exact Or.inr stored
    · have idle := kept.counts.resolve_right stored
      have unstored := kept.empty (kept.fresh.expired (Option.not_isSome_iff_eq_none.mp stored))
      refine Or.inl (List.eq_nil_iff_forall_not_mem.mpr ?_)
      intro context member
      rcases pending_step stepped member with old | ⟨offerer, sdp, command, requests⟩ | ⟨before, old, _⟩
      · rw [idle] at old
        cases old
      · unfold executeLocalSdp at requests
        rw [unstored] at requests
        cases requests
      · rw [idle] at old
        cases old

/-- The created ids are the ids that were returned since the start. -/
theorem created_next (live : input ≠ .expireNextSessionId) :
    (Books.next current.1 current.2 input).created = issued current.1 current.2.created input := by
  have noted (books : Books) (id : PropertyKey) (field : Field) : (books.note id field).created = books.created := by
    unfold Books.note
    cases field.value with
    | none => rfl
    | some value => rfl
  cases input with
  | expireNextSessionId => exact absurd rfl live
  | createSession | stream | localSdp | failure | expireSessions => rfl
  | destroySession sessionId =>
      cases sessionId with
      | none => rfl
      | some sessionId =>
          unfold Books.next
          dsimp only
          split
          · rfl
          · rfl
  | response index field =>
      unfold Books.next
      dsimp only
      split
      · exact noted ..
      · exact noted ..
      · rfl
  | offer field sdp | answer field sdp =>
      cases sdp with
      | none => rfl
      | some sdp =>
          unfold Books.next
          cases current.1.found with
          | none => rfl
          | some found => exact noted ..
  | endSession field =>
      unfold Books.next
      cases current.1.found with
      | none => rfl
      | some found => rfl

theorem live_of_undisturbed (allowed : undisturbed state input = true) : input ≠ .expireNextSessionId := by
  rintro rfl
  cases allowed

theorem Kept.fresh_step (kept : Kept current) (allowed : undisturbed current.1 input = true)
    (stepped : step inherited deviceUuid current.1 input = some next) :
    Fresh (next, (Books.next current.1 current.2 input).created) := by
  have live := live_of_undisturbed allowed
  have guard : counted current.1 input = true := by
    by_cases create : input = .createSession
    · subst create
      have small : nextId (parseSessions current.1.sessions) current.1.nextSessionId < 2 ^ 53 :=
        of_decide_eq_true allowed
      simpa [counted] using And.intro kept.counts small
    · simp [counted, create]
  apply kept.fresh.step guard
  unfold issue
  rw [stepped, created_next live]
  rfl

/-- A session that is shown is created. -/
theorem Books.mem_created {books : Books} {key : PropertyKey} (shown : books.expected key ≠ none) :
    key ∈ books.created := by
  by_contra absent
  apply shown
  unfold Books.expected
  rw [if_neg fun both => absent both.1]

theorem Kept.ended_step (kept : Kept current) : (Books.next current.1 current.2 input).ended ⊆
    (Books.next current.1 current.2 input).created := by
  have noted (books : Books) (id : PropertyKey) (field : Field) (before : books.ended ⊆ books.created) :
      (books.note id field).ended ⊆ (books.note id field).created := by
    unfold Books.note
    cases field.value with
    | none | some => exact before
  have finished (id : PropertyKey) (own : view id (parseSessions current.1.sessions) ≠ none) :
      (current.2.finish id).ended ⊆ (current.2.finish id).created := by
    rw [kept.agrees] at own
    have created := Books.mem_created own
    exact List.cons_subset.mpr ⟨created, kept.ended⟩
  cases input with
  | createSession => exact fun key member => List.mem_cons_of_mem _ (kept.ended member)
  | stream | localSdp | failure | expireSessions | expireNextSessionId => exact kept.ended
  | destroySession sessionId =>
      cases sessionId with
      | none => exact kept.ended
      | some sessionId =>
          unfold Books.next
          dsimp only
          by_cases absent : view sessionId (parseSessions current.1.sessions) = none
          · rw [if_pos absent]
            exact kept.ended
          · rw [if_neg absent]
            exact finished sessionId absent
  | response index field =>
      unfold Books.next
      dsimp only
      split
      · exact noted _ _ _ kept.ended
      · exact noted _ _ _ kept.ended
      · exact kept.ended
  | offer field sdp | answer field sdp =>
      cases sdp with
      | none => exact kept.ended
      | some sdp =>
          unfold Books.next
          cases current.1.found with
          | none => exact kept.ended
          | some found => exact noted _ _ _ kept.ended
  | endSession field =>
      unfold Books.next
      cases finds : current.1.found with
      | none => exact kept.ended
      | some found => exact finished found.id (view_found finds)

/-- A record for the found session. -/
theorem Kept.agrees_note (kept : Kept current) (field : Field) (records : field.value ≠ none ∨
      ∀ found, current.1.found = some found → view found.id (parseSessions current.1.sessions) = some none)
    (key : PropertyKey) : view key (current.1.changeFound fun id => record id field) =
      (current.1.found.elim current.2 fun found => current.2.note found.id field).expected key := by
  unfold State.changeFound
  cases finds : current.1.found with
  | none => exact kept.agrees key
  | some found =>
      have own := view_found finds
      refine view_note own ?_ ?_ fun _ => kept.agrees key
      · rwa [← kept.agrees]
      · exact records.imp_right fun empty => by rw [← kept.agrees, empty found finds]

/-- A record of a deferred operation. -/
theorem Kept.agrees_recordable (kept : Kept current) {sessions : Sessions} {sessionId : PropertyKey} {field : Field}
    (own : view sessionId sessions ≠ none)
    (allowed : recordable (parseSessions current.1.sessions) sessions sessionId field = true) (key : PropertyKey) :
    view key (record sessionId field sessions) = (current.2.note sessionId field).expected key := by
  obtain ⟨live, records, others⟩ := of_decide_eq_true allowed
  rw [kept.agrees] at live records
  refine view_note own live records ?_
  intro different
  rw [view_eq_of_ids others different]
  exact kept.agrees key

theorem Kept.agrees_create (kept : Kept current) (key : PropertyKey) :
    view key (parseSessions (executeCreateSession current.1.sessions current.1.nextSessionId).sessions) =
      (current.2.create current.1.createdId).expected key := by
  obtain ⟨_, limit, _, since⟩ := kept.fresh.nextId_spec
  have fresh : current.1.createdId ∉ current.2.ended := fun member =>
    not_mem_below limit since (kept.ended member)
  rw [Books.expected_create fresh, ← kept.agrees]
  exact view_assign _

theorem Kept.agrees_destroy (kept : Kept current) (sessionId : PropertyKey) (key : PropertyKey) :
    view key (parseSessions (current.1.execute current.1.pending
      (executeDestroySession inherited (some sessionId) current.1.sessions)).sessions) =
        (Books.next current.1 current.2 (.destroySession (some sessionId))).expected key := by
  unfold State.execute Books.next
  dsimp only
  obtain ⟨outcome, _, ⟨stored, unchanged, same, unstored⟩ | ⟨_, ⟨⟩, stored, same⟩⟩ :=
    executeDestroySession_cases inherited current.1.sessions (some sessionId)
  · have absent : view sessionId (parseSessions current.1.sessions) = none :=
      Option.map_eq_none_iff.mpr (unstored sessionId rfl)
    rw [if_pos absent, ← kept.agrees, same]
    rcases unchanged with rfl | rfl
    · rfl
    · rfl
  · have present : view sessionId (parseSessions current.1.sessions) ≠ none := fun absent =>
      stored (Option.map_eq_none_iff.mp absent)
    rw [if_neg present, Books.expected_finish, ← kept.agrees, same]
    exact view_delete

theorem Kept.agrees_response (kept : Kept current) {index : Nat} {field : Field}
    (found : current.1.pending[index]? = some context) (pending : List Context)
    (allowed : undisturbed current.1 (.response index field) = true) (key : PropertyKey) :
    view key (parseSessions (current.1.execute pending (handleResponse field context)).sessions) =
      (Books.next current.1 current.2 (.response index field)).expected key := by
  have own := kept.owned context (List.mem_of_getElem? found)
  unfold undisturbed at allowed
  unfold Books.next
  dsimp only at allowed ⊢
  rw [found] at allowed ⊢
  cases context with
  | handleAllocateForSolicit sessionId sessions =>
      have agree := of_decide_eq_true allowed
      calc view key (modify sessionId (fun session => { session with videoStreamID := field }) sessions)
          = view key sessions := view_modify fun _ => rfl
        _ = view key (parseSessions current.1.sessions) :=
          view_eq_of_ids (fun key member (_ : True) => agree key member) trivial
        _ = current.2.expected key := kept.agrees key
  | handleSolicitOfferResponse | handleProvideOfferResponse => exact kept.agrees_recordable own allowed key
  | handleVideoStreamAllocateResponse sdp sessionId sessions => exact kept.agrees key

/-- The stored sessions agree with the books after the step. -/
theorem Kept.agrees_step (kept : Kept current) (allowed : undisturbed current.1 input = true)
    (stepped : step inherited deviceUuid current.1 input = some next) (key : PropertyKey) :
    view key (parseSessions next.sessions) = (Books.next current.1 current.2 input).expected key := by
  cases input with
  | expireSessions | expireNextSessionId => cases allowed
  | createSession =>
      cases stepped
      exact kept.agrees_create key
  | stream sessionId =>
      cases stepped
      refine Eq.trans ?_ (kept.agrees key)
      have streams (id : PropertyKey) : view key (modify id (fun session => { session with state := .streaming })
          (parseSessions current.1.sessions)) = view key (parseSessions current.1.sessions) := by
        apply view_modify
        exact fun _ => rfl
      unfold State.execute
      obtain ⟨_, _, same | ⟨id, _, same⟩⟩ := executeStream_cases inherited deviceUuid current.1.sessions sessionId
      · rw [same]
        rfl
      · rw [same]
        exact streams id
  | localSdp cameraIsOfferer sdp =>
      cases stepped
      refine Eq.trans ?_ (kept.agrees key)
      unfold State.execute
      obtain ⟨_, _, same⟩ | ⟨_, _, _, _, same⟩ := executeLocalSdp_cases current.1.sessions cameraIsOfferer sdp
      · rw [same]
        rfl
      · rw [same]
        rfl
  | destroySession sessionId =>
      cases stepped
      cases sessionId with
      | none => exact kept.agrees key
      | some sessionId => exact kept.agrees_destroy sessionId key
  | response index field =>
      obtain ⟨context, found, rfl⟩ := Option.map_eq_some_iff.mp stepped
      exact kept.agrees_response found _ allowed key
  | failure index =>
      obtain ⟨context, found, rfl⟩ := Option.map_eq_some_iff.mp stepped
      exact kept.agrees key
  | offer field sdp =>
      cases stepped
      cases sdp with
      | none => exact kept.agrees key
      | some sdp =>
          rw [stored_offer]
          refine kept.agrees_note field ?_ key
          simpa only [undisturbed, Bool.or_eq_true, decide_eq_true_eq, all_found_iff] using allowed
  | answer field sdp =>
      cases stepped
      cases sdp with
      | none => exact kept.agrees key
      | some sdp =>
          cases field with
          | undefined | null =>
              refine Eq.trans (kept.agrees key) ?_
              unfold Books.next
              cases current.1.found with
              | none | some => rfl
          | number value =>
              have records : (Field.number value).value ≠ none := Option.some_ne_none value
              rw [stored_answer]
              exact kept.agrees_note _ (Or.inl records) key
  | endSession field =>
      cases stepped
      rw [stored_endSession]
      unfold State.changeFound Books.next
      cases current.1.found with
      | none => exact kept.agrees key
      | some found =>
          refine view_delete.trans ?_
          rw [Option.elim_some, Books.expected_finish, kept.agrees]

theorem Kept.step {after : State × Books} (kept : Kept current) (allowed : undisturbed current.1 input = true)
    (stepped : keep inherited deviceUuid current input = some after) : Kept after := by
  obtain ⟨next, made, rfl⟩ := Option.map_eq_some_iff.mp stepped
  exact ⟨kept.agrees_step allowed made, kept.fresh_step allowed made, kept.ended_step,
    kept.counts_step (live_of_undisturbed allowed) made, kept.owned_step made⟩

/-- A created session is stored with its latest recorded id until it is destroyed or ended, and never again. -/
theorem run_kept {inputs : List Input}
    (guarded : Runs.Guarded (keep inherited deviceUuid) (fun current input => undisturbed current.1 input = true)
      (State.initial, Books.initial) inputs)
    (reached : Runs.run (keep inherited deviceUuid) (State.initial, Books.initial) inputs = some current)
    (key : PropertyKey) :
    (key ∈ current.2.created → key ∉ current.2.ended →
      ∃ entry, Cells.read Entry.id key (parseSessions current.1.sessions) = some entry ∧
        entry.session.recorded = current.2.recorded key) ∧
    (key ∈ current.2.ended → Cells.read Entry.id key (parseSessions current.1.sessions) = none) := by
  have kept : Kept current := Runs.Guarded.invariant _ Kept
    (fun _ _ _ kept allowed stepped => kept.step allowed stepped) guarded kept_initial reached
  have agrees := kept.agrees key
  unfold Books.expected at agrees
  constructor
  · intro created live
    rw [if_pos ⟨created, live⟩] at agrees
    exact Option.map_eq_some_iff.mp agrees
  · intro gone
    rw [if_neg fun both => both.2 gone] at agrees
    exact Option.map_eq_none_iff.mp agrees

/-- A deferred operation of the session 1 ends before the session 2 is created. -/
theorem run_kept_solicited : ∃ current,
    Runs.run (keep (fun _ => false) []) (State.initial, Books.initial) [.createSession, .stream (some (.index 1)),
      .localSdp true [], .response 0 (.number 5), .response 0 (.number 7), .createSession] = some current ∧
    ∃ entry, Cells.read Entry.id (.index 1) (parseSessions current.1.sessions) = some entry ∧
      entry.session.recorded = some 7 := by
  have computed : (Runs.run (keep (fun _ => false) []) (State.initial, Books.initial) [.createSession,
      .stream (some (.index 1)), .localSdp true [], .response 0 (.number 5), .response 0 (.number 7),
      .createSession]).map (fun current => (current.2.created, current.2.ended, current.2.recorded (.index 1))) =
        some ([.index 2, .index 1], [], some 7) := by decide +kernel
  obtain ⟨current, reached, books⟩ := Option.map_eq_some_iff.mp computed
  obtain ⟨created, rest⟩ := Prod.mk.inj books
  obtain ⟨ended, recorded⟩ := Prod.mk.inj rest
  refine ⟨current, reached, ?_⟩
  rw [← recorded]
  refine (run_kept (by decide +kernel) reached (.index 1)).1 ?_ ?_
  · rw [created]
    decide
  · rw [ended]
    exact List.not_mem_nil

/-- The response to the allocation stores the sessions from before it. A session that is created meanwhile is lost,
and a session that is destroyed meanwhile is stored again. -/
theorem not_run_kept :
    (Runs.run (keep (fun _ => false) []) (State.initial, Books.initial) [.createSession, .stream (some (.index 1)),
      .localSdp true [], .createSession, .response 0 (.number 5)]).map (fun current => (current.2.created,
        current.2.ended, ids (parseSessions current.1.sessions))) = some ([.index 2, .index 1], [], [.index 1]) ∧
    (Runs.run (keep (fun _ => false) []) (State.initial, Books.initial) [.createSession, .stream (some (.index 1)),
      .localSdp true [], .destroySession (some (.index 1)), .response 0 (.number 5)]).map (fun current =>
        (current.2.created, current.2.ended, ids (parseSessions current.1.sessions))) =
          some ([.index 1], [.index 1], [.index 1]) := by
  decide +kernel

end Kept

end Barton.Camera
