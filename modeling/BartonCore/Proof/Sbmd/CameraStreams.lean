import BartonCore.Proof.Sbmd.CameraIds

namespace Barton.Camera
open Tlv Cells

section Order

/-- A key stands before another key of an object. -/
def Ahead (first second : PropertyKey) : Prop := first ≠ second ∧ second.before first = false

/-- An object lists its keys once and in order. -/
def Ordered (sessions : Sessions) : Prop := (ids sessions).Pairwise Ahead

theorem Ahead.of_before {first second : PropertyKey} (before : first.before second = true) : Ahead first second := by
  cases first with
  | name text => cases before
  | index left =>
      cases second with
      | name text => exact ⟨nofun, rfl⟩
      | index right =>
          have less : left < right := by simpa [PropertyKey.before] using before
          constructor
          · intro same
            cases same
            omega
          · simp [PropertyKey.before, less.le]

theorem Ahead.trans_before {first second third : PropertyKey} (before : first.before second = true)
    (ahead : Ahead second third) : Ahead first third := by
  apply Ahead.of_before
  obtain ⟨different, later⟩ := ahead
  cases first with
  | name text => cases before
  | index left =>
      cases third with
      | name text => rfl
      | index right =>
          cases second with
          | name text => cases later
          | index middle =>
              simp only [PropertyKey.before, decide_eq_true_eq, decide_eq_false_iff_not] at before later ⊢
              omega

theorem Ordered.nodup {sessions : Sessions} (ordered : Ordered sessions) : (ids sessions).Nodup :=
  List.Pairwise.imp (fun ahead => ahead.1) ordered

/-- An assignment keeps the order. -/
theorem Ordered.assign {sessions : Sessions} (ordered : Ordered sessions) (id : PropertyKey) (session : Session) :
    Ordered (assign id session sessions) := by
  induction sessions with
  | nil => exact List.pairwise_singleton ..
  | cons entry rest ih =>
      obtain ⟨first, later⟩ := List.pairwise_cons.mp ordered
      unfold Camera.assign
      by_cases same : entry.id = id
      · rw [if_pos same]
        subst same
        exact List.pairwise_cons.mpr ⟨first, later⟩
      · rw [if_neg same]
        by_cases before : id.before entry.id = true
        · rw [if_pos before]
          refine List.pairwise_cons.mpr ⟨?_, ordered⟩
          intro key member
          rcases List.mem_cons.mp member with rfl | member
          · exact .of_before before
          · exact (first key member).trans_before before
        · rw [if_neg before]
          refine List.pairwise_cons.mpr ⟨?_, ih later⟩
          intro key member
          rcases List.mem_cons.mp (ids_assign _ _ _ member) with rfl | member
          · exact ⟨same, by simpa using before⟩
          · exact first key member

end Order

section Entries
variable {id : PropertyKey} {update : Session → Session} {sessions : Sessions} {entry : Entry}

theorem mem_modify (member : entry ∈ modify id update sessions) : ∃ old ∈ sessions, old.id = entry.id ∧
    entry.session = if old.id = id then update old.session else old.session := by
  obtain ⟨old, inside, rfl⟩ := List.mem_map.mp member
  refine ⟨old, inside, ?_⟩
  split
  · exact ⟨rfl, rfl⟩
  · exact ⟨rfl, rfl⟩

theorem mem_modify_of_ne (member : entry ∈ sessions) (other : entry.id ≠ id) : entry ∈ modify id update sessions :=
  List.mem_map.mpr ⟨entry, member, if_neg other⟩

theorem mem_delete_of_ne (member : entry ∈ sessions) (other : entry.id ≠ id) : entry ∈ delete Entry.id id sessions :=
  List.mem_filter.mpr ⟨member, bne_iff_ne.mpr other⟩

theorem mem_assign {session : Session} (member : entry ∈ assign id session sessions) :
    entry = ⟨id, session⟩ ∨ entry ∈ sessions := by
  induction sessions with
  | nil => exact Or.inl (List.mem_singleton.mp member)
  | cons first rest ih =>
      unfold assign at member
      split at member
      · rcases List.mem_cons.mp member with same | member
        · exact Or.inl same
        · exact Or.inr (List.mem_cons_of_mem _ member)
      · split at member
        · exact List.mem_cons.mp member
        · rcases List.mem_cons.mp member with rfl | member
          · exact Or.inr List.mem_cons_self
          · exact (ih member).imp_right (List.mem_cons_of_mem _)

end Entries

section Streams
variable {sessions : Sessions}

/-- The sessions in the state `streaming`. -/
def streaming (sessions : Sessions) : List Entry := sessions.filter fun entry => entry.session.state = .streaming

/-- All streaming sessions have one key. -/
structure SingleStream (sessions : Sessions) : Prop where
  ordered : Ordered sessions
  single : ∀ first ∈ streaming sessions, ∀ second ∈ streaming sessions, first.id = second.id

theorem mem_streaming {entry : Entry} :
    entry ∈ streaming sessions ↔ entry ∈ sessions ∧ entry.session.state = .streaming := by
  unfold streaming
  rw [List.mem_filter, decide_eq_true_eq]

theorem SingleStream.length_le (single : SingleStream sessions) : (streaming sessions).length ≤ 1 := by
  have distinct : ((streaming sessions).map Entry.id).Nodup :=
    single.ordered.nodup.sublist (List.filter_sublist.map Entry.id)
  have same := single.single
  cases list : streaming sessions with
  | nil => exact Nat.zero_le 1
  | cons first rest =>
      cases rest with
      | nil => exact le_rfl
      | cons second rest =>
          rw [list] at distinct same
          have equal := same first List.mem_cons_self second (List.mem_cons_of_mem _ List.mem_cons_self)
          rw [List.map_cons, List.map_cons, equal] at distinct
          exact absurd List.mem_cons_self (List.nodup_cons.mp distinct).1

/-- A field that is not the state keeps the streams. -/
theorem SingleStream.modify (single : SingleStream sessions) (id : PropertyKey)
    {update : Session → Session} (keeps : ∀ session, (update session).state = session.state) :
    SingleStream (modify id update sessions) := by
  have old {entry : Entry} (member : entry ∈ streaming (Camera.modify id update sessions)) :
      ∃ other ∈ streaming sessions, other.id = entry.id := by
    obtain ⟨inside, streams⟩ := mem_streaming.mp member
    obtain ⟨other, before, same, fields⟩ := mem_modify inside
    refine ⟨other, mem_streaming.mpr ⟨before, ?_⟩, same⟩
    rw [fields] at streams
    split at streams
    · rwa [keeps] at streams
    · exact streams
  constructor
  · unfold Ordered
    rw [ids_modify]
    exact single.ordered
  · intro first inFirst second inSecond
    obtain ⟨one, before, same⟩ := old inFirst
    obtain ⟨two, after, equal⟩ := old inSecond
    rw [← same, ← equal]
    exact single.single one before two after

theorem stable_singleStream : Stable SingleStream where
  empty := ⟨List.Pairwise.nil, nofun⟩
  video id field sessions single := single.modify id fun _ => rfl
  record id field sessions single := single.modify id fun _ => rfl
  delete id sessions single := by
    constructor
    · exact List.Pairwise.sublist (ids_delete id sessions) single.ordered
    · intro first inFirst second inSecond
      obtain ⟨one, streams⟩ := mem_streaming.mp inFirst
      obtain ⟨two, again⟩ := mem_streaming.mp inSecond
      exact single.single first (mem_streaming.mpr ⟨mem_of_mem_delete one, streams⟩) second
        (mem_streaming.mpr ⟨mem_of_mem_delete two, again⟩)

/-- A new session does not stream. -/
theorem SingleStream.assign (single : SingleStream sessions) (id : PropertyKey) :
    SingleStream (assign id ⟨.created, .undefined, .undefined⟩ sessions) := by
  have old {entry : Entry}
      (member : entry ∈ streaming (Camera.assign id ⟨.created, .undefined, .undefined⟩ sessions)) :
      entry ∈ streaming sessions := by
    obtain ⟨inside, streams⟩ := mem_streaming.mp member
    rcases mem_assign inside with rfl | before
    · cases streams
    · exact mem_streaming.mpr ⟨before, streams⟩
  exact ⟨single.ordered.assign _ _, fun first inFirst second inSecond =>
    single.single first (old inFirst) second (old inSecond)⟩

/-- A stream that starts alone is the only one. -/
theorem SingleStream.stream (single : SingleStream sessions) (id : PropertyKey)
    (alone : ∀ entry ∈ streaming sessions, entry.id = id) :
    SingleStream (Camera.modify id (fun session => { session with state := .streaming }) sessions) := by
  have only {entry : Entry} (member : entry ∈ streaming
      (Camera.modify id (fun session => { session with state := .streaming }) sessions)) : entry.id = id := by
    obtain ⟨inside, streams⟩ := mem_streaming.mp member
    obtain ⟨other, before, same, fields⟩ := mem_modify inside
    by_cases own : other.id = id
    · rw [← same, own]
    · rw [fields, if_neg own] at streams
      exact same ▸ alone other (mem_streaming.mpr ⟨before, streams⟩)
  constructor
  · unfold Ordered
    rw [ids_modify]
    exact single.ordered
  · intro first inFirst second inSecond
    rw [only inFirst, only inSecond]

end Streams

section Commands

/-- The number in a field. -/
def Field.value : Field → Option Nat
  | .number value => some value
  | _ => none

/-- The id that the camera has given to a session. -/
def Session.recorded (session : Session) : Option Nat := session.webRTCSessionID.value

/-- The id that a command of the camera carries. -/
def Input.webRTCSessionID : Input → Option Nat
  | .offer (.number value) _ => some value
  | .answer (.number value) _ => some value
  | .endSession (.number value) => some value
  | _ => none

/-- The ids of the camera whose sessions were destroyed. -/
def destroyed (state : State) (before : List Nat) : Input → List Nat
  | .destroySession (some sessionId) =>
      ((read Entry.id sessionId (parseSessions state.sessions)).bind fun entry =>
        entry.session.recorded).toList ++ before
  | _ => before

/-- A step, and the ids of the destroyed sessions. -/
def observe (inherited : PropertyKey → Bool) (deviceUuid : JsString) (current : State × List Nat)
    (input : Input) : Option (State × List Nat) :=
  (step inherited deviceUuid current.1 input).map fun next => (next, destroyed current.1 current.2 input)

/-- A stream starts alone, and a command of the camera finds a session of its id or one without an id. -/
def named (current : State × List Nat) : Input → Bool
  | .stream (some sessionId) =>
      (read Entry.id sessionId (parseSessions current.1.sessions)).isNone ||
        (streaming (parseSessions current.1.sessions)).all fun entry => entry.id = sessionId
  | .offer (.number value) (some _) =>
      current.1.found.all fun entry => entry.session.recorded = none ∨ entry.session.recorded = some value
  | .answer (.number value) (some _) =>
      current.1.found.all fun entry => entry.session.recorded = none ∨ entry.session.recorded = some value
  | .endSession (.number value) =>
      current.1.found.all fun entry =>
        entry.session.recorded = some value ∨ entry.session.recorded = none ∧ value ∉ current.2
  | _ => true

/-- The session is another one than the command names. -/
def Foreign (gone : List Nat) (input : Input) (value : Nat) (session : Session) : Prop :=
  match session.recorded with
  | some other => other ≠ value
  | none => input = .endSession (.number value) ∧ value ∈ gone

variable {state : State} {gone : List Nat} {value : Nat} {entry found : Entry} {input : Input}

/-- The found session is the only one with its key. -/
theorem State.found_eq (ordered : Ordered (parseSessions state.sessions)) (finds : state.found = some found)
    (member : entry ∈ parseSessions state.sessions) (same : entry.id = found.id) : entry = found :=
  List.inj_on_of_nodup_map ordered.nodup member (List.mem_of_find?_eq_some finds) same

/-- The foreign sessions are kept exactly when the changed one is not foreign. -/
theorem changeFound_kept {change : PropertyKey → Sessions → Sessions}
    (ordered : Ordered (parseSessions state.sessions))
    (keeps : ∀ {id sessions} {entry : Entry}, entry ∈ sessions → entry.id ≠ id → entry ∈ change id sessions)
    (changes : ∀ found : Entry, Foreign gone input value found.session →
      found ∉ change found.id (parseSessions state.sessions)) :
    (∀ entry ∈ parseSessions state.sessions, Foreign gone input value entry.session →
        entry ∈ state.changeFound change) ↔
      ∀ found, state.found = some found → ¬ Foreign gone input value found.session := by
  unfold State.changeFound
  constructor
  · intro kept found finds foreign
    have again := kept found (List.mem_of_find?_eq_some finds) foreign
    rw [finds] at again
    exact changes found foreign again
  · intro allowed entry member foreign
    cases finds : state.found with
    | none => exact member
    | some found =>
        apply keeps member
        intro same
        rw [State.found_eq ordered finds member same] at foreign
        exact allowed found finds foreign

theorem not_foreign_iff (other : input ≠ .endSession (.number value)) (session : Session) :
    ¬ Foreign gone input value session ↔ session.recorded = none ∨ session.recorded = some value := by
  unfold Foreign
  cases session.recorded with
  | none => simp [other]
  | some recorded => simp

theorem not_foreign_endSession_iff (session : Session) : ¬ Foreign gone (.endSession (.number value)) value session ↔
    session.recorded = some value ∨ session.recorded = none ∧ value ∉ gone := by
  unfold Foreign
  cases session.recorded with
  | none => simp
  | some recorded => simp

theorem all_found_iff {allowed : Entry → Bool} :
    state.found.all allowed = true ↔ ∀ found, state.found = some found → allowed found = true := by
  cases state.found with
  | none => simp
  | some found => simp

/-- The recorded id of a foreign session is replaced. -/
theorem not_mem_record (other : input ≠ .endSession (.number value))
    (foreign : Foreign gone input value found.session) (sessions : Sessions) :
    found ∉ record found.id (.number value) sessions := by
  intro member
  obtain ⟨old, _, same, fields⟩ := mem_modify member
  rw [if_pos same] at fields
  apply (not_foreign_iff other found.session).mpr _ foreign
  rw [fields]
  exact Or.inr rfl

theorem not_mem_delete (sessions : Sessions) : found ∉ delete Entry.id found.id sessions :=
  fun member => bne_iff_ne.mp (List.mem_filter.mp member).2 rfl

end Commands

section Runs
variable {inherited : PropertyKey → Bool} {deviceUuid : JsString} {current next : State × List Nat}

/-- At most one session streams after the step, and the step keeps the sessions that its command does not name. -/
structure Respects (current : State × List Nat) (input : Input) (next : State) : Prop where
  single : (streaming (parseSessions next.sessions)).length ≤ 1
  kept : ∀ value, input.webRTCSessionID = some value → ∀ entry ∈ parseSessions current.1.sessions,
    Foreign current.2 input value entry.session → entry ∈ parseSessions next.sessions

/-- A command of the camera keeps the foreign sessions exactly when it finds a session of its id or one without. -/
theorem kept_iff_named {input : Input} {value : Nat} (ordered : Ordered (parseSessions current.1.sessions))
    (carries : input.webRTCSessionID = some value)
    (stepped : observe inherited deviceUuid current input = some next) :
    (∀ entry ∈ parseSessions current.1.sessions, Foreign current.2 input value entry.session →
      entry ∈ parseSessions next.1.sessions) ↔ named current input = true := by
  obtain ⟨state, made, rfl⟩ := Option.map_eq_some_iff.mp stepped
  cases input with
  | createSession | stream | localSdp | destroySession | response | failure | expireSessions
  | expireNextSessionId => cases carries
  | offer field sdp =>
      cases made
      cases field with
      | undefined | null => cases carries
      | number number =>
          obtain rfl := Option.some.inj carries
          cases sdp with
          | none => exact ⟨fun _ => rfl, fun _ _ member _ => member⟩
          | some sdp =>
              have other : Input.offer (.number number) (some sdp) ≠ .endSession (.number number) := nofun
              rw [stored_offer]
              refine (changeFound_kept ordered mem_modify_of_ne fun found foreign =>
                not_mem_record other foreign _).trans ?_
              unfold named
              rw [all_found_iff]
              simp only [not_foreign_iff other, decide_eq_true_eq]
  | answer field sdp =>
      cases made
      cases field with
      | undefined | null => cases carries
      | number number =>
          obtain rfl := Option.some.inj carries
          cases sdp with
          | none => exact ⟨fun _ => rfl, fun _ _ member _ => member⟩
          | some sdp =>
              have other : Input.answer (.number number) (some sdp) ≠ .endSession (.number number) := nofun
              rw [stored_answer]
              refine (changeFound_kept ordered mem_modify_of_ne fun found foreign =>
                not_mem_record other foreign _).trans ?_
              unfold named
              rw [all_found_iff]
              simp only [not_foreign_iff other, decide_eq_true_eq]
  | endSession field =>
      cases made
      cases field with
      | undefined | null => cases carries
      | number number =>
          obtain rfl := Option.some.inj carries
          rw [stored_endSession]
          refine (changeFound_kept ordered mem_delete_of_ne fun found _ => not_mem_delete _).trans ?_
          unfold named
          rw [all_found_iff]
          simp only [not_foreign_endSession_iff, decide_eq_true_eq]

/-- The guard of a new stream. -/
theorem named_stream {sessionId : PropertyKey} : named current (.stream (some sessionId)) = true ↔
    read Entry.id sessionId (parseSessions current.1.sessions) = none ∨
      ∀ entry ∈ streaming (parseSessions current.1.sessions), entry.id = sessionId := by
  simp [named]

/-- A guarded step keeps a single stream. -/
theorem single_step {input : Input} (single : current.1.All SingleStream) (allowed : named current input = true)
    (stepped : observe inherited deviceUuid current input = some next) : next.1.All SingleStream := by
  obtain ⟨state, made, rfl⟩ := Option.map_eq_some_iff.mp stepped
  refine single.step stable_singleStream ?_ ?_ made
  · rintro rfl
    exact .of_sessions (single.stored.assign _) nofun
  · rintro sessionId rfl
    rcases named_stream.mp allowed with absent | alone
    · have unchanged := write_of_absent
        (fun entry : Entry => { entry with session := { entry.session with state := .streaming } })
        (read_eq_none.mp absent)
      unfold modify
      rw [unchanged]
      exact single.stored
    · exact single.stored.stream sessionId alone

/-- Two keys stream when a stream is not started alone. -/
theorem alone_of_length_le {sessions : Sessions} {id : PropertyKey} {own : Entry}
    (found : read Entry.id id sessions = some own)
    (single : (streaming (modify id (fun session => { session with state := .streaming }) sessions)).length ≤ 1) :
    ∀ entry ∈ streaming sessions, entry.id = id := by
  intro entry member
  obtain ⟨inside, streams⟩ := mem_streaming.mp member
  have stored := read_mem found
  have same := read_address found
  by_contra different
  have first : entry ∈ streaming (modify id (fun session => { session with state := .streaming }) sessions) :=
    mem_streaming.mpr ⟨mem_modify_of_ne inside different, streams⟩
  have second : ⟨own.id, { own.session with state := .streaming }⟩ ∈
      streaming (modify id (fun session => { session with state := .streaming }) sessions) :=
    mem_streaming.mpr ⟨List.mem_map.mpr ⟨own, stored, if_pos same⟩, rfl⟩
  obtain ⟨only, list⟩ : ∃ only, streaming (modify id (fun session => { session with state := .streaming }) sessions) =
      [only] := List.length_eq_one_iff.mp (le_antisymm single (List.length_pos_of_mem first))
  rw [list] at first second
  apply different
  rw [List.mem_singleton.mp first, ← List.mem_singleton.mp second]
  exact same

/-- As long as streams start alone and commands find the session they name, at most one session streams. The next
step keeps this and the foreign sessions exactly when it does so, too. -/
theorem run_named {early : List Input} {input : Input}
    (guarded : Runs.Guarded (observe inherited deviceUuid) (fun current input => named current input = true)
      (State.initial, []) early)
    (reached : Runs.run (observe inherited deviceUuid) (State.initial, []) early = some current)
    (stepped : observe inherited deviceUuid current input = some next) :
    (streaming (parseSessions current.1.sessions)).length ≤ 1 ∧
      (Respects current input next.1 ↔ named current input = true) := by
  have single : current.1.All SingleStream := Runs.Guarded.invariant _ (fun current => current.1.All SingleStream)
    (fun _ _ _ kept allowed stepped => single_step kept allowed stepped) guarded
    ⟨stable_singleStream.empty, nofun⟩ reached
  refine ⟨single.stored.length_le, ?_⟩
  constructor
  · intro respects
    cases carries : input.webRTCSessionID with
    | some value => exact (kept_iff_named single.stored.ordered carries stepped).mp (respects.kept value carries)
    | none =>
        obtain ⟨state, made, rfl⟩ := Option.map_eq_some_iff.mp stepped
        cases input with
        | createSession | localSdp | destroySession | response | failure | expireSessions
        | expireNextSessionId => rfl
        | stream sessionId =>
            cases sessionId with
            | none => rfl
            | some sessionId =>
                cases made
                apply named_stream.mpr
                cases own : read Entry.id sessionId (parseSessions current.1.sessions) with
                | none => exact Or.inl rfl
                | some entry =>
                    refine Or.inr (alone_of_length_le own ?_)
                    have streams := respects.single
                    unfold State.execute executeStream at streams
                    dsimp only at streams
                    rwa [own, Option.isSome_some, Bool.true_or, if_pos rfl] at streams
        | offer field sdp | answer field sdp | endSession field =>
            cases field with
            | undefined | null => rfl
            | number => cases carries
  · intro allowed
    exact ⟨(single_step single allowed stepped).stored.length_le, fun value carries =>
      (kept_iff_named single.stored.ordered carries stepped).mpr allowed⟩

/-- The end of the destroyed session 1 leaves the new session 2 in place. -/
theorem run_named_destroyed : ∃ current next,
    Runs.run (observe (fun _ => false) []) (State.initial, []) [.createSession, .stream (some (.index 1)),
      .answer (.number 7) (some []), .destroySession (some (.index 1)), .createSession] = some current ∧
    (streaming (parseSessions current.1.sessions)).length ≤ 1 ∧
    Respects current (.endSession (.number 7)) next := by
  have computed : ((Runs.run (observe (fun _ => false) []) (State.initial, []) [.createSession,
      .stream (some (.index 1)), .answer (.number 7) (some []), .destroySession (some (.index 1)),
      .createSession]).bind fun current =>
        (observe (fun _ => false) [] current (.endSession (.number 7))).map fun _ =>
          named current (.endSession (.number 7))) = some true := by decide +kernel
  obtain ⟨current, reached, stepped⟩ := Option.bind_eq_some_iff.mp computed
  obtain ⟨next, stepped, allowed⟩ := Option.map_eq_some_iff.mp stepped
  obtain ⟨single, respects⟩ := run_named (by decide +kernel) reached stepped
  exact ⟨current, next.1, reached, single, respects.mpr allowed⟩

/-- Two sessions stream at once. The end of the session 9 removes the session 7, and the end of a destroyed session
removes a new one. -/
theorem not_run_named :
    (run (fun _ => false) [] State.initial [.createSession, .stream (some (.index 1)), .createSession,
      .stream (some (.index 2))]).map (fun final => (streaming (parseSessions final.sessions)).length) = some 2 ∧
    (run (fun _ => false) [] State.initial [.createSession, .stream (some (.index 1)),
      .answer (.number 7) (some []), .endSession (.number 9)]).map State.sessions = some (some []) ∧
    (run (fun _ => false) [] State.initial [.createSession, .stream (some (.index 1)),
      .answer (.number 7) (some []), .destroySession (some (.index 1)), .createSession, .stream (some (.index 2)),
      .endSession (.number 7)]).map State.sessions = some (some []) := by
  decide +kernel

end Runs

end Barton.Camera
