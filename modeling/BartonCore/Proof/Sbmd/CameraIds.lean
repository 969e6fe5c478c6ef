import BartonCore.Proof.Sbmd.CameraSteps
import BartonCore.Proof.Tlv.Numerals

namespace Barton.Camera
open Tlv Cells
open Rounding (toDouble)

section Ids

/-- The keys of a `sessions` object. -/
def ids (sessions : Sessions) : List PropertyKey := sessions.map Entry.id

/-- Every key is the numeral of a number below the bound. -/
def Below (bound : Nat) (keys : List PropertyKey) : Prop := ∀ key ∈ keys, ∃ number < bound, key = .ofNumber number

theorem Below.mono {low high : Nat} {keys : List PropertyKey} (below : Below low keys) (less : low ≤ high) :
    Below high keys := by
  intro key member
  obtain ⟨number, small, same⟩ := below key member
  exact ⟨number, small.trans_le less, same⟩

theorem Below.subset {bound : Nat} {keys fewer : List PropertyKey} (below : Below bound keys)
    (subset : fewer ⊆ keys) : Below bound fewer := fun key member => below key (subset member)

theorem ids_modify (id : PropertyKey) (update : Session → Session) (sessions : Sessions) :
    ids (modify id update sessions) = ids sessions := by
  unfold ids modify write
  rw [List.map_map]
  refine List.map_congr_left ?_
  intro entry _
  dsimp only [Function.comp]
  split
  · rfl
  · rfl

theorem ids_delete (id : PropertyKey) (sessions : Sessions) :
    (ids (delete Entry.id id sessions)).Sublist (ids sessions) := List.filter_sublist.map Entry.id

theorem ids_assign (id : PropertyKey) (session : Session) (sessions : Sessions) :
    ids (assign id session sessions) ⊆ id :: ids sessions := by
  induction sessions with
  | nil => exact List.Subset.refl _
  | cons entry rest ih =>
      unfold assign
      split
      · intro key member
        rcases List.mem_cons.mp member with rfl | member
        · exact List.mem_cons_self
        · exact List.mem_cons_of_mem _ (List.mem_cons_of_mem _ member)
      · split
        · exact List.Subset.refl _
        · intro key member
          rcases List.mem_cons.mp member with rfl | member
          · exact List.mem_cons_of_mem _ List.mem_cons_self
          · rcases List.mem_cons.mp (ih member) with rfl | member
            · exact List.mem_cons_self
            · exact List.mem_cons_of_mem _ (List.mem_cons_of_mem _ member)

theorem stable_below (bound : Nat) : Stable fun sessions => Below bound (ids sessions) where
  empty := nofun
  video id field sessions below := by
    rw [ids_modify]
    exact below
  record id field sessions below := by
    unfold record
    rw [ids_modify]
    exact below
  delete id sessions below := below.subset (ids_delete id sessions).subset

end Ids

section Counter
variable {inherited : PropertyKey → Bool} {deviceUuid : JsString} {state next : State}

theorem parseInt_numeral {number : Nat} (small : number ≤ 2 ^ 53) :
    parseInt (units (toString number)) = some (number : ℤ) := by
  rw [parseInt_toString, toDouble_exact small]

theorem numeral_ne_nil (number : Nat) : units (toString number) ≠ [] := by
  intro empty
  have read := parseInt_toString number
  rw [empty] at read
  cases read

/-- The loop of `createSession` passes every key. -/
theorem nextFreeId_spec {sessions : Sessions} (below : Below (2 ^ 53) (ids sessions)) :
    1 ≤ nextFreeId sessions ∧ nextFreeId sessions ≤ 2 ^ 53 ∧ Below (nextFreeId sessions) (ids sessions) := by
  induction sessions using List.reverseRecOn with
  | nil => exact ⟨le_rfl, Nat.one_le_two_pow, nofun⟩
  | append_singleton sessions entry ih =>
      have split : ids (sessions ++ [entry]) = ids sessions ++ [entry.id] := List.map_append ..
      rw [split] at below
      obtain ⟨positive, limit, covers⟩ := ih (below.subset (List.subset_append_left _ _))
      obtain ⟨number, small, same⟩ := below entry.id (List.mem_append_right _ (List.mem_singleton_self _))
      have reads : parseInt entry.id.text = some (number : ℤ) := by
        rw [same, ofNumber_text, parseInt_numeral small.le]
      have value : nextFreeId (sessions ++ [entry]) =
          if nextFreeId sessions ≤ number then number + 1 else nextFreeId sessions := by
        unfold nextFreeId
        rw [List.foldl_append, List.foldl_cons, List.foldl_nil, reads]
        dsimp only
        rw [Int.toNat_natCast, toDouble_exact small]
        simp only [Nat.cast_le]
      rw [value, split]
      by_cases covered : nextFreeId sessions ≤ number
      · rw [if_pos covered]
        refine ⟨Nat.succ_pos _, small, ?_⟩
        intro key member
        rcases List.mem_append.mp member with old | new
        · exact (covers.mono (by omega)) key old
        · exact ⟨number, Nat.lt_succ_self _, by rw [List.mem_singleton.mp new, same]⟩
      · rw [if_neg covered]
        refine ⟨positive, limit, ?_⟩
        intro key member
        rcases List.mem_append.mp member with old | new
        · exact covers key old
        · exact ⟨number, not_le.mp covered, by rw [List.mem_singleton.mp new, same]⟩

theorem nextId_none (sessions : Sessions) : nextId sessions none = nextFreeId sessions := rfl

theorem nextId_numeral (sessions : Sessions) {number : Nat} (positive : 1 ≤ number) (small : number ≤ 2 ^ 53) :
    nextId sessions (some (units (toString number))) = number := by
  unfold nextId
  rw [Option.filter_some, if_pos (by simpa using numeral_ne_nil number), Option.bind_some,
    parseInt_numeral small]
  dsimp only
  rw [if_neg (by omega), Int.toNat_natCast]

theorem execute_nextSessionId (pending : List Context) {result : Result} (keeps : result.nextSessionId = none) :
    (state.execute pending result).nextSessionId = state.nextSessionId := by
  unfold State.execute
  rw [keeps]
  rfl

/-- Only `createSession` stores a next id. -/
theorem step_nextSessionId {input : Input} (other : input ≠ .createSession)
    (stepped : step inherited deviceUuid state input = some next) :
    next.nextSessionId = state.nextSessionId ∨ input = .expireNextSessionId ∧ next.nextSessionId = none := by
  cases input with
  | createSession => exact absurd rfl other
  | stream input =>
      cases stepped
      refine Or.inl (execute_nextSessionId _ ?_)
      obtain ⟨_, _, same | ⟨_, _, same⟩⟩ := executeStream_cases inherited deviceUuid state.sessions input
      · rw [same]
      · rw [same]
  | localSdp cameraIsOfferer sdp =>
      cases stepped
      refine Or.inl (execute_nextSessionId _ ?_)
      obtain ⟨_, _, same⟩ | ⟨_, _, _, _, same⟩ := executeLocalSdp_cases state.sessions cameraIsOfferer sdp
      · rw [same]
      · rw [same]
  | destroySession input =>
      cases stepped
      refine Or.inl (execute_nextSessionId _ ?_)
      obtain ⟨_, _, ⟨_, _, same, _⟩ | ⟨_, _, _, same⟩⟩ := executeDestroySession_cases inherited state.sessions input
      · rw [same]
      · rw [same]
  | response index field =>
      obtain ⟨context, found, rfl⟩ := Option.map_eq_some_iff.mp stepped
      refine Or.inl (execute_nextSessionId _ ?_)
      cases context <;> rfl
  | failure index =>
      obtain ⟨context, found, rfl⟩ := Option.map_eq_some_iff.mp stepped
      exact Or.inl (execute_nextSessionId _ rfl)
  | offer webRTCSessionID sdp | answer webRTCSessionID sdp =>
      cases stepped
      refine Or.inl (execute_nextSessionId _ ?_)
      cases sdp <;> rfl
  | endSession webRTCSessionID =>
      cases stepped
      exact Or.inl (execute_nextSessionId _ rfl)
  | expireSessions =>
      cases stepped
      exact Or.inl rfl
  | expireNextSessionId =>
      cases stepped
      exact Or.inr ⟨rfl, rfl⟩

end Counter

section Fresh

/-- The id that `createSession` returns in the state. -/
def State.createdId (state : State) : PropertyKey :=
  .ofNumber (nextId (parseSessions state.sessions) state.nextSessionId)

/-- The ids that were returned since the next id has expired. -/
def issued (state : State) (since : List PropertyKey) : Input → List PropertyKey
  | .createSession => state.createdId :: since
  | .expireNextSessionId => []
  | _ => since

/-- A step, and the ids that were returned since the next id has expired. -/
def issue (inherited : PropertyKey → Bool) (deviceUuid : JsString) (current : State × List PropertyKey)
    (input : Input) : Option (State × List PropertyKey) :=
  (step inherited deviceUuid current.1 input).map fun next => (next, issued current.1 current.2 input)

/-- A session is created with a stored next id or while no deferred operation is pending, and its id is counted
exactly. -/
def counted (state : State) (input : Input) : Bool :=
  input ≠ .createSession ||
    (state.pending = [] || state.nextSessionId.isSome) &&
      nextId (parseSessions state.sessions) state.nextSessionId < 2 ^ 53

/-- The next id is greater than every key that is stored, held by a context or returned. -/
structure Fresh (current : State × List PropertyKey) : Prop where
  bounded : current.1.All fun sessions => Below (2 ^ 53) (ids sessions)
  counter : ∀ text, current.1.nextSessionId = some text → ∃ number, 1 ≤ number ∧ number ≤ 2 ^ 53 ∧
    text = units (toString number) ∧ current.1.All (fun sessions => Below number (ids sessions)) ∧
      Below number current.2
  expired : current.1.nextSessionId = none → current.2 = []

variable {inherited : PropertyKey → Bool} {deviceUuid : JsString} {current next : State × List PropertyKey}

/-- The next id is above the stored keys and the returned ids. -/
theorem Fresh.nextId_spec (fresh : Fresh current) :
    1 ≤ nextId (parseSessions current.1.sessions) current.1.nextSessionId ∧
      nextId (parseSessions current.1.sessions) current.1.nextSessionId ≤ 2 ^ 53 ∧
      Below (nextId (parseSessions current.1.sessions) current.1.nextSessionId)
        (ids (parseSessions current.1.sessions)) ∧
      Below (nextId (parseSessions current.1.sessions) current.1.nextSessionId) current.2 := by
  cases text : current.1.nextSessionId with
  | none =>
      rw [nextId_none]
      obtain ⟨positive, limit, covers⟩ := nextFreeId_spec fresh.bounded.stored
      refine ⟨positive, limit, covers, ?_⟩
      rw [fresh.expired text]
      exact nofun
  | some numeral =>
      obtain ⟨number, positive, limit, rfl, all, since⟩ := fresh.counter numeral text
      rw [nextId_numeral _ positive limit]
      exact ⟨positive, limit, all.stored, since⟩

/-- A stored next id is above the keys of the contexts. -/
theorem Fresh.pending (fresh : Fresh current)
    (counts : current.1.pending = [] ∨ current.1.nextSessionId.isSome = true) :
    ∀ context ∈ current.1.pending,
      Below (nextId (parseSessions current.1.sessions) current.1.nextSessionId) (ids context.sessions) := by
  intro context member
  rcases counts with idle | stored
  · rw [idle] at member
    cases member
  · obtain ⟨text, same⟩ := Option.isSome_iff_exists.mp stored
    obtain ⟨number, positive, limit, rfl, all, _⟩ := fresh.counter text same
    rw [same, nextId_numeral _ positive limit]
    exact all.pending context member

theorem not_mem_below {number : Nat} (small : number ≤ 2 ^ 53) {keys : List PropertyKey}
    (below : Below number keys) : PropertyKey.ofNumber number ∉ keys := by
  intro member
  obtain ⟨other, less, same⟩ := below _ member
  exact absurd (ofNumber_inj small (less.le.trans small) same) less.ne'

/-- The created session has a key below the new next id. -/
theorem Fresh.create (fresh : Fresh current) (allowed : counted current.1 .createSession = true)
    (stepped : issue inherited deviceUuid current .createSession = some next) : Fresh next := by
  obtain ⟨positive, limit, stored, since⟩ := fresh.nextId_spec
  obtain ⟨counts, small⟩ : (current.1.pending = [] ∨ current.1.nextSessionId.isSome = true) ∧
      nextId (parseSessions current.1.sessions) current.1.nextSessionId < 2 ^ 53 := by
    simpa [counted] using allowed
  obtain ⟨state, made, rfl⟩ := Option.map_eq_some_iff.mp stepped
  cases made
  have assigned {bound : Nat} (above : nextId (parseSessions current.1.sessions) current.1.nextSessionId < bound) :
      (current.1.execute current.1.pending
        (executeCreateSession current.1.sessions current.1.nextSessionId)).All
          fun sessions => Below bound (ids sessions) := by
    constructor
    · refine Below.subset ?_ (ids_assign _ _ _)
      intro key member
      rcases List.mem_cons.mp member with rfl | member
      · exact ⟨_, above, rfl⟩
      · exact (stored.mono above.le) key member
    · intro context member
      exact (fresh.pending counts context member).mono above.le
  refine ⟨assigned small, ?_, nofun⟩
  intro text same
  have value : text = units (toString
      (nextId (parseSessions current.1.sessions) current.1.nextSessionId + 1)) := by
    unfold State.execute executeCreateSession at same
    cases same
    rw [toDouble_exact small]
  refine ⟨_, Nat.succ_pos _, small, value, assigned (Nat.lt_succ_self _), ?_⟩
  intro key member
  rcases List.mem_cons.mp member with rfl | member
  · exact ⟨_, Nat.lt_succ_self _, rfl⟩
  · exact (since.mono (Nat.le_succ _)) key member

/-- Only `createSession` returns an id. -/
theorem issued_of_ne {state : State} {input : Input} (other : input ≠ .createSession) (since : List PropertyKey) :
    issued state since input = if input = .expireNextSessionId then [] else since := by
  cases input with
  | createSession => exact absurd rfl other
  | expireNextSessionId => rfl
  | stream | localSdp | destroySession | response | failure | offer | answer | endSession | expireSessions => rfl

theorem Fresh.step {input : Input} (fresh : Fresh current) (allowed : counted current.1 input = true)
    (stepped : issue inherited deviceUuid current input = some next) : Fresh next := by
  by_cases create : input = .createSession
  · subst create
    exact fresh.create allowed stepped
  · obtain ⟨state, made, rfl⟩ := Option.map_eq_some_iff.mp stepped
    have below {bound : Nat} (all : current.1.All fun sessions => Below bound (ids sessions)) :
        state.All fun sessions => Below bound (ids sessions) := by
      refine all.step (stable_below bound) (fun same => absurd same create) ?_ made
      intro sessionId _
      rw [ids_modify]
      exact all.stored
    rw [issued_of_ne create]
    rcases step_nextSessionId create made with same | ⟨expires, none⟩
    · refine ⟨below fresh.bounded, ?_, ?_⟩
      · intro text stored
        rw [same] at stored
        obtain ⟨number, positive, limit, numeral, all, before⟩ := fresh.counter text stored
        refine ⟨number, positive, limit, numeral, below all, ?_⟩
        dsimp only
        split
        · exact nofun
        · exact before
      · intro absent
        rw [same] at absent
        dsimp only
        rw [fresh.expired absent]
        split <;> rfl
    · refine ⟨below fresh.bounded, ?_, ?_⟩
      · intro text stored
        rw [none] at stored
        cases stored
      · intro _
        exact if_pos expires

theorem fresh_initial : Fresh (State.initial, []) := ⟨⟨nofun, nofun⟩, nofun, fun _ => rfl⟩

/-- A created session has neither a stored key nor an id that was returned since the next id has expired. -/
theorem createSession_fresh {inputs : List Input} {id : PropertyKey}
    (guarded : Runs.Guarded (issue inherited deviceUuid) (fun current input => counted current.1 input = true)
      (State.initial, []) inputs)
    (reached : Runs.run (issue inherited deviceUuid) (State.initial, []) inputs = some current)
    (created : (executeCreateSession current.1.sessions current.1.nextSessionId).outcome = .sessionId id) :
    id ∉ ids (parseSessions current.1.sessions) ∧ id ∉ current.2 := by
  have fresh : Fresh current := Runs.Guarded.invariant _ Fresh
    (fun _ _ _ kept allowed stepped => kept.step allowed stepped) guarded fresh_initial reached
  obtain ⟨_, limit, stored, since⟩ := fresh.nextId_spec
  cases created
  exact ⟨not_mem_below limit stored, not_mem_below limit since⟩

theorem createSession_fresh_expired : ∃ current,
    Runs.run (issue (fun _ => false) []) (State.initial, []) [.createSession, .expireSessions, .createSession] =
      some current ∧
    PropertyKey.ofNumber 3 ∉ ids (parseSessions current.1.sessions) ∧ PropertyKey.ofNumber 3 ∉ current.2 := by
  have computed : (Runs.run (issue (fun _ => false) []) (State.initial, [])
      [.createSession, .expireSessions, .createSession]).map (fun current =>
        (executeCreateSession current.1.sessions current.1.nextSessionId).outcome) =
          some (.sessionId (.ofNumber 3)) := by decide +kernel
  obtain ⟨current, reached, created⟩ := Option.map_eq_some_iff.mp computed
  exact ⟨current, reached, createSession_fresh (by decide +kernel) reached created⟩

end Fresh

section Limit

/-- Every session is destroyed before the next one is created. -/
def rounds (count : Nat) : List Input :=
  (List.range count).flatMap fun index => [.createSession, .destroySession (some (.ofNumber (index + 1)))]

/-- The state after `createSession` when no session is stored. -/
theorem issue_create {current : State × List PropertyKey} (stored : parseSessions current.1.sessions = []) :
    issue (fun _ => false) [] current .createSession =
      some (⟨some [⟨current.1.createdId, ⟨.created, .undefined, .undefined⟩⟩],
        some (units (toString (toDouble (nextId [] current.1.nextSessionId + 1)))), current.1.pending⟩,
        current.1.createdId :: current.2) := by
  unfold issue step State.execute issued State.createdId executeCreateSession
  dsimp only
  rw [stored]
  rfl

/-- The sessions are counted up to `2 ^ 53`. -/
theorem run_rounds (count : Nat) (small : count < 2 ^ 53) : ∃ current,
    Runs.run (issue (fun _ => false) []) (State.initial, []) (rounds count) = some current ∧
      parseSessions current.1.sessions = [] ∧ nextId [] current.1.nextSessionId = count + 1 := by
  induction count with
  | zero => exact ⟨_, rfl, rfl, rfl⟩
  | succ count ih =>
      obtain ⟨current, reached, stored, next⟩ := ih (by omega)
      have created : current.1.createdId = .ofNumber (count + 1) := by
        rw [State.createdId, stored, next]
      have counts : toDouble (count + 1 + 1) = count + 1 + 1 := toDouble_exact (by omega)
      have destroyed (number : JsString) (pending : List Context) (returned : List PropertyKey) :
          issue (fun _ => false) [] (⟨some [⟨.ofNumber (count + 1), ⟨.created, .undefined, .undefined⟩⟩],
            some number, pending⟩, returned) (.destroySession (some (.ofNumber (count + 1)))) =
              some (⟨some [], some number, pending⟩, returned) := by
        simp [issue, step, executeDestroySession, State.execute, parseSessions, issued, Cells.read, delete]
      have split : rounds (count + 1) =
          rounds count ++ [.createSession, .destroySession (some (.ofNumber (count + 1)))] := by
        rw [rounds, List.range_succ, List.flatMap_append, List.flatMap_singleton, rounds]
      have round : Runs.run (issue (fun _ => false) []) (State.initial, []) (rounds (count + 1)) =
          some (⟨some [], some (units (toString (count + 1 + 1))), current.1.pending⟩,
            .ofNumber (count + 1) :: current.2) := by
        rw [split, Runs.run_append, reached, Option.bind_some, Runs.run, issue_create stored, created, next, counts,
          Option.bind_some, Runs.run, destroyed]
        rfl
      exact ⟨_, round, rfl, nextId_numeral [] (by omega) (by omega)⟩

/-- The next id stays at `2 ^ 53`, so this id is returned twice and its session is replaced. -/
theorem not_createSession_fresh : ∃ current,
    Runs.run (issue (fun _ => false) []) (State.initial, []) (rounds (2 ^ 53 - 1) ++ [.createSession]) =
      some current ∧
    ∃ id, (executeCreateSession current.1.sessions current.1.nextSessionId).outcome = .sessionId id ∧
      id ∈ ids (parseSessions current.1.sessions) ∧ id ∈ current.2 := by
  obtain ⟨current, reached, stored, next⟩ := run_rounds (2 ^ 53 - 1) (by omega)
  rw [show 2 ^ 53 - 1 + 1 = 2 ^ 53 by omega] at next
  have sticks : toDouble (2 ^ 53 + 1) = 2 ^ 53 := by decide +kernel
  have returned : current.1.createdId = .ofNumber (2 ^ 53) := by
    rw [State.createdId, stored, next]
  have created : Runs.run (issue (fun _ => false) []) (State.initial, []) (rounds (2 ^ 53 - 1) ++ [.createSession]) =
      some (⟨some [⟨.ofNumber (2 ^ 53), ⟨.created, .undefined, .undefined⟩⟩], some (units (toString (2 ^ 53))),
        current.1.pending⟩, .ofNumber (2 ^ 53) :: current.2) := by
    rw [Runs.run_append, reached, Option.bind_some, Runs.run, issue_create stored, returned, next, sticks]
    rfl
  refine ⟨_, created, .ofNumber (2 ^ 53), ?_, List.mem_cons_self, List.mem_cons_self⟩
  unfold executeCreateSession
  dsimp only
  rw [nextId_numeral _ (by omega) le_rfl]

end Limit

end Barton.Camera
