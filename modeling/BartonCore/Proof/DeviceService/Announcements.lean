import BartonCore.Proof.Database.Startup
import BartonCore.Proof.DeviceService.Moves

namespace Barton.Lifecycle
open Database

/-- The database has the device, and its copy has endpoints with the ids and the URIs. -/
def HoldsEndpoints (db : JsonDatabase) (uuid : String) (endpoints : List DeviceEndpoint) : Prop :=
  ∃ stored, jsonDatabaseGetDeviceById db (some uuid) = some stored ∧
    ∀ endpoint ∈ endpoints, ∃ other ∈ stored.endpoints, other.id = endpoint.id ∧ other.uri = endpoint.uri

/-- An event of a pairing is about something that the database has. -/
def StoredIn (db : JsonDatabase) (uuid : String) : Effect → Prop
  | .deviceAdded announced => announced = some uuid ∧ HoldsEndpoints db uuid []
  | .endpointAdded endpoint _ => HoldsEndpoints db uuid [endpoint]
  | _ => True

/-- A moment of a thread is one of its moves. -/
structure Moment where
  thread : List Frame
  service : Service
  outcome : Outcome
  next : Service

/-- The added events that a move sends. -/
def Moment.sent (moment : Moment) : List Effect :=
  (moment.next.effects.drop moment.service.effects.length).filter Effect.isAdded

/-- What the move announces is in the database. -/
def Moment.AnnouncesStored (uuid : String) (moment : Moment) : Prop :=
  ∀ effect ∈ moment.sent, StoredIn moment.next.db uuid effect

def enabledEndpoints (device : DeviceRecord) : List DeviceEndpoint :=
  device.endpoints.filter fun endpoint => endpoint.enabled

/-- The uuid is new, every URI of the tree is valid, distinct, and free, and the save succeeds. Or the database
already holds the uuid and the enabled endpoints. -/
def Storable (lib : Library) (db : JsonDatabase) (uuid : String) (device : DeviceRecord) (stored : Bool) : Prop :=
  (db.has uuid = false ∧ stored = true ∧
    Admitted db.resourcesByUri (treeChecks lib db.nextAddress (newEntry db device).device)) ∨
  HoldsEndpoints db uuid (enabledEndpoints device)

/-- A move that finalizes a new device with events does so for a storable device. -/
def Moment.FinalizesStorable (lib : Library) (found : DeviceFoundDetails) (moment : Moment) : Prop :=
  ∀ device, moment.thread = [.finalizeFound found device] → found.inRepairMode = false → found.migrated = false →
    Storable lib moment.service.db found.deviceUuid (setUris found.deviceUuid device) moment.outcome.stored

/-- What an event announces is the device or an endpoint with a URI. -/
def announcedUri : Effect → Option String
  | .endpointAdded endpoint _ => endpoint.uri
  | _ => none

/-- The moves of one thread in a run. -/
def momentsOf (lib : Library) (drivers : Drivers) (index : Nat) :
    Threads.Configuration Service (List Frame) → List (Nat × Outcome) → List Moment
  | _, [] => []
  | current, input :: rest =>
      match current.threads[input.1]?, Threads.step (move lib drivers) current input with
      | some thread, some next =>
          (if input.1 = index then [⟨thread, current.shared, input.2, next.shared⟩] else []) ++
            momentsOf lib drivers index next rest
      | _, _ => []

section Quiet
variable {lib : Library} {drivers : Drivers} {service next : Service} {moved : List Frame} {outcome : Outcome}

/-- A thread without a frame of a pairing stays so and announces nothing. -/
theorem move_quiet {thread : List Frame} (silent : ∀ frame ∈ thread, frame.pairs = false)
    (made : move lib drivers service thread outcome = some (next, moved)) :
    Quiet lib outcome.stored service next moved := by
  unfold move at made
  split at made
  · cases made
  · cases made
  · cases made
    exact .read (List.forall_mem_cons.mp silent).2
  · obtain ⟨⟨after, frames⟩, step, equal⟩ := Option.map_eq_some_iff.mp made
    cases equal
    obtain ⟨first, others⟩ := List.forall_mem_cons.mp silent
    have quiet := frameMove_quiet first step
    exact ⟨quiet.performs, quiet.effects, List.forall_mem_append.mpr ⟨quiet.frames, others⟩⟩

theorem sent_eq_nil {thread : List Frame} {effects : List Effect} (same : next.effects = service.effects ++ effects)
    (added : ∀ effect ∈ effects, effect.isAdded = false) : Moment.sent ⟨thread, service, outcome, next⟩ = [] := by
  unfold Moment.sent
  dsimp only
  rw [same, List.drop_left, List.filter_eq_nil_iff]
  intro effect member
  rw [added effect member]
  exact Bool.false_ne_true

theorem Quiet.sent {stored : Bool} {thread : List Frame} (quiet : Quiet lib stored service next moved) :
    Moment.sent ⟨thread, service, outcome, next⟩ = [] := by
  obtain ⟨effects, same, added⟩ := quiet.effects
  exact sent_eq_nil same added

end Quiet

section Storing
variable {lib : Library} {db next : JsonDatabase} {uuid : String} {device : DeviceRecord} {stored result : Bool}

theorem HoldsEndpoints.of_devices {endpoints : List DeviceEndpoint} (same : next.devices = db.devices) :
    HoldsEndpoints next uuid endpoints ↔ HoldsEndpoints db uuid endpoints := by
  unfold HoldsEndpoints jsonDatabaseGetDeviceById JsonDatabase.deviceEntry
  rw [same]

/-- The events of a pairing are about the device and its enabled endpoints. -/
theorem addedEffects_storedIn {found : DeviceFoundDetails} (named : device.uuid = some uuid)
    (announced : found.migrated = false) :
    (∀ effect ∈ addedEffects found device, StoredIn db uuid effect) ↔
      HoldsEndpoints db uuid (enabledEndpoints device) := by
  unfold addedEffects
  rw [announced, if_neg Bool.false_ne_true, List.forall_mem_cons]
  constructor
  · rintro ⟨⟨_, copy, known, _⟩, each⟩
    refine ⟨copy, known, fun endpoint member => ?_⟩
    obtain ⟨other, again, held⟩ := each _ (List.mem_map_of_mem member)
    rw [known, Option.some.injEq] at again
    subst again
    exact held endpoint List.mem_cons_self
  · rintro ⟨copy, known, held⟩
    refine ⟨⟨named, copy, known, by simp⟩, fun effect member => ?_⟩
    obtain ⟨endpoint, inside, rfl⟩ := List.mem_map.mp member
    refine ⟨copy, known, fun other single => ?_⟩
    rw [List.mem_singleton.mp single]
    exact held endpoint inside

/-- A device that was added is in the database with all its endpoints. -/
theorem holds_of_copy
    (copied : (next.deviceEntry uuid).map (fun entry => CachedDevice.record entry.device) = some device)
    {endpoints : List DeviceEndpoint} (inside : ∀ endpoint ∈ endpoints, endpoint ∈ device.endpoints) :
    HoldsEndpoints next uuid endpoints :=
  ⟨device, copied, fun endpoint member => ⟨endpoint, inside endpoint member, rfl, rfl⟩⟩

/-- After an addition the database holds the announced objects exactly when they were storable. -/
theorem holds_iff_storable (named : device.uuid = some uuid)
    (added : jsonDatabaseAddDevice lib db device stored = some (result, next)) :
    HoldsEndpoints next uuid (enabledEndpoints device) ↔ Storable lib db uuid device stored := by
  rcases jsonDatabaseAddDevice_cases lib added with ⟨missing, _⟩ |
    ⟨name, same, unknown, complete, rfl, rfl, _⟩ | ⟨_, _, _, _, _, refused, state, _⟩
  · rw [named] at missing
    cases missing
  · rw [named, Option.some.injEq] at same
    subst same
    have absent : db.has uuid = false := by rw [JsonDatabase.has, unknown, Option.isSome_none]
    obtain ⟨after, again, copied⟩ := jsonDatabaseAddDevice_accepted named absent complete
    rw [added] at again
    cases again
    constructor
    · intro _
      exact Or.inl ⟨absent, rfl, (register_iff_admitted _ _).mp complete⟩
    · intro _
      exact holds_of_copy copied fun endpoint member => (List.mem_filter.mp member).1
  · have kept : HoldsEndpoints next uuid (enabledEndpoints device) ↔
        HoldsEndpoints db uuid (enabledEndpoints device) := by
      rw [state]
      exact HoldsEndpoints.of_devices rfl
    rw [kept]
    constructor
    · exact Or.inr
    · rintro (⟨absent, rfl, admitted⟩ | held)
      · obtain ⟨_, again, _⟩ := jsonDatabaseAddDevice_accepted named absent
          ((register_iff_admitted _ _).mpr admitted)
        rw [added] at again
        cases again
        cases refused
      · exact held

/-- A successful pairing announces different objects. -/
theorem addedEffects_nodup {found : DeviceFoundDetails} (named : device.uuid = some uuid)
    (added : jsonDatabaseAddDevice lib db device stored = some (true, next)) :
    ((addedEffects found device).map announcedUri).Nodup := by
  have complete : (addedTree lib db device).1 = true := by
    rcases jsonDatabaseAddDevice_cases lib added with ⟨missing, _⟩ | ⟨_, _, _, complete, _⟩ |
      ⟨_, _, _, _, _, refused, _⟩
    · rw [named] at missing
      cases missing
    · exact complete
    · cases refused
  have admitted := (register_iff_admitted _ _).mp complete
  have uris := @treeChecks_uris lib db.nextAddress (newEntry db device).device
  rw [newEntry_record] at uris
  have endpoints : (device.endpoints.map Endpoint.uri).Sublist (DeviceRecord.uris device) := by
    have each := List.Sublist.flatMap_right device.endpoints (f := fun endpoint => [endpoint.uri])
      (g := DeviceEndpoint.uris) fun endpoint _ => List.singleton_sublist.mpr List.mem_cons_self
    rw [← List.map_eq_flatMap] at each
    exact (each.trans (List.sublist_append_left _ _)).cons _
  have enabled : ((enabledEndpoints device).map Endpoint.uri).Sublist (DeviceRecord.uris device) :=
    ((List.filter_sublist).map _).trans endpoints
  unfold addedEffects
  split
  · exact List.nodup_nil
  · rw [List.map_cons, List.map_map, List.nodup_cons]
    constructor
    · intro member
      have inside := enabled.subset member
      rw [← uris] at inside
      obtain ⟨check, checked, same⟩ := List.mem_map.mp inside
      exact admitted.named check checked same
    · exact (uris ▸ admitted.distinct).sublist enabled

end Storing

section Traces
variable {lib : Library} {drivers : Drivers} {found : DeviceFoundDetails} {thread last moved : List Frame}
  {moments : List Moment} {service next : Service} {outcome : Outcome} {device : DeviceRecord}

/-- A thread performs its moves, and the other threads may change the service between them. -/
inductive Performed (lib : Library) (drivers : Drivers) : List Frame → List Moment → List Frame → Prop where
  | refl (thread : List Frame) : Performed lib drivers thread [] thread
  | step {thread moved last : List Frame} {service next : Service} {outcome : Outcome} {moments : List Moment}
      (made : move lib drivers service thread outcome = some (next, moved))
      (rest : Performed lib drivers moved moments last) :
      Performed lib drivers thread (⟨thread, service, outcome, next⟩ :: moments) last

/-- A pairing of a found device goes through these stages. -/
inductive Stage (found : DeviceFoundDetails) : List Frame → Prop where
  | found : Stage found [.deviceFound found]
  | pair : Stage found [.pair found]
  | checkMark (device : DeviceRecord) (named : device.uuid = some found.deviceUuid) :
      Stage found [.checkMark found device]
  | finalize (device : DeviceRecord) (named : device.uuid = some found.deviceUuid) :
      Stage found [.finalizeFound found device]
  | silent {thread : List Frame} (silent : ∀ frame ∈ thread, frame.pairs = false) : Stage found thread

/-- A silent thread announces nothing in all its moves. -/
theorem Performed.silent (performed : Performed lib drivers thread moments last)
    (silent : ∀ frame ∈ thread, frame.pairs = false) :
    ∀ moment ∈ moments, moment.sent = [] ∧ ∀ frame ∈ moment.thread, frame.pairs = false := by
  induction performed with
  | refl thread => simp
  | step made _ ih =>
      have quiet := move_quiet silent made
      exact List.forall_mem_cons.mpr ⟨⟨quiet.sent, silent⟩, ih quiet.frames⟩

/-- A pairing that ends successfully has finalized its device successfully. -/
theorem Performed.paired {result : Bool}
    (performed : Performed lib drivers [.paired found device result] moments [.returned true]) : result = true := by
  cases performed with
  | step made rest =>
      cases made
      cases rest with
      | refl _ => rfl
      | step impossible _ => cases impossible

theorem addedEffects_isAdded (found : DeviceFoundDetails) (device : DeviceRecord) :
    ∀ effect ∈ addedEffects found device, effect.isAdded = true := by
  unfold addedEffects
  split
  · simp
  · intro effect member
    rcases List.mem_cons.mp member with rfl | endpoint
    · rfl
    · obtain ⟨_, _, rfl⟩ := List.mem_map.mp endpoint
      rfl

theorem updateDataOfRecoveredDevice_pairs (device : DeviceRecord) :
    ∀ frame ∈ updateDataOfRecoveredDevice device, frame.pairs = false := by
  intro frame member
  rcases mem_updateDataOfRecoveredDevice member with ⟨_, rfl⟩ | ⟨_, _, _, _, rfl⟩
  · rfl
  · rfl

/-- The move that finalizes a new device adds it and announces it. -/
theorem finalize_move (fresh : found.inRepairMode = false)
    (made : move lib drivers service [.finalizeFound found device] outcome = some (next, moved)) :
    ∃ result, jsonDatabaseAddDevice lib service.db (setUris found.deviceUuid device) outcome.stored =
        some (result, next.db) ∧
      Moment.sent ⟨thread, service, outcome, next⟩ = addedEffects found (setUris found.deviceUuid device) ∧
      moved = [.paired found (setUris found.deviceUuid device) result] := by
  obtain ⟨⟨after, frames⟩, step, equal⟩ := Option.map_eq_some_iff.mp made
  cases equal
  change finalizeFound lib service outcome found device = some (after, frames) at step
  unfold finalizeFound at step
  dsimp only at step
  rw [if_neg (by simp [fresh])] at step
  obtain ⟨⟨result, db⟩, added, equal⟩ := Option.map_eq_some_iff.mp step
  cases equal
  refine ⟨result, added, ?_, List.append_nil _⟩
  have sent : ((service.setDb db).emit (addedEffects found (setUris found.deviceUuid device))).effects =
      service.effects ++ addedEffects found (setUris found.deviceUuid device) := rfl
  unfold Moment.sent
  dsimp only
  rw [sent, List.drop_left, List.filter_eq_self]
  exact addedEffects_isAdded found _

/-- Every other move of a pairing announces nothing and leads to the next stage. -/
theorem stage_move (stage : Stage found thread)
    (other : ∀ device, thread = [.finalizeFound found device] → found.inRepairMode = true)
    (made : move lib drivers service thread outcome = some (next, moved)) :
    Moment.sent ⟨thread, service, outcome, next⟩ = [] ∧ Stage found moved := by
  have returned (result : Bool) : Stage found [.returned result] := .silent (by simp [Frame.pairs])
  have failed (device : DeviceRecord) : Stage found [.paired found device false] := .silent (by simp [Frame.pairs])
  cases stage with
  | silent silent =>
      have quiet := move_quiet silent made
      exact ⟨quiet.sent, .silent quiet.frames⟩
  | found =>
      obtain ⟨⟨after, frames⟩, step, equal⟩ := Option.map_eq_some_iff.mp made
      cases equal
      change (if outcome.admitted then _ else _) = some (after, frames) at step
      split at step
      · cases step
        refine ⟨sent_eq_nil rfl ?_, .pair⟩
        split <;> simp [Effect.isAdded]
      · cases step
        exact ⟨sent_eq_nil rfl (by simp [Effect.isAdded]), returned false⟩
  | pair =>
      obtain ⟨⟨after, frames⟩, step, equal⟩ := Option.map_eq_some_iff.mp made
      cases equal
      change (if outcome.configured then _ else _) = some (after, frames) at step
      split at step
      · cases step
        exact ⟨sent_eq_nil (List.append_nil _).symm (by simp), .checkMark _ rfl⟩
      · cases step
        exact ⟨sent_eq_nil (List.append_nil _).symm (by simp), failed _⟩
  | checkMark device named =>
      obtain ⟨⟨after, frames⟩, step, equal⟩ := Option.map_eq_some_iff.mp made
      cases equal
      change (if found.deviceUuid ∈ service.markedForRemoval then _ else _) = some (after, frames) at step
      split at step
      · cases step
        exact ⟨sent_eq_nil (List.append_nil _).symm (by simp), failed _⟩
      · cases step
        exact ⟨sent_eq_nil (List.append_nil _).symm (by simp), .finalize device named⟩
  | finalize device named =>
      obtain ⟨⟨after, frames⟩, step, equal⟩ := Option.map_eq_some_iff.mp made
      cases equal
      change finalizeFound lib service outcome found device = some (after, frames) at step
      unfold finalizeFound at step
      dsimp only at step
      rw [if_pos (other device rfl)] at step
      cases step
      refine ⟨sent_eq_nil (List.append_nil _).symm (by simp), .silent ?_⟩
      rw [List.append_nil]
      exact List.forall_mem_append.mpr ⟨updateDataOfRecoveredDevice_pairs _, by simp [Frame.pairs]⟩

/-- The move that finalizes a new device announces what is in the database exactly when the device is storable. -/
theorem finalize_announces {result : Bool} (named : device.uuid = some found.deviceUuid)
    (fresh : found.inRepairMode = false)
    (added : jsonDatabaseAddDevice lib service.db (setUris found.deviceUuid device) outcome.stored =
      some (result, next.db))
    (sent : Moment.sent ⟨[.finalizeFound found device], service, outcome, next⟩ =
      addedEffects found (setUris found.deviceUuid device)) :
    Moment.AnnouncesStored found.deviceUuid ⟨[.finalizeFound found device], service, outcome, next⟩ ↔
      Moment.FinalizesStorable lib found ⟨[.finalizeFound found device], service, outcome, next⟩ := by
  unfold Moment.AnnouncesStored Moment.FinalizesStorable
  rw [sent]
  dsimp only
  cases migrated : found.migrated with
  | true => simp [addedEffects, migrated]
  | false =>
      have own : (setUris found.deviceUuid device).uuid = some found.deviceUuid := named
      rw [addedEffects_storedIn own migrated, holds_iff_storable own added]
      constructor
      · intro storable other same _ _
        cases same
        exact storable
      · exact fun storable => storable device rfl fresh rfl

/-- A move that sends no event and finalizes no new device meets both properties. -/
theorem quiet_announces {moment : Moment} (sent : moment.sent = [])
    (other : ∀ device, moment.thread = [.finalizeFound found device] → found.inRepairMode = true) :
    moment.AnnouncesStored found.deviceUuid ↔ moment.FinalizesStorable lib found := by
  constructor
  · intro _ device same fresh
    rw [other device same] at fresh
    cases fresh
  · intro _ effect member
    rw [sent] at member
    cases member

/-- What a pairing announces is in the database exactly when it finalizes only storable devices, and a successful
pairing announces nothing twice. -/
theorem Performed.pairing (performed : Performed lib drivers thread moments last) (stage : Stage found thread) :
    (∀ moment ∈ moments, moment.AnnouncesStored found.deviceUuid ↔ moment.FinalizesStorable lib found) ∧
      (last = [.returned true] → ((moments.flatMap Moment.sent).map announcedUri).Nodup) := by
  induction performed with
  | refl thread => simp
  | step made rest ih =>
      rename_i thread moved last service next outcome moments
      by_cases finalizes : ∃ device, thread = [.finalizeFound found device] ∧ found.inRepairMode = false
      · obtain ⟨device, rfl, fresh⟩ := finalizes
        have named : device.uuid = some found.deviceUuid := by
          cases stage with
          | finalize _ named => exact named
          | silent silent => cases silent _ List.mem_cons_self
        obtain ⟨result, added, sent, rfl⟩ := finalize_move fresh made
        have quiet := rest.silent (by simp [Frame.pairs])
        have nothing : moments.flatMap Moment.sent = [] :=
          List.flatMap_eq_nil_iff.mpr fun moment member => (quiet moment member).1
        constructor
        · refine List.forall_mem_cons.mpr ⟨finalize_announces named fresh added sent, ?_⟩
          intro moment member
          obtain ⟨sent, silent⟩ := quiet moment member
          refine quiet_announces sent fun device same => ?_
          cases silent (.finalizeFound found device) (by simp [same])
        · rintro rfl
          have success := rest.paired
          subst success
          rw [List.flatMap_cons, nothing, List.append_nil, sent]
          exact addedEffects_nodup named added
      · have other (device : DeviceRecord) (same : thread = [.finalizeFound found device]) :
            found.inRepairMode = true := by
          by_contra fresh
          exact finalizes ⟨device, same, by simpa using fresh⟩
        obtain ⟨sent, next⟩ := stage_move stage other made
        obtain ⟨each, once⟩ := ih next
        constructor
        · refine List.forall_mem_cons.mpr ⟨?_, each⟩
          exact quiet_announces sent other
        · rw [List.flatMap_cons, sent]
          exact once

/-- The moments of a thread in a run are its moves. -/
theorem momentsOf_performed {index : Nat} {schedule : List (Nat × Outcome)}
    {current : Threads.Configuration Service (List Frame)} (here : current.threads[index]? = some thread) :
    ∃ last, Performed lib drivers thread (momentsOf lib drivers index current schedule) last ∧
      ∀ final, run lib drivers current schedule = some final → final.threads[index]? = some last := by
  induction schedule generalizing current thread with
  | nil =>
      refine ⟨thread, .refl thread, fun final reached => ?_⟩
      cases reached
      exact here
  | cons input rest ih =>
      unfold momentsOf
      cases stepped : Threads.step (move lib drivers) current input with
      | none =>
          refine ⟨thread, ?_, fun final reached => ?_⟩
          · cases current.threads[input.1]? <;> exact .refl thread
          · obtain ⟨_, impossible, _⟩ := Option.bind_eq_some_iff.mp reached
            rw [stepped] at impossible
            cases impossible
      | some next =>
          have later (final : Threads.Configuration Service (List Frame))
              (reached : run lib drivers current (input :: rest) = some final) :
              run lib drivers next rest = some final := by
            obtain ⟨_, same, reached⟩ := Option.bind_eq_some_iff.mp reached
            rw [stepped, Option.some.injEq] at same
            exact same ▸ reached
          obtain ⟨mover, moves, _⟩ := Option.bind_eq_some_iff.mp stepped
          rw [moves]
          dsimp only
          rcases Threads.step_thread here stepped with ⟨same, moved, made, after⟩ | ⟨different, after⟩
          · obtain ⟨last, performed, ends⟩ := ih after
            rw [same, here, Option.some.injEq] at moves
            subst moves
            rw [if_pos same]
            exact ⟨last, .step made performed, fun final reached => ends final (later final reached)⟩
          · obtain ⟨last, performed, ends⟩ := ih after
            rw [if_neg different, List.nil_append]
            exact ⟨last, performed, fun final reached => ends final (later final reached)⟩

end Traces

/-- In every run a pairing announces only what the database holds if and only if each move that finalizes a new device
with events does so for a storable device. A successful pairing announces its device and each endpoint at most once. -/
theorem pairing_announces_iff (lib : Library) (drivers : Drivers) (service : Service) (found : DeviceFoundDetails)
    (before after : List (List Frame)) (schedule : List (Nat × Outcome)) :
    let start : Threads.Configuration Service (List Frame) := ⟨service, before ++ [.deviceFound found] :: after⟩
    let moments := momentsOf lib drivers before.length start schedule
    ((∀ moment ∈ moments, moment.AnnouncesStored found.deviceUuid) ↔
      ∀ moment ∈ moments, moment.FinalizesStorable lib found) ∧
    ∀ final, run lib drivers start schedule = some final →
      final.threads[before.length]? = some [.returned true] →
        ((moments.flatMap Moment.sent).map announcedUri).Nodup := by
  intro start moments
  have here : start.threads[before.length]? = some [.deviceFound found] := by simp [start]
  obtain ⟨last, performed, ends⟩ := @momentsOf_performed lib drivers _ _ schedule start here
  obtain ⟨each, once⟩ := performed.pairing .found
  constructor
  · constructor
    · exact fun announces moment member => (each moment member).mp (announces moment member)
    · exact fun storable moment member => (each moment member).mpr (storable moment member)
  · intro final reached returned
    rw [ends final reached, Option.some.injEq] at returned
    exact once returned

/-- The found device is new, and its events are sent. -/
def sampleFound : DeviceFoundDetails := ⟨"a", "light", false, false⟩

/-- The configuration succeeds, and the storage does not work. -/
def failedSave : Outcome := ⟨7, false, false, true, true, sampleDevice⟩

def emptyService : Service := ⟨⟨JsonDatabase.empty ∅, [], []⟩, [], [], [], []⟩

def quietDrivers : Drivers := ⟨fun _ => false, fun _ => false, fun _ => false⟩

/-- The pairing moves until it has finalized the device. -/
def failedMoments : List Moment :=
  momentsOf sampleLibrary quietDrivers 0 ⟨emptyService, [[.deviceFound sampleFound]]⟩ (List.replicate 4 (0, failedSave))

/-- The save of the sample device fails, and the device is announced. -/
theorem not_pairing_announces : ¬ ∀ (lib : Library) (drivers : Drivers) (service : Service)
    (found : DeviceFoundDetails) (before after : List (List Frame)) (schedule : List (Nat × Outcome)),
    ∀ moment ∈ momentsOf lib drivers before.length ⟨service, before ++ [.deviceFound found] :: after⟩ schedule,
      moment.AnnouncesStored found.deviceUuid := by
  intro claim
  have stored := claim sampleLibrary quietDrivers emptyService sampleFound [] [] (List.replicate 4 (0, failedSave))
  have last : failedMoments[3]?.map (fun moment => (moment.sent, jsonDatabaseGetDeviceById moment.next.db (some "a"))) =
      some ([.deviceAdded (some "a")], none) := by
    decide +kernel
  obtain ⟨moment, position, same⟩ := Option.map_eq_some_iff.mp last
  obtain ⟨sent, absent⟩ := Prod.mk.inj same
  obtain ⟨_, copy, known, _⟩ := stored moment (List.mem_of_getElem? position) (.deviceAdded (some "a"))
    (sent ▸ List.mem_cons_self)
  change jsonDatabaseGetDeviceById moment.next.db (some "a") = some copy at known
  rw [absent] at known
  cases known

end Barton.Lifecycle
