import BartonCore.Proof.Database.IndexRuns
import BartonCore.Proof.DeviceService.Moves

namespace Barton.Lifecycle
open Database

/-- The stored device has an enabled endpoint. -/
def HasEnabledEndpoint (db : JsonDatabase) (uuid : String) : Prop :=
  ∃ entry ∈ db.deviceEntry uuid, ∃ endpoint ∈ entry.device.endpoints, endpoint.content.enabled = true

/-- The endpoints of the stored device name it as their device. -/
def OwnsEndpoints (db : JsonDatabase) (uuid : String) : Prop :=
  ∀ entry ∈ db.deviceEntry uuid, ∀ endpoint ∈ entry.device.endpoints,
    endpoint.content.deviceUuid = some uuid

/-- The addresses in the endpoint locator of a URI. -/
def locateEndpoint (db : JsonDatabase) (uri : Option String) : Option (Address × Address) :=
  match uri.bind db.resourcesByUri.lookup with
  | some (.endpoint entryAddress address) => some (entryAddress, address)
  | _ => none

/-- The copies of a call that is about to save a disabled endpoint. -/
def disabling : Frame → Option (DeviceRecord × DeviceEndpoint)
  | .disableEndpoint device endpoint => some (device, endpoint)
  | _ => none

/-- The call is about to delete the device. -/
def deleting : Frame → Bool
  | .deleteDevice _ _ => true
  | _ => false

/-- A save that relies on another enabled endpoint finds one in the database. -/
def ReliesOnStored (db : JsonDatabase) (device : DeviceRecord) (endpoint : DeviceEndpoint) : Prop :=
  atLeastOneActiveEndpoint endpoint device.endpoints = some true →
    ∀ uuid ∈ device.uuid, ∀ entry ∈ db.deviceEntry uuid, ∃ other ∈ entry.device.endpoints,
      other.content.enabled = true ∧ locateEndpoint db endpoint.uri ≠ some (entry.address, other.address)

instance (db : JsonDatabase) (device : DeviceRecord) (endpoint : DeviceEndpoint) :
    Decidable (ReliesOnStored db device endpoint) :=
  inferInstanceAs (Decidable (_ → ∀ uuid ∈ device.uuid, ∀ entry ∈ db.deviceEntry uuid,
    ∃ other ∈ entry.device.endpoints, other.content.enabled = true ∧
      locateEndpoint db endpoint.uri ≠ some (entry.address, other.address)))

/-- No save relies on an outdated copy, and a deletion reaches the storage. -/
def Decided (db : JsonDatabase) (outcome : Outcome) (frame : Frame) : Prop :=
  (∀ copies ∈ disabling frame, ReliesOnStored db copies.1 copies.2) ∧
    (deleting frame = true → outcome.stored = true)

instance (db : JsonDatabase) (outcome : Outcome) (frame : Frame) :
    Decidable (Decided db outcome frame) :=
  inferInstanceAs (Decidable ((∀ copies ∈ disabling frame, ReliesOnStored db copies.1 copies.2) ∧
    (deleting frame = true → outcome.stored = true)))

/-- The move of the scheduled thread is decided on the stored device. -/
def DecidedOnStored (current : Threads.Configuration Service (List Frame)) (input : Nat × Outcome) : Prop :=
  ∀ thread ∈ current.threads[input.1]?, ∀ frame ∈ thread.head?,
    Decided current.shared.db input.2 frame

instance (current : Threads.Configuration Service (List Frame)) (input : Nat × Outcome) :
    Decidable (DecidedOnStored current input) :=
  inferInstanceAs (Decidable (∀ thread ∈ current.threads[input.1]?, ∀ frame ∈ thread.head?,
    Decided current.shared.db input.2 frame))

section Saves
variable {lib : Library} {db next : JsonDatabase} {result stored : Bool} {uuid : String}

/-- An update of one endpoint changes the endpoint list of one entry. -/
theorem deviceEntry_updateEndpoint (entryAddress address : Address)
    (update : Endpoint CachedResource CachedMetadata → Endpoint CachedResource CachedMetadata)
    (owner : ∀ content, (update content).deviceUuid = content.deviceUuid) (uuid : String)
    {after : CacheEntry}
    (known : (db.updateDevice entryAddress fun device => device.updateEndpoint address update).deviceEntry
      uuid = some after) :
    ∃ before, ∃ change : CachedEndpoint → CachedEndpoint, db.deviceEntry uuid = some before ∧
      after.device.endpoints = before.device.endpoints.map change ∧
      (∀ endpoint, (change endpoint).content.deviceUuid = endpoint.content.deviceUuid) ∧
      ∀ endpoint, (entryAddress, address) ≠ (before.address, endpoint.address) →
        change endpoint = endpoint := by
  unfold JsonDatabase.updateDevice at known
  rw [deviceEntry_updateEntry _ _ (by intro _; rfl)] at known
  obtain ⟨before, found, equal⟩ := Option.map_eq_some_iff.mp known
  by_cases inside : before.address = entryAddress
  · rw [if_pos inside] at equal
    subst equal
    refine ⟨before, fun endpoint => if endpoint.address = address then
      ⟨endpoint.address, update endpoint.content⟩ else endpoint, found, rfl, ?_, ?_⟩
    · intro endpoint
      by_cases same : endpoint.address = address
      · simp [same, owner]
      · simp [same]
    · intro endpoint different
      have other : endpoint.address ≠ address := fun same => different (by rw [inside, same])
      simp [other]
  · rw [if_neg inside] at equal
    subst equal
    exact ⟨before, id, found, (List.map_id _).symm, fun _ => rfl, fun _ _ => rfl⟩

/-- A flush changes no endpoint list. -/
theorem endpoints_flushEntry {address : Address} {after : CacheEntry}
    (flushed : flushEntry lib db address stored = some (result, next))
    (known : next.deviceEntry uuid = some after) :
    ∃ before, db.deviceEntry uuid = some before ∧ before.address = after.address ∧
      after.device = before.device := by
  rw [deviceEntry_flushEntry flushed] at known
  obtain ⟨before, found, equal⟩ := Option.map_eq_some_iff.mp known
  refine ⟨before, found, ?_⟩
  by_cases inside : before.address = address
  · rw [if_pos inside] at equal
    exact ⟨by rw [← equal], by rw [← equal]⟩
  · rw [if_neg inside] at equal
    exact ⟨by rw [equal], by rw [equal]⟩

/-- An endpoint save changes at most the endpoint that the URI locates. -/
theorem endpoints_saveEndpoint {endpoint : DeviceEndpoint} {after : CacheEntry}
    (saved : jsonDatabaseSaveEndpoint lib db endpoint stored = some (result, next))
    (known : next.deviceEntry uuid = some after) :
    ∃ before, ∃ change : CachedEndpoint → CachedEndpoint, db.deviceEntry uuid = some before ∧
      after.device.endpoints = before.device.endpoints.map change ∧
      (∀ endpoint, (change endpoint).content.deviceUuid = endpoint.content.deviceUuid) ∧
      ∀ other, locateEndpoint db endpoint.uri ≠ some (before.address, other.address) →
        change other = other := by
  rcases jsonDatabaseSaveEndpoint_cases lib saved with
    ⟨_, same⟩ | ⟨uri, entry, found, named, located, ⟨_, flushed⟩ | ⟨_, flushed⟩⟩
  · subst same
    exact ⟨after, id, known, (List.map_id _).symm, fun _ => rfl, fun _ _ => rfl⟩
  all_goals
    have target : locateEndpoint db endpoint.uri = some (entry.address, found.address) := by
      rw [locateEndpoint, named, Option.bind_some, located.located]
    obtain ⟨middle, present, _, devices⟩ := endpoints_flushEntry flushed known
    obtain ⟨before, change, first, mapped, owner, others⟩ :=
      @deviceEntry_updateEndpoint db entry.address found.address _ (by intro _; rfl) uuid middle present
    refine ⟨before, change, first, by rw [devices, mapped], owner, ?_⟩
    intro other different
    apply others
    rw [target] at different
    exact fun same => different (by rw [same])

end Saves

section Phases
variable (uuid : String)

/-- These frames of `deviceServiceRemoveDevice` work on one device. -/
def RemovalFrame : Frame → Prop
  | .removeDevice target => target = some uuid
  | .markForRemoval target => target = uuid
  | .findContext target device => target = uuid ∧ device.uuid = some uuid
  | .checkTask target device _ => target = uuid ∧ device.uuid = some uuid
  | .cancelTask target device _ => target = uuid ∧ device.uuid = some uuid
  | .dropContext target device => target = uuid ∧ device.uuid = some uuid
  | .awaitTask target device => target = uuid ∧ device.uuid = some uuid
  | .deleteDevice target device => target = uuid ∧ device.uuid = some uuid
  | .announceRemoval device => device.uuid = some uuid
  | .returned _ => True
  | _ => False

/-- These are the stacks of a `deviceServiceRemoveEndpointById` call on the device. -/
inductive Phase : List Frame → Prop
  | call (endpointId : Option String) : Phase [.removeEndpoint (some uuid) endpointId]
  | fetch (endpointId : Option String) (device : Option DeviceRecord)
      (own : ∀ found ∈ device, found.uuid = some uuid) :
      Phase [.fetchEndpoint (some uuid) endpointId device]
  | disable (device : DeviceRecord) (endpoint : DeviceEndpoint) (own : device.uuid = some uuid)
      (owner : endpoint.deviceUuid = some uuid) : Phase [.disableEndpoint device endpoint]
  | disabled (device : DeviceRecord) (endpoint : DeviceEndpoint) (own : device.uuid = some uuid)
      (owner : endpoint.deviceUuid = some uuid) : Phase [.endpointDisabled device endpoint]
  | removal (frame : Frame) (inside : RemovalFrame uuid frame) : Phase [frame, .returned true]
  | returned (result : Bool) : Phase [.returned result]

/-- The effect tells that the device was removed. -/
def isDeviceRemoved : Effect → Bool
  | .deviceRemoved target _ => target == some uuid
  | _ => false

end Phases

/-- The frame deletes the device later if it is still there. -/
def removes : Frame → Bool
  | .removeDevice _ | .findContext _ _ | .checkTask _ _ _ | .cancelTask _ _ _ | .dropContext _ _
  | .awaitTask _ _ | .deleteDevice _ _ => true
  | _ => false

/-- The call deletes the device later if it is still there. -/
def Removing : List Frame → Prop
  | .endpointDisabled device endpoint :: _ =>
      atLeastOneActiveEndpoint endpoint device.endpoints ≠ some true
  | frame :: _ => removes frame = true
  | [] => False

/-- The call has deleted the device and sends the event later. -/
def announcements : List Frame → Nat
  | .announceRemoval _ :: _ => 1
  | _ => 0

/-- The number of device removed events for the device. -/
def removedEvents (effects : List Effect) (uuid : String) : Nat := effects.countP (isDeviceRemoved uuid)

/-- The number of devices with the uuid is 0 or 1. -/
def present (db : JsonDatabase) (uuid : String) : Nat := if db.has uuid then 1 else 0

section Moves
variable {lib : Library} {drivers : Drivers} {uuid : String} {service next : Service}
  {thread moved : List Frame} {outcome : Outcome} {device : DeviceRecord} {endpoint : DeviceEndpoint}

theorem removedEvents_append (first second : List Effect) (uuid : String) :
    removedEvents (first ++ second) uuid = removedEvents first uuid + removedEvents second uuid :=
  List.countP_append

theorem removedEvents_endpoints (endpoints : List DeviceEndpoint) (deviceClass : Option String)
    (gone : Bool) (uuid : String) :
    removedEvents (endpoints.map fun endpoint => .endpointRemoved endpoint deviceClass gone) uuid = 0 := by
  unfold removedEvents
  rw [List.countP_eq_zero]
  intro effect member
  obtain ⟨endpoint, _, rfl⟩ := List.mem_map.mp member
  simp [isDeviceRemoved]

/-- A removal announces its device once. -/
theorem removedEvents_removalEffects (own : device.uuid = some uuid) :
    removedEvents (removalEffects drivers device) uuid = 1 := by
  unfold removalEffects
  rw [removedEvents_append, removedEvents_append, removedEvents_endpoints]
  by_cases callback : drivers.deviceRemoved device.managingDeviceDriver = true
  · simp [callback, removedEvents, isDeviceRemoved, own]
  · simp [callback, removedEvents, isDeviceRemoved, own]

theorem atLeastOneActiveEndpoint_congr {first second : DeviceEndpoint} (same : first.id = second.id)
    (endpoints : List DeviceEndpoint) :
    atLeastOneActiveEndpoint first endpoints = atLeastOneActiveEndpoint second endpoints := by
  induction endpoints with
  | nil => rfl
  | cons other rest ih => simp only [atLeastOneActiveEndpoint, same, ih]

/-- An endpoint that was found by its id names its device. -/
theorem jsonDatabaseGetEndpointById_owner {db : JsonDatabase} {endpointId : Option String}
    (owns : OwnsEndpoints db uuid)
    (found : jsonDatabaseGetEndpointById db (some uuid) endpointId = some (some endpoint)) :
    endpoint.deviceUuid = some uuid := by
  cases endpointId with
  | none => cases found
  | some id =>
      rw [jsonDatabaseGetEndpointById, Option.map_some, Option.some.injEq] at found
      obtain ⟨entry, known, rest⟩ := Option.bind_eq_some_iff.mp found
      obtain ⟨held, inside, rfl⟩ := Option.map_eq_some_iff.mp rest
      exact owns entry known held (List.mem_of_find?_eq_some inside)

/-- What one move of a call does to the device. -/
structure MoveFacts (uuid : String) (service next : Service) (thread moved : List Frame) : Prop where
  owns : OwnsEndpoints next.db uuid
  phase : Phase uuid moved
  kept : next.db.has uuid = true → service.db.has uuid = true
  enabled : next.db.has uuid = true → HasEnabledEndpoint service.db uuid →
    HasEnabledEndpoint next.db uuid ∨ Removing moved
  removing : next.db.has uuid = true → Removing thread → Removing moved
  balance : removedEvents next.effects uuid + announcements moved + present next.db uuid =
    removedEvents service.effects uuid + announcements thread + present service.db uuid

/-- A move without a write keeps the device as it is. -/
theorem MoveFacts.quiet (owns : OwnsEndpoints service.db uuid) (same : next.db = service.db)
    (phase : Phase uuid moved)
    (removing : service.db.has uuid = true → Removing thread → Removing moved)
    (events : removedEvents next.effects uuid + announcements moved =
      removedEvents service.effects uuid + announcements thread) :
    MoveFacts uuid service next thread moved where
  owns := same ▸ owns
  phase := phase
  kept := by rw [same]; exact id
  enabled := by
    rw [same]
    exact fun _ held => Or.inl held
  removing := by rw [same]; exact removing
  balance := by rw [same, events]

theorem fetch_facts {endpointId : Option String} {device : Option DeviceRecord} {endpoint : Option DeviceEndpoint}
    (single : ∀ found : DeviceRecord, found.uuid = some uuid →
      drivers.cascadeAddDeleteEndpoints found = false)
    (owns : OwnsEndpoints service.db uuid) (own : ∀ found ∈ device, found.uuid = some uuid)
    (found : jsonDatabaseGetEndpointById service.db (some uuid) endpointId = some endpoint) :
    MoveFacts uuid service service [.fetchEndpoint (some uuid) endpointId device]
      (removeFetchedEndpoint drivers device endpoint) := by
  have refused (result : Bool) : MoveFacts uuid service service
      [.fetchEndpoint (some uuid) endpointId device] [.returned result] :=
    MoveFacts.quiet owns rfl (.returned result) (fun _ removing => by cases removing) rfl
  unfold removeFetchedEndpoint
  split
  · rename_i fetched target
    have owner := jsonDatabaseGetEndpointById_owner owns found
    have named := own fetched rfl
    rw [single fetched named, if_neg Bool.false_ne_true]
    split
    · exact MoveFacts.quiet owns rfl (.disable fetched target named owner)
        (fun _ removing => by cases removing) rfl
    · exact refused false
  · exact refused false

theorem disable_facts {db : JsonDatabase}
    {result stored : Bool} (owns : OwnsEndpoints service.db uuid) (own : device.uuid = some uuid)
    (owner : endpoint.deviceUuid = some uuid) (relies : ReliesOnStored service.db device endpoint)
    (saved : jsonDatabaseSaveEndpoint lib service.db { endpoint with enabled := false } stored =
      some (result, db)) :
    MoveFacts uuid service (service.setDb db) [.disableEndpoint device endpoint]
      [.endpointDisabled device { endpoint with enabled := false }] where
  owns := by
    intro entry known
    obtain ⟨before, change, found, mapped, owners, _⟩ := endpoints_saveEndpoint saved known
    rw [mapped]
    intro held member
    obtain ⟨old, inside, rfl⟩ := List.mem_map.mp member
    rw [owners]
    exact owns before found old inside
  phase := .disabled device _ own owner
  kept := by
    show db.has uuid = true → _
    rw [SameDevices.saveEndpoint saved uuid]
    exact id
  enabled := by
    show db.has uuid = true → _ → HasEnabledEndpoint db uuid ∨ _
    intro has _
    obtain ⟨after, known⟩ := Option.isSome_iff_exists.mp has
    obtain ⟨before, change, found, mapped, _, others⟩ := endpoints_saveEndpoint saved known
    by_cases active : atLeastOneActiveEndpoint endpoint device.endpoints = some true
    · left
      obtain ⟨other, member, enabled, elsewhere⟩ := relies active uuid own before found
      refine ⟨after, known, other, ?_, enabled⟩
      rw [mapped, List.mem_map]
      exact ⟨other, member, others other elsewhere⟩
    · right
      show atLeastOneActiveEndpoint { endpoint with enabled := false } device.endpoints ≠ some true
      rwa [@atLeastOneActiveEndpoint_congr { endpoint with enabled := false } endpoint rfl]
  removing _ removing := by cases removing
  balance := by
    show removedEvents service.effects uuid + 0 + present db uuid = _
    unfold present
    rw [SameDevices.saveEndpoint saved uuid]
    rfl

theorem disabled_facts (owns : OwnsEndpoints service.db uuid) (owner : endpoint.deviceUuid = some uuid)
    (made : afterDisable drivers service device endpoint = some (next, moved)) :
    MoveFacts uuid service next [.endpointDisabled device endpoint] moved := by
  obtain ⟨active, decided, equal⟩ := Option.map_eq_some_iff.mp made
  cases active with
  | true =>
      cases equal
      refine MoveFacts.quiet owns rfl (.returned true) ?_ ?_
      · intro _ removing
        exact absurd decided removing
      · show removedEvents (service.effects ++ _) uuid + 0 = _ + 0
        rw [removedEvents_append]
        by_cases callback : drivers.endpointDisabled device.managingDeviceDriver = true
        · simp [callback, removedEvents, isDeviceRemoved]
        · simp [callback, removedEvents, isDeviceRemoved]
  | false =>
      cases equal
      refine MoveFacts.quiet owns rfl (.removal _ owner) (fun _ _ => rfl) ?_
      show removedEvents (service.effects ++ _) uuid + 0 = _ + 0
      rw [removedEvents_append]
      simp [removedEvents, isDeviceRemoved]

theorem delete_facts {removed : Bool × JsonDatabase} {stored : Bool}
    (owns : OwnsEndpoints service.db uuid) (own : device.uuid = some uuid) (reached : stored = true)
    (deleted : jsonDatabaseRemoveDeviceById service.db uuid stored = some removed) :
    MoveFacts uuid service (service.setDb removed.2) [.deleteDevice uuid device, .returned true]
      [if removed.1 then .announceRemoval device else .returned false, .returned true] := by
  obtain ⟨result, db⟩ := removed
  rcases has_removeDevice deleted with ⟨success, before, after⟩ | ⟨failure, same, reason⟩
  · subst success
    have gone : ¬(service.setDb db).db.has uuid = true := by
      show ¬db.has uuid = true
      simp [after]
    exact {
      owns := by
        intro entry known
        exact absurd (Option.isSome_iff_exists.mpr ⟨entry, known⟩) gone
      phase := .removal _ own
      kept := fun has => absurd has gone
      enabled := fun has => absurd has gone
      removing := fun has => absurd has gone
      balance := by
        show removedEvents service.effects uuid + 1 + present db uuid =
          removedEvents service.effects uuid + 0 + present service.db uuid
        simp [present, before, after] }
  · subst failure same reached
    refine MoveFacts.quiet owns rfl (.removal _ trivial) ?_ rfl
    intro has _
    rcases reason with absent | failed
    · simp [absent] at has
    · cases failed

theorem removal_facts {frame : Frame} {frames : List Frame} (owns : OwnsEndpoints service.db uuid)
    (inside : RemovalFrame uuid frame) (decided : Decided service.db outcome frame)
    (made : deviceServiceRemoveDevice drivers service outcome frame = some (next, frames)) :
    MoveFacts uuid service next [frame, .returned true] (frames ++ [.returned true]) := by
  have waits {target : Frame} (phase : RemovalFrame uuid target) (continues : removes target = true)
      (silent : announcements [target, .returned true] = announcements [frame, .returned true])
      (same : next.db = service.db) (effects : next.effects = service.effects) :
      MoveFacts uuid service next [frame, .returned true] [target, .returned true] := by
    refine MoveFacts.quiet owns same (.removal target phase) ?_ (by rw [silent, effects])
    intro _ _
    cases target <;> first | exact continues | cases continues
  cases frame with
  | removeDevice target =>
      obtain rfl : target = some uuid := inside
      rw [deviceServiceRemoveDevice] at made
      split at made
      · rename_i missing
        cases made
        refine MoveFacts.quiet owns rfl (.removal _ rfl) ?_ rfl
        intro has _
        simp [jsonDatabaseGetDeviceById_none missing] at has
      · rename_i device found
        cases made
        exact waits ⟨rfl, (jsonDatabaseGetDeviceById_uuid found).1⟩ rfl rfl rfl rfl
  | markForRemoval target =>
      cases made
      exact MoveFacts.quiet owns rfl (.removal _ trivial) (fun _ removing => by cases removing) rfl
  | findContext | checkTask =>
      obtain ⟨rfl, own⟩ := inside
      rw [deviceServiceRemoveDevice] at made
      split at made <;> cases made
      · exact waits ⟨rfl, own⟩ rfl rfl rfl rfl
      · exact waits ⟨rfl, own⟩ rfl rfl rfl rfl
  | cancelTask | dropContext =>
      obtain ⟨rfl, own⟩ := inside
      cases made
      exact waits ⟨rfl, own⟩ rfl rfl rfl rfl
  | awaitTask target device =>
      obtain ⟨rfl, own⟩ := inside
      rw [deviceServiceRemoveDevice] at made
      split at made
      · cases made
        exact waits ⟨rfl, own⟩ rfl rfl rfl rfl
      · split at made <;> cases made
        · exact waits ⟨rfl, own⟩ rfl rfl rfl rfl
        · exact waits ⟨rfl, own⟩ rfl rfl rfl rfl
  | deleteDevice target device =>
      obtain ⟨rfl, own⟩ := inside
      obtain ⟨removed, deleted, equal⟩ := Option.map_eq_some_iff.mp made
      have facts := delete_facts owns own (decided.2 rfl) deleted
      cases equal
      split <;> rename_i success
      · rwa [if_pos success] at facts
      · rwa [if_neg success] at facts
  | announceRemoval device =>
      have own : device.uuid = some uuid := inside
      cases made
      refine MoveFacts.quiet owns rfl (.removal _ trivial) (fun _ removing => by cases removing) ?_
      show removedEvents (service.effects ++ _) uuid + 0 = removedEvents service.effects uuid + 1
      rw [removedEvents_append, removedEvents_removalEffects own]
  | _ => cases made

/-- One move of a call, whatever its phase. -/
theorem move_facts (single : ∀ found : DeviceRecord, found.uuid = some uuid →
      drivers.cascadeAddDeleteEndpoints found = false)
    (owns : OwnsEndpoints service.db uuid) (phase : Phase uuid thread)
    (decided : ∀ frame ∈ thread.head?, Decided service.db outcome frame)
    (made : move lib drivers service thread outcome = some (next, moved)) :
    MoveFacts uuid service next thread moved := by
  cases phase with
  | call endpointId =>
      obtain ⟨frames, step, rfl⟩ := move_frame (by simp) made
      cases step
      refine MoveFacts.quiet owns rfl (.fetch endpointId _ ?_) (fun _ removing => by cases removing) rfl
      exact fun found known => (jsonDatabaseGetDeviceById_uuid known).1
  | fetch endpointId device own =>
      obtain ⟨frames, step, rfl⟩ := move_frame (by simp) made
      obtain ⟨endpoint, found, same⟩ := Option.map_eq_some_iff.mp step
      cases same
      rw [List.append_nil]
      exact fetch_facts single owns own found
  | disable device endpoint own owner =>
      obtain ⟨frames, step, rfl⟩ := move_frame (by simp) made
      obtain ⟨⟨result, db⟩, saved, same⟩ := Option.map_eq_some_iff.mp step
      cases same
      exact disable_facts owns own owner ((decided _ rfl).1 _ rfl) saved
  | disabled device endpoint own owner =>
      obtain ⟨frames, step, rfl⟩ := move_frame (by simp) made
      rw [List.append_nil]
      exact disabled_facts owns owner step
  | returned result => cases made
  | removal frame inside =>
      cases frame with
      | returned result =>
          cases made
          exact MoveFacts.quiet owns rfl (.returned true) (fun _ removing => by cases removing) rfl
      | removeDevice _ | markForRemoval _ | findContext _ _ | checkTask _ _ _ | cancelTask _ _ _
      | dropContext _ _ | awaitTask _ _ | deleteDevice _ _ | announceRemoval _ =>
          obtain ⟨frames, step, rfl⟩ := move_frame (by simp) made
          exact @removal_facts drivers uuid service next outcome _ frames owns inside (decided _ rfl) step
      | _ => cases inside

end Moves

section Runs
variable {lib : Library} {drivers : Drivers} {uuid : String}
  {start current next final : Threads.Configuration Service (List Frame)}
  {input : Nat × Outcome} {schedule : List (Nat × Outcome)}

/-- The device has an enabled endpoint or is about to be removed, and every removal is announced. -/
structure Kept (uuid : String) (current : Threads.Configuration Service (List Frame)) : Prop where
  owns : OwnsEndpoints current.shared.db uuid
  phases : ∀ thread ∈ current.threads, Phase uuid thread
  enabled : current.shared.db.has uuid = true → HasEnabledEndpoint current.shared.db uuid ∨
    ∃ thread ∈ current.threads, Removing thread
  balance : removedEvents current.shared.effects uuid + (current.threads.map announcements).sum +
    present current.shared.db uuid = 1

theorem Kept.step (single : ∀ found : DeviceRecord, found.uuid = some uuid →
      drivers.cascadeAddDeleteEndpoints found = false)
    (kept : Kept uuid current) (decided : DecidedOnStored current input)
    (stepped : Threads.step (move lib drivers) current input = some next) : Kept uuid next := by
  obtain ⟨before, thread, after, shared, moved, split, position, taken, rfl⟩ := Threads.step_split stepped
  have member : thread ∈ current.threads := by simp [split]
  have top : thread ∈ current.threads[input.1]? := by
    rw [split, ← position]
    simp
  have facts := move_facts single kept.owns (kept.phases thread member) (decided thread top) taken
  have others {other : List Frame} (inside : other ∈ before ++ moved :: after) :
      other ∈ current.threads ∨ other = moved := by
    rw [split]
    simp only [List.mem_append, List.mem_cons] at inside ⊢
    tauto
  constructor
  · exact facts.owns
  · intro other inside
    rcases others inside with old | rfl
    · exact kept.phases other old
    · exact facts.phase
  · intro has
    rcases kept.enabled (facts.kept has) with held | ⟨other, inside, removing⟩
    · refine (facts.enabled has held).imp_right ?_
      exact fun removing => ⟨moved, by simp, removing⟩
    · right
      rw [split, List.mem_append, List.mem_cons] at inside
      rcases inside with left | rfl | right
      · exact ⟨other, by simp [left], removing⟩
      · exact ⟨moved, by simp, facts.removing has removing⟩
      · exact ⟨other, by simp [right], removing⟩
  · have balance := kept.balance
    have change := facts.balance
    rw [split] at balance
    simp only [List.map_append, List.map_cons, List.sum_append, List.sum_cons] at balance ⊢
    omega

/-- Endpoint removals that decide on the stored device leave an enabled endpoint or announce a removal. -/
theorem run_keepsEnabledEndpoint
    (calls : ∀ thread ∈ start.threads, ∃ endpointId, thread = [.removeEndpoint (some uuid) endpointId])
    (single : ∀ found : DeviceRecord, found.uuid = some uuid →
      drivers.cascadeAddDeleteEndpoints found = false)
    (owns : OwnsEndpoints start.shared.db uuid) (enabled : HasEnabledEndpoint start.shared.db uuid)
    (silent : removedEvents start.shared.effects uuid = 0)
    (decided : Runs.Guarded (Threads.step (move lib drivers)) DecidedOnStored start schedule)
    (reached : run lib drivers start schedule = some final)
    (returned : ∀ thread ∈ final.threads, ∃ result, thread = [.returned result]) :
    (final.shared.db.has uuid = false ∨ HasEnabledEndpoint final.shared.db uuid) ∧
      removedEvents final.shared.effects uuid = if final.shared.db.has uuid then 0 else 1 := by
  have none_announces : ∀ thread ∈ start.threads, announcements thread = 0 := by
    intro thread member
    obtain ⟨endpointId, rfl⟩ := calls thread member
    rfl
  have initial : Kept uuid start := by
    constructor
    · exact owns
    · intro thread member
      obtain ⟨endpointId, rfl⟩ := calls thread member
      exact .call endpointId
    · exact fun _ => Or.inl enabled
    · obtain ⟨entry, known, _⟩ := enabled
      have has : start.shared.db.has uuid = true := Option.isSome_iff_exists.mpr ⟨entry, known⟩
      have quiet : (start.threads.map announcements).sum = 0 := by
        rw [List.sum_eq_zero_iff]
        intro count member
        obtain ⟨thread, inside, rfl⟩ := List.mem_map.mp member
        exact none_announces thread inside
      rw [silent, quiet, present, if_pos has]
  have kept : Kept uuid final := Runs.Guarded.invariant _ (Kept uuid)
    (fun _ _ _ kept decided stepped => kept.step single decided stepped) decided initial reached
  have finished : (final.threads.map announcements).sum = 0 := by
    rw [List.sum_eq_zero_iff]
    intro count member
    obtain ⟨thread, inside, rfl⟩ := List.mem_map.mp member
    obtain ⟨result, rfl⟩ := returned thread inside
    rfl
  constructor
  · cases has : final.shared.db.has uuid with
    | false => exact Or.inl rfl
    | true =>
        right
        refine (kept.enabled has).resolve_right ?_
        rintro ⟨thread, member, removing⟩
        obtain ⟨result, rfl⟩ := returned thread member
        cases removing
  · have balance := kept.balance
    rw [finished, present] at balance
    cases has : final.shared.db.has uuid with
    | false | true => simpa [has] using balance

end Runs

/-- This is an enabled endpoint of the sample device. -/
def sampleEndpoint (id : String) : DeviceEndpoint where
  id := some id
  uri := some ("/a/ep/" ++ id)
  profile := some "light"
  profileVersion := 1
  deviceUuid := some "a"
  enabled := true
  resources := []
  metadata := []

/-- The sample device with two endpoints. -/
def sampleLamp : DeviceRecord := { sampleDevice with endpoints := [sampleEndpoint "1", sampleEndpoint "2"] }

/-- The database holds the sample lamp, and nothing else happened. -/
def sampleService : Service :=
  ⟨⟨(Database.run sampleLibrary (JsonDatabase.empty ∅) [(.addDevice sampleLamp, true)]).getD
    (JsonDatabase.empty ∅), [], []⟩, [], [], [], []⟩

/-- The drivers have no callbacks, and no device is removed as a whole. -/
def sampleDrivers : Drivers := ⟨fun _ => false, fun _ => false, fun _ => false⟩

/-- One thread removes each endpoint of the sample lamp. -/
def sampleThreads : List (List Frame) :=
  [[.removeEndpoint (some "a") (some "1")], [.removeEndpoint (some "a") (some "2")]]

/-- The threads move in the given order with a working storage. -/
def order (threads : List Nat) : List (Nat × Outcome) :=
  threads.map fun thread => (thread, ⟨7, true, false, true, true, sampleDevice⟩)

/-- This is the configuration after the threads moved in the given order. -/
def sampleAfter (threads : List Nat) : Threads.Configuration Service (List Frame) :=
  (run sampleLibrary sampleDrivers ⟨sampleService, sampleThreads⟩ (order threads)).getD ⟨sampleService, []⟩

theorem sampleThreads_calls (thread : List Frame) (member : thread ∈ sampleThreads) :
    ∃ endpointId, thread = [.removeEndpoint (some "a") endpointId] := by
  simp only [sampleThreads, List.mem_cons, List.not_mem_nil, or_false] at member
  rcases member with rfl | rfl
  · exact ⟨_, rfl⟩
  · exact ⟨_, rfl⟩

theorem sampleService_owns : OwnsEndpoints sampleService.db "a" := by
  unfold OwnsEndpoints
  decide +kernel

theorem sampleService_enabled : HasEnabledEndpoint sampleService.db "a" := by
  have found : (sampleService.db.deviceEntry "a").any
      (fun entry => entry.device.endpoints.any fun endpoint => endpoint.content.enabled) = true := by
    decide +kernel
  obtain ⟨entry, known, some_enabled⟩ := (Option.any_eq_true _ _).mp found
  exact ⟨entry, known, List.any_eq_true.mp some_enabled⟩

theorem run_keepsEnabledEndpoint_sample :
    ((sampleAfter [0, 0, 0, 0, 1, 1, 1, 1, 1, 1, 1, 1, 1]).shared.db.has "a" = false ∨
      HasEnabledEndpoint (sampleAfter [0, 0, 0, 0, 1, 1, 1, 1, 1, 1, 1, 1, 1]).shared.db "a") ∧
    removedEvents (sampleAfter [0, 0, 0, 0, 1, 1, 1, 1, 1, 1, 1, 1, 1]).shared.effects "a" =
      if (sampleAfter [0, 0, 0, 0, 1, 1, 1, 1, 1, 1, 1, 1, 1]).shared.db.has "a" then 0 else 1 := by
  have decided : Runs.Guarded (Threads.step (move sampleLibrary sampleDrivers)) DecidedOnStored
      ⟨sampleService, sampleThreads⟩ (order [0, 0, 0, 0, 1, 1, 1, 1, 1, 1, 1, 1, 1]) := by
    decide +kernel
  have returned : ∀ thread ∈ (sampleAfter [0, 0, 0, 0, 1, 1, 1, 1, 1, 1, 1, 1, 1]).threads,
      ∃ result, thread = [Frame.returned result] := by
    intro thread member
    have same : (sampleAfter [0, 0, 0, 0, 1, 1, 1, 1, 1, 1, 1, 1, 1]).threads =
      [[.returned true], [.returned true]] := rfl
    rw [same, List.mem_cons, List.mem_singleton, or_self] at member
    exact ⟨true, member⟩
  exact run_keepsEnabledEndpoint sampleThreads_calls (fun _ _ => rfl) sampleService_owns
    sampleService_enabled rfl decided rfl returned

/-- Two removals count each other's endpoint as enabled, and the device stays without an enabled one. -/
theorem not_run_keepsEnabledEndpoint :
    ¬∀ (lib : Library) (drivers : Drivers) (calls : List (Call × Bool)) (db : JsonDatabase)
      (uuid : String) (threads : List (List Frame)) (schedule : List (Nat × Outcome))
      (final : Threads.Configuration Service (List Frame)),
      Database.run lib (JsonDatabase.empty ∅) calls = some db →
      (∀ thread ∈ threads, ∃ endpointId, thread = [.removeEndpoint (some uuid) endpointId]) →
      (∀ found : DeviceRecord, found.uuid = some uuid →
        drivers.cascadeAddDeleteEndpoints found = false) →
      OwnsEndpoints db uuid → HasEnabledEndpoint db uuid →
      (∀ input ∈ schedule, input.2.stored = true) →
      run lib drivers ⟨⟨⟨db, [], []⟩, [], [], [], []⟩, threads⟩ schedule = some final →
      (∀ thread ∈ final.threads, ∃ result, thread = [.returned result]) →
      (final.shared.db.has uuid = false ∨ HasEnabledEndpoint final.shared.db uuid) ∧
        removedEvents final.shared.effects uuid = if final.shared.db.has uuid then 0 else 1 := by
  intro claim
  have returned : ∀ thread ∈ (sampleAfter [0, 0, 1, 1, 0, 1, 0, 1]).threads,
      ∃ result, thread = [Frame.returned result] := by
    intro thread member
    have same : (sampleAfter [0, 0, 1, 1, 0, 1, 0, 1]).threads =
      [[.returned true], [.returned true]] := rfl
    rw [same, List.mem_cons, List.mem_singleton, or_self] at member
    exact ⟨true, member⟩
  obtain ⟨kept, _⟩ := claim sampleLibrary sampleDrivers [(.addDevice sampleLamp, true)] sampleService.db
    "a" sampleThreads (order [0, 0, 1, 1, 0, 1, 0, 1]) (sampleAfter [0, 0, 1, 1, 0, 1, 0, 1]) rfl
    sampleThreads_calls (fun _ _ => rfl) sampleService_owns sampleService_enabled (by decide) rfl returned
  have disabled : (sampleAfter [0, 0, 1, 1, 0, 1, 0, 1]).shared.db.has "a" = true ∧
      ((sampleAfter [0, 0, 1, 1, 0, 1, 0, 1]).shared.db.deviceEntry "a").all
        (fun entry => entry.device.endpoints.all fun endpoint => !endpoint.content.enabled) = true := by
    decide +kernel
  rcases kept with gone | ⟨entry, known, endpoint, member, enabled⟩
  · exact absurd disabled.1 (by rw [gone]; exact Bool.false_ne_true)
  · have all := disabled.2
    rw [Option.mem_def.mp known] at all
    have off := List.all_eq_true.mp all endpoint member
    rw [enabled] at off
    cases off

end Barton.Lifecycle
