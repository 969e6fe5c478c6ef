import BartonCore.Proof.DeviceService.Resources

namespace Barton.Access
open Database

/-- Two devices have the same metadata, the same endpoints in the same state, and resources of the same endpoints. -/
structure SameAccess (device other : CachedDevice) : Prop where
  resources : ∀ address, (other.resourceAt address).map (fun resource => resource.content.endpointId) =
    (device.resourceAt address).map fun resource => resource.content.endpointId
  metadata : ∀ address, other.metadataAt address = device.metadataAt address
  endpoints : ∀ address, (other.endpointAt address).map (fun endpoint => endpoint.content.enabled) =
    (device.endpointAt address).map fun endpoint => endpoint.content.enabled
  ids : ∀ id, (other.endpoints.find? fun endpoint => endpoint.content.id == some id).map
      (fun endpoint => endpoint.content.enabled) =
    (device.endpoints.find? fun endpoint => endpoint.content.id == some id).map fun endpoint => endpoint.content.enabled

theorem SameAccess.refl (device : CachedDevice) : SameAccess device device :=
  ⟨fun _ => rfl, fun _ => rfl, fun _ => rfl, fun _ => rfl⟩

/-- A write to a resource that keeps its endpoint id keeps the access. -/
theorem sameAccess_updateResource (device : CachedDevice) (address : Address) {update : DeviceResource → DeviceResource}
    (kept : ∀ resource, (update resource).endpointId = resource.endpointId) :
    SameAccess device (device.updateResource address update) where
  resources := by
    intro other
    have contents := congrArg (Option.map DeviceResource.endpointId)
      (Resources.resourceAt_updateResource device address other update)
    rw [Option.map_map, Option.map_map, Option.map_map] at contents
    refine contents.trans ?_
    congr 1
    funext resource
    simp only [Function.comp_apply]
    split
    · exact kept resource.content
    · rfl
  metadata := by
    intro other
    unfold CachedDevice.metadataAt CachedDevice.allMetadata CachedDevice.updateResource
    rw [List.flatMap_map]
  endpoints := by
    intro other
    unfold CachedDevice.endpointAt CachedDevice.updateResource Cells.read
    rw [List.find?_map, Option.map_map]
    rfl
  ids := by
    intro id
    unfold CachedDevice.updateResource
    rw [List.find?_map, Option.map_map]
    rfl

section
variable {lib : Library} {db next : JsonDatabase}

/-- The devices of the next state have the same access at the same places under the same keys. -/
structure KeepsDevices (db next : JsonDatabase) : Prop where
  index : next.resourcesByUri = db.resourcesByUri
  change : ∃ change : CacheEntry → CacheEntry, next.devices = db.devices.map change ∧ ∀ entry,
    (change entry).address = entry.address ∧ (change entry).uuid = entry.uuid ∧ SameAccess entry.device (change entry).device

theorem KeepsDevices.enabled (keeps : KeepsDevices db next) (entry : Address) (owner : Option Address) :
    isEndpointEnabled next entry owner = isEndpointEnabled db entry owner := by
  obtain ⟨change, devices, same⟩ := keeps.change
  cases owner with
  | none => rfl
  | some address =>
      unfold isEndpointEnabled JsonDatabase.endpointAt JsonDatabase.entryAt
      dsimp only
      rw [devices, Cells.read_map change (fun entry => (same entry).1)]
      cases Cells.read CacheEntry.address entry db.devices with
      | none => rfl
      | some held => exact (same held).2.2.endpoints address

/-- The accessibility depends on the access of the devices only. -/
theorem KeepsDevices.accessible (keeps : KeepsDevices db next) (uri : String) :
    jsonDatabaseIsUriAccessible next uri = jsonDatabaseIsUriAccessible db uri := by
  have enabled := keeps.enabled
  obtain ⟨change, devices, same⟩ := keeps.change
  unfold jsonDatabaseIsUriAccessible
  rw [keeps.index]
  cases db.resourcesByUri.lookup uri with
  | none =>
      unfold isMetadataAccessible jsonDatabaseGetEndpointById JsonDatabase.deviceEntry
      rw [devices]
      simp only [Cells.read_map change fun entry => (same entry).2.1]
      split
      · split
        · rfl
        · rename_i parsed _
          split
          · simp only [Option.map_some]
            cases Cells.read CacheEntry.uuid (some parsed.deviceId) db.devices with
            | none => rfl
            | some held =>
                have state (found : Option CachedEndpoint) : ((found.map CachedEndpoint.record).any fun endpoint =>
                    endpoint.enabled) = (found.map fun endpoint => endpoint.content.enabled).any id := by
                  cases found <;> rfl
                simp only [Option.map_some, Option.bind_some, Option.some.injEq]
                rw [state, state, (same held).2.2.ids parsed.endpointId]
          · rfl
      · rfl
  | some locator =>
      cases locator with
      | device entry => rfl
      | endpoint entry address => exact enabled entry (some address)
      | resource entry owner address =>
          dsimp only
          unfold JsonDatabase.resourceAt JsonDatabase.entryAt
          rw [devices, Cells.read_map change fun entry => (same entry).1, enabled]
          cases Cells.read CacheEntry.address entry db.devices with
          | none => rfl
          | some held =>
              have state (found : Option CachedResource) : (found.bind fun resource =>
                  if resource.content.endpointId.isSome then isEndpointEnabled db entry owner else some true) =
                  (found.map fun resource => resource.content.endpointId).bind fun endpointId =>
                    if endpointId.isSome then isEndpointEnabled db entry owner else some true := by
                cases found <;> rfl
              simp only [Option.map_some, Option.bind_some]
              rw [state, state, (same held).2.2.resources address]
      | metadata entry owner address =>
          dsimp only
          unfold JsonDatabase.metadataAt JsonDatabase.entryAt
          rw [devices, Cells.read_map change fun entry => (same entry).1, enabled]
          cases Cells.read CacheEntry.address entry db.devices with
          | none => rfl
          | some held =>
              simp only [Option.map_some, Option.bind_some]
              rw [(same held).2.2.metadata address]

/-- A write to one entry that keeps its access keeps the devices. -/
theorem keepsDevices_updateEntry (db : JsonDatabase) (address : Address) {update : CacheEntry → CacheEntry}
    (kept : ∀ entry, (update entry).address = entry.address ∧ (update entry).uuid = entry.uuid ∧
      SameAccess entry.device (update entry).device) : KeepsDevices db (db.updateEntry address update) where
  index := rfl
  change := by
    refine ⟨fun entry => if entry.address = address then update entry else entry, rfl, fun entry => ?_⟩
    by_cases inside : entry.address = address
    · simp only [if_pos inside]
      exact kept entry
    · simp only [if_neg inside]
      exact ⟨trivial, trivial, SameAccess.refl entry.device⟩

theorem keepsDevices_withResource (db : JsonDatabase) (entry address : Address) {update : DeviceResource → DeviceResource}
    (kept : ∀ resource, (update resource).endpointId = resource.endpointId) :
    KeepsDevices db (withResource db entry address update) :=
  keepsDevices_updateEntry db entry fun held => ⟨rfl, rfl, sameAccess_updateResource held.device address kept⟩

variable {result stored : Bool}

theorem flushEntry_access {address : Address} (flushed : flushEntry lib db address stored = some (result, next))
    (uri : String) : jsonDatabaseIsUriAccessible next uri = jsonDatabaseIsUriAccessible db uri := by
  obtain ⟨entry, _, _, same⟩ := flushEntry_cases lib flushed
  have keeps := @keepsDevices_updateEntry db address (fun entry => { entry with dirty := !stored })
    fun entry => ⟨rfl, rfl, SameAccess.refl entry.device⟩
  rw [same]
  exact KeepsDevices.accessible ⟨keeps.index, keeps.change⟩ uri

theorem saveResource_access {resource : DeviceResource}
    (saved : jsonDatabaseSaveResource lib db resource stored = some (result, next)) (uri : String) :
    jsonDatabaseIsUriAccessible next uri = jsonDatabaseIsUriAccessible db uri := by
  have replaced (entry address : Address) :
      KeepsDevices db (withResource db entry address (replaceResource resource)) :=
    keepsDevices_withResource db entry address fun _ => rfl
  rcases jsonDatabaseSaveResource_cases lib saved with
    ⟨_, _, same⟩ | ⟨entry, address, _, ⟨_, _, same⟩ | ⟨_, flushed⟩⟩
  · rw [same]
  · rw [same]
    exact (replaced entry address).accessible uri
  · exact (flushEntry_access flushed uri).trans ((replaced entry address).accessible uri)

theorem updateDate_access {resource : DeviceResource} {now : UInt64}
    (updated : jsonDatabaseUpdateDateOfLastSyncMillis db resource now = some (result, next)) (uri : String) :
    jsonDatabaseIsUriAccessible next uri = jsonDatabaseIsUriAccessible db uri := by
  rcases jsonDatabaseUpdateDateOfLastSyncMillis_cases updated with
    ⟨_, _, same⟩ | ⟨entry, address, _, _, same⟩
  · rw [same]
  · rw [same]
    refine KeepsDevices.accessible ?_ uri
    exact keepsDevices_withResource db entry address fun _ => rfl

end

section
open Resources
variable {lib : Library} {service next : Service} {outcome : Outcome}

/-- Every part of `updateResource` and of a mode change keeps the accessibility of every URI. -/
theorem frameMove_access {frame : Frame} {frames : List Frame}
    (moved : frameMove lib service frame outcome = some (next, frames)) (uri : String) :
    jsonDatabaseIsUriAccessible next.db uri = jsonDatabaseIsUriAccessible service.db uri := by
  have read {found : Option (List Frame)}
      (moved : found.map (fun frames => (service, frames)) = some (next, frames)) :
      jsonDatabaseIsUriAccessible next.db uri = jsonDatabaseIsUriAccessible service.db uri := by
    obtain ⟨_, _, same⟩ := Option.map_eq_some_iff.mp moved
    cases same
    rfl
  cases frame with
  | store call resource =>
      change storeValue lib service call resource outcome = _ at moved
      unfold storeValue at moved
      split at moved
      · obtain ⟨⟨result, db⟩, updated, same⟩ := Option.map_eq_some_iff.mp moved
        cases same
        exact updateDate_access updated uri
      · obtain ⟨⟨result, db⟩, saved, same⟩ := Option.map_eq_some_iff.mp moved
        cases same
        exact saveResource_access saved uri
  | storeMode resource newMode =>
      obtain ⟨⟨result, db⟩, saved, same⟩ := Option.map_eq_some_iff.mp moved
      cases same
      exact saveResource_access saved uri
  | send event =>
      cases moved
      rfl
  | returned result => cases moved
  | update | changeMode | findResource | findEndpoint | findDevice | findInherited => exact read moved

/-- Every interleaving of updates and mode changes keeps the accessibility of every URI. -/
theorem run_access {start final : Threads.Configuration Service (List Frame)} {schedule : List (Nat × Outcome)}
    (reached : Resources.run lib start schedule = some final) (uri : String) :
    jsonDatabaseIsUriAccessible final.shared.db uri = jsonDatabaseIsUriAccessible start.shared.db uri := by
  refine Runs.invariant (Threads.step (move lib)) (fun current => jsonDatabaseIsUriAccessible current.shared.db uri =
    jsonDatabaseIsUriAccessible start.shared.db uri) ?_ rfl reached
  intro current input after held stepped
  obtain ⟨before, thread, behind, shared, result, _, _, taken, rfl⟩ := Threads.step_split stepped
  unfold move at taken
  split at taken
  · cases taken
  · obtain ⟨⟨service, frames⟩, made, same⟩ := Option.map_eq_some_iff.mp taken
    cases same
    exact (frameMove_access made uri).trans held

end

end Barton.Access
