import BartonCore.Construction.DeviceService.Inheritance
import BartonCore.Proof.DeviceService.Endpoints
import BartonCore.Proof.DeviceService.UriPatterns

namespace Barton.Inheritance
open Database Resources UriPatterns

/-- The root device has a resource that its endpoint does not have: its own URI leads to the resource, and the
database has no object under the URI that is formed with the endpoint. -/
structure InheritedResource (db : JsonDatabase) where
  entry : CacheEntry
  held : entry ∈ db.devices
  endpoint : CachedEndpoint
  listed : endpoint ∈ entry.device.endpoints
  enabled : endpoint.content.enabled = true
  endpointUri : String
  endpointNamed : endpoint.content.uri = some endpointUri
  resource : CachedResource
  owned : resource ∈ entry.device.resources
  resourceId : String
  identified : resource.content.id = some resourceId
  ofRoot : resource.content.endpointId = none
  rootUri : String
  resourceNamed : resource.content.uri = some rootUri
  located : db.resourcesByUri.lookup rootUri = some (.resource entry.address none resource.address)
  addressed : db.resourceAt entry.address resource.address = some resource
  missing : db.resourcesByUri.lookup (endpointUri ++ "/r/" ++ resourceId) = none

/-- This is the URI that is formed from the URI of the endpoint and the id of the resource. -/
def InheritedResource.uri {db : JsonDatabase} (inherited : InheritedResource db) : String :=
  inherited.endpointUri ++ "/r/" ++ inherited.resourceId

section absent
variable {db : JsonDatabase} {uri : String} (absent : db.resourcesByUri.lookup uri = none)
include absent

/-- The accessibility of a URI in no map is that of metadata. -/
theorem isUriAccessible_absent : ∃ accessible, jsonDatabaseIsUriAccessible db uri = some accessible := by
  unfold jsonDatabaseIsUriAccessible isMetadataAccessible
  rw [absent]
  dsimp only
  split
  · split
    · exact ⟨false, rfl⟩
    · split
      · exact ⟨_, rfl⟩
      · exact ⟨true, rfl⟩
  · exact ⟨false, rfl⟩

/-- The endpoint is looked up under the URI of the resource, so the root device is never tried. -/
theorem getEndpointByUri_absent : jsonDatabaseGetEndpointByUri db uri = some none := by
  unfold jsonDatabaseGetEndpointByUri
  rw [absent]

theorem resourceOrInherited_absent : resourceOrInherited db uri = some none := by
  unfold resourceOrInherited
  rw [getResourceByUri_of_missing absent, Option.bind_some]
  dsimp only
  rw [getEndpointByUri_absent absent, Option.bind_some]

/-- A read finds nothing. -/
theorem getResource_absent (drivers : ResourceDrivers) :
    deviceServiceGetResourceByUri db drivers (some uri) = some (none, db) := by
  obtain ⟨accessible, access⟩ := isUriAccessible_absent absent
  unfold deviceServiceGetResourceByUri deviceServiceIsUriAccessible
  dsimp only
  rw [access, Option.bind_some, resourceOrInherited_absent absent, Option.bind_some]
  split <;> rfl

/-- An execution is refused, and no driver is called. -/
theorem executeResource_absent (drivers : ResourceDrivers) (arg : Option String) :
    deviceServiceExecuteResource db drivers (some uri) arg = some ⟨false, none, db, none⟩ := by
  obtain ⟨accessible, access⟩ := isUriAccessible_absent absent
  unfold deviceServiceExecuteResource deviceServiceIsUriAccessible
  dsimp only
  rw [access, Option.bind_some, resourceOrInherited_absent absent, Option.bind_some]
  split <;> rfl

/-- A write reports success without a selected resource. -/
theorem writeResource_absent (other : String → Option Regex) (drivers : DriverManager) (value : Option String)
    (plain : isUriPattern uri = false) :
    deviceServiceWriteResource drivers value other db (some uri) = some ⟨true, db, []⟩ := by
  unfold deviceServiceWriteResource
  rw [getResourcesInternal_plain (ne_true_of_eq_false plain), getResourceByUri_of_missing absent]
  rfl

end absent

section modes
variable (lib : Library) (service : Service) (newMode : UInt8) (outcome : Outcome)

theorem finish_step {moves : Nat} {frame : Frame} {rest : List Frame} (running : returned (frame :: rest) = none) :
    finish lib outcome (moves + 1) service (frame :: rest) =
      (frameMove lib service frame outcome).bind fun moved =>
        finish lib outcome moves moved.1 (moved.2 ++ rest) := by
  rw [finish, running]
  dsimp only [move]
  rw [Option.map_eq_bind, Option.bind_assoc]
  rfl

/-- The parts of a mode change before its save leave the service as it is. -/
theorem finish_find {moves : Nat} {frame next : Frame} (running : returned [frame] = none)
    (moved : frameMove lib service frame outcome = some (service, [next])) :
    finish lib outcome (moves + 1) service [frame] = finish lib outcome moves service [next] := by
  rw [finish_step lib service outcome running, moved]
  rfl

/-- A mode change of a URI in no map is refused. -/
theorem changeMode_absent {uri : String} (absent : service.db.resourcesByUri.lookup uri = none) :
    deviceServiceChangeResourceMode lib service (some uri) newMode outcome = some (false, service) := by
  obtain ⟨accessible, access⟩ := isUriAccessible_absent absent
  have started : frameMove lib service (.changeMode (some uri) newMode) outcome =
      some (service, [if accessible then .findResource uri newMode else .returned false]) := by
    dsimp only [frameMove, findResource]
    rw [access]
    cases accessible <;> rfl
  have unfound : frameMove lib service (.findResource uri newMode) outcome =
      some (service, [.findEndpoint uri newMode]) := by
    dsimp only [frameMove, findResource]
    rw [getResourceByUri_of_missing absent]
    rfl
  have ended : frameMove lib service (.findEndpoint uri newMode) outcome = some (service, [.returned false]) := by
    dsimp only [frameMove, findResource]
    rw [getEndpointByUri_absent absent]
    rfl
  rw [deviceServiceChangeResourceMode, finish_find lib service outcome rfl started]
  cases accessible with
  | false => rfl
  | true =>
      rw [if_pos rfl, finish_find lib service outcome rfl unfound, finish_find lib service outcome rfl ended]
      rfl

/-- A mode change of an accessible resource that is found does not return false. -/
theorem changeMode_found {uri : String} {resource : DeviceResource}
    (access : jsonDatabaseIsUriAccessible service.db uri = some true)
    (found : jsonDatabaseGetResourceByUri service.db uri = some (some resource)) (after : Service) :
    deviceServiceChangeResourceMode lib service (some uri) newMode outcome ≠ some (false, after) := by
  have started : frameMove lib service (.changeMode (some uri) newMode) outcome =
      some (service, [.findResource uri newMode]) := by
    dsimp only [frameMove, findResource]
    rw [access]
    rfl
  have read : frameMove lib service (.findResource uri newMode) outcome =
      some (service, [.storeMode resource newMode]) := by
    dsimp only [frameMove, findResource]
    rw [found]
    rfl
  rw [deviceServiceChangeResourceMode, finish_find lib service outcome rfl started,
    finish_find lib service outcome rfl read, finish_step lib service outcome rfl]
  dsimp only [frameMove, storeMode]
  cases jsonDatabaseSaveResource lib service.db (changedCopy resource newMode) outcome.stored with
  | none => exact fun same => by cases same
  | some saved =>
      intro same
      cases same

end modes

section inheritance
variable {db : JsonDatabase} (inherited : InheritedResource db)

/-- The four operations do the same for the formed URI as for the URI of the resource of the root device. -/
structure Inherits (lib : Library) (other : String → Option Regex) : Prop where
  reads : ∀ drivers, deviceServiceGetResourceByUri db drivers (some inherited.uri) =
    deviceServiceGetResourceByUri db drivers (some inherited.rootUri)
  writes : ∀ drivers value, deviceServiceWriteResource drivers value other db (some inherited.uri) =
    deviceServiceWriteResource drivers value other db (some inherited.rootUri)
  executes : ∀ drivers arg, deviceServiceExecuteResource db drivers (some inherited.uri) arg =
    deviceServiceExecuteResource db drivers (some inherited.rootUri) arg
  changesMode : ∀ (service : Service) newMode outcome, service.db = db →
    deviceServiceChangeResourceMode lib service (some inherited.uri) newMode outcome =
      deviceServiceChangeResourceMode lib service (some inherited.rootUri) newMode outcome

theorem InheritedResource.absent : db.resourcesByUri.lookup inherited.uri = none := inherited.missing

theorem InheritedResource.accessible : jsonDatabaseIsUriAccessible db inherited.rootUri = some true := by
  unfold jsonDatabaseIsUriAccessible
  rw [inherited.located]
  dsimp only
  rw [inherited.addressed, Option.bind_some, inherited.ofRoot]
  rfl

theorem InheritedResource.found :
    jsonDatabaseGetResourceByUri db inherited.rootUri = some (some inherited.resource.content) := by
  unfold jsonDatabaseGetResourceByUri
  rw [inherited.located]
  dsimp only
  rw [inherited.addressed]
  rfl

/-- A read of the formed URI agrees with the other one only where that one finds nothing either. -/
theorem reads_iff (drivers : ResourceDrivers) :
    deviceServiceGetResourceByUri db drivers (some inherited.uri) =
        deviceServiceGetResourceByUri db drivers (some inherited.rootUri) ↔
      deviceServiceGetResourceByUri db drivers (some inherited.rootUri) = some (none, db) := by
  rw [getResource_absent inherited.absent]
  exact eq_comm

/-- The same holds for an execution and its refusal. -/
theorem executes_iff (drivers : ResourceDrivers) (arg : Option String) :
    deviceServiceExecuteResource db drivers (some inherited.uri) arg =
        deviceServiceExecuteResource db drivers (some inherited.rootUri) arg ↔
      deviceServiceExecuteResource db drivers (some inherited.rootUri) arg = some ⟨false, none, db, none⟩ := by
  rw [executeResource_absent inherited.absent]
  exact eq_comm

/-- A write of the formed URI reports success without a driver, and a write of the other one selects it. -/
theorem writes_ne (other : String → Option Regex) (drivers : DriverManager) (value : Option String)
    (plain : isUriPattern inherited.uri = false) (rootPlain : isUriPattern inherited.rootUri = false) :
    deviceServiceWriteResource drivers value other db (some inherited.uri) ≠
      deviceServiceWriteResource drivers value other db (some inherited.rootUri) := by
  rw [writeResource_absent inherited.absent other drivers value plain]
  unfold deviceServiceWriteResource
  rw [getResourcesInternal_plain (ne_true_of_eq_false rootPlain), inherited.found]
  simp only [Option.map_some, Option.bind_some, Option.toList_some, writeEach, deviceServiceIsUriAccessible,
    inherited.resourceNamed, inherited.accessible, if_true, List.nil_append]
  cases deviceServiceWriteResourceNoPattern db drivers inherited.rootUri value with
  | none => exact fun same => by cases same
  | some written =>
      intro same
      have selected := congrArg (Option.map WriteOutcome.selected) same
      simp at selected

/-- The mode of the resource of the root device is never changed through the formed URI. -/
theorem changesMode_ne (lib : Library) (service : Service) (newMode : UInt8) (outcome : Outcome)
    (same : service.db = db) :
    deviceServiceChangeResourceMode lib service (some inherited.uri) newMode outcome ≠
      deviceServiceChangeResourceMode lib service (some inherited.rootUri) newMode outcome := by
  subst same
  rw [changeMode_absent lib service newMode outcome inherited.absent]
  exact (changeMode_found lib service newMode outcome inherited.accessible inherited.found service).symm

/-- No resource of the root device is inherited by an endpoint. -/
theorem not_inherits (lib : Library) (other : String → Option Regex) : ¬ Inherits inherited lib other := by
  intro inherits
  exact changesMode_ne inherited lib ⟨db, [], []⟩ 0 ⟨0, true⟩ rfl
    (inherits.changesMode ⟨db, [], []⟩ 0 ⟨0, true⟩ rfl)

/-- The sample device with a resource and an endpoint that does not have it. -/
def inheritingDevice : DeviceRecord :=
  { sampleDevice with endpoints := [Lifecycle.sampleEndpoint "1"], resources := [sampleResource] }

def inheritingDatabase : JsonDatabase :=
  (run sampleLibrary (JsonDatabase.empty ∅) [(.addDevice inheritingDevice, true)]).getD (JsonDatabase.empty ∅)

/-- The resource `on` of the device `a` and its endpoint `1`. -/
def inheritedSample : InheritedResource inheritingDatabase where
  entry := ⟨0, deviceClone 1 inheritingDevice, false⟩
  held := by decide +kernel
  endpoint := endpointClone 1 (Lifecycle.sampleEndpoint "1")
  listed := by decide +kernel
  enabled := rfl
  endpointUri := "/a/ep/1"
  endpointNamed := rfl
  resource := ⟨2, sampleResource⟩
  owned := by decide +kernel
  resourceId := "on"
  identified := rfl
  ofRoot := rfl
  rootUri := "/a/r/on"
  resourceNamed := rfl
  located := by decide +kernel
  addressed := by decide +kernel
  missing := by decide +kernel

/-- The mode of the resource `on` cannot be changed through the endpoint. -/
theorem not_all_inherit : ¬ ∀ (db : JsonDatabase) (inherited : InheritedResource db) (lib : Library)
    (other : String → Option Regex), Inherits inherited lib other := by
  intro inherit
  have inherits := inherit inheritingDatabase inheritedSample sampleLibrary fun _ => none
  exact changesMode_ne inheritedSample sampleLibrary ⟨inheritingDatabase, [], []⟩ 0 ⟨0, true⟩ rfl
    (inherits.changesMode ⟨inheritingDatabase, [], []⟩ 0 ⟨0, true⟩ rfl)

end inheritance

end Barton.Inheritance
