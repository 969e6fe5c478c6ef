/-
This file contains the removal, the pairing, and the reconfiguration of devices.
Each call of the database and each other critical section is one move of a thread.
-/

import BartonCore.Construction.DeviceService.Resources

namespace Barton.Lifecycle
open Database

/-- This is the part of `ReconfigureDeviceContext` that other threads read. -/
structure ReconfigureDeviceContext where
  deviceUuid : String
  taskHandle : Nat
  deriving DecidableEq

/-- The details of a found device. The flag `migrated` says that a device migrator is set. -/
structure DeviceFoundDetails where
  deviceUuid : String
  deviceClass : String
  migrated : Bool
  inRepairMode : Bool
  deriving DecidableEq

/-- These are the events and the driver callbacks of the modelled functions. -/
inductive Effect where
  | deviceRemoved (uuid deviceClass : Option String)
  | endpointRemoved (endpoint : DeviceEndpoint) (deviceClass : Option String) (deviceRemoved : Bool)
  | driverDeviceRemoved (device : DeviceRecord)
  | driverEndpointDisabled (endpoint : DeviceEndpoint)
  | metadataUpdated (metadata : DeviceMetadata)
  | deviceRejected (found : DeviceFoundDetails)
  | deviceDiscovered (found : DeviceFoundDetails)
  | deviceAdded (uuid : Option String)
  | endpointAdded (endpoint : DeviceEndpoint) (deviceClass : Option String)
  | deviceRecovered (uuid : Option String)
  | discoveryCompleted (device : DeviceRecord) (inRepairMode : Bool)
  | discoveryFailed (found : DeviceFoundDetails)
  | reconfigurationCompleted (result : Bool) (uuid : String)
  deriving DecidableEq

/-- The state that the threads share. -/
structure Service where
  resources : Resources.Service
  markedForRemoval : List String
  pendingReconfiguration : List ReconfigureDeviceContext
  /-- the handles of the delay tasks that have not started -/
  waitingTasks : List Nat
  effects : List Effect

def Service.db (service : Service) : JsonDatabase := service.resources.db

def Service.setDb (service : Service) (db : JsonDatabase) : Service :=
  { service with resources := { service.resources with db := db } }

def Service.emit (service : Service) (effects : List Effect) : Service :=
  { service with effects := service.effects ++ effects }

/-- What the drivers and the descriptors say during a run. -/
structure Drivers where
  /-- The driver with this name exists and has the function `deviceRemoved`. -/
  deviceRemoved : Option String → Bool
  /-- The driver with this name exists and has the function `endpointDisabled`. -/
  endpointDisabled : Option String → Bool
  /-- `getDeviceDescriptorCascadeAddDeleteEndpoints` -/
  cascadeAddDeleteEndpoints : DeviceRecord → Bool

/-- What one move depends on beside the shared state. -/
structure Outcome where
  now : UInt64
  /-- the result of `storageSave` or `storageDelete` -/
  stored : Bool
  /-- The wait for a pending reconfiguration reaches its time limit. -/
  timedOut : Bool
  /-- The found device is neither denylisted nor without a descriptor. -/
  admitted : Bool
  /-- All steps of the configuration by the driver succeed. -/
  configured : Bool
  /-- the tree that the configuration builds -/
  built : DeviceRecord

/-- A frame is the rest of a call between two moves. -/
inductive Frame where
  | removeEndpoint (deviceUuid endpointId : Option String)
  | fetchEndpoint (deviceUuid endpointId : Option String) (device : Option DeviceRecord)
  | disableEndpoint (device : DeviceRecord) (endpoint : DeviceEndpoint)
  | endpointDisabled (device : DeviceRecord) (endpoint : DeviceEndpoint)
  | removeDevice (uuid : Option String)
  | markForRemoval (uuid : String)
  | findContext (uuid : String) (device : DeviceRecord)
  | checkTask (uuid : String) (device : DeviceRecord) (taskHandle : Nat)
  | cancelTask (uuid : String) (device : DeviceRecord) (taskHandle : Nat)
  | dropContext (uuid : String) (device : DeviceRecord)
  | awaitTask (uuid : String) (device : DeviceRecord)
  | deleteDevice (uuid : String) (device : DeviceRecord)
  | announceRemoval (device : DeviceRecord)
  | setMetadataUri (uri value : Option String)
  | setMetadata (deviceUuid endpointId name value : Option String)
  | saveMetadata (metadata : DeviceMetadata)
  | announceMetadata (metadata : DeviceMetadata)
  | resource (frame : Resources.Frame)
  | deviceFound (found : DeviceFoundDetails)
  | pair (found : DeviceFoundDetails)
  | checkMark (found : DeviceFoundDetails) (device : DeviceRecord)
  | finalizeFound (found : DeviceFoundDetails) (device : DeviceRecord)
  | paired (found : DeviceFoundDetails) (device : DeviceRecord) (successful : Bool)
  | scheduled (taskHandle : Nat) (uuid : String)
  | fetchDevice (uuid : String)
  | configure (uuid : String) (device : DeviceRecord)
  | yoinkDevice (uuid : String) (device newDevice : DeviceRecord)
  | yoinkEndpoint (uuid : String) (device newDevice : DeviceRecord) (endpoint : DeviceEndpoint)
      (rest : List DeviceEndpoint)
  | removeOld (uuid : String) (device newDevice : DeviceRecord)
  | addNew (uuid : String) (newDevice : DeviceRecord)
  | clearRequired (uuid : String)
  | complete (uuid : String) (result : Bool)
  | dropTask (uuid : String) (result : Bool)
  | returned (result : Bool)

/-- The result of a move is the next shared state and the frames that replace the moved one. -/
abbrev Moved := Option (Service × List Frame)

section Removal
variable (drivers : Drivers) (service : Service)

/-- The loop looks for an enabled endpoint with another id, and `strcmp` faults on a NULL id. -/
def atLeastOneActiveEndpoint (endpoint : DeviceEndpoint) : List DeviceEndpoint → Option Bool
  | [] => some false
  | other :: rest =>
      if other.enabled then
        match other.id, endpoint.id with
        | some otherId, some id => if otherId = id then atLeastOneActiveEndpoint endpoint rest else some true
        | _, _ => none
      else atLeastOneActiveEndpoint endpoint rest

/-- The copies are there, and an enabled endpoint is disabled or takes the whole device with it. -/
def removeFetchedEndpoint (device : Option DeviceRecord) (endpoint : Option DeviceEndpoint) : List Frame :=
  match device, endpoint with
  | some device, some endpoint =>
      if endpoint.enabled then
        if drivers.cascadeAddDeleteEndpoints device then
          [.removeDevice endpoint.deviceUuid, .returned true]
        else [.disableEndpoint device endpoint]
      else [.returned false]
  | _, _ => [.returned false]

/-- The decision after the save uses the copy of the device from before the save. -/
def afterDisable (device : DeviceRecord) (endpoint : DeviceEndpoint) : Moved :=
  (atLeastOneActiveEndpoint endpoint device.endpoints).map fun active =>
    if active then
      (service.emit ((if drivers.endpointDisabled device.managingDeviceDriver then
          [.driverEndpointDisabled endpoint] else []) ++
        [.endpointRemoved endpoint device.deviceClass false]), [.returned true])
    else
      (service.emit [.endpointRemoved endpoint device.deviceClass true],
        [.removeDevice endpoint.deviceUuid, .returned true])

def deviceServiceRemoveEndpointById (outcome : Outcome) (lib : Library) : Frame → Moved
  | .removeEndpoint deviceUuid endpointId =>
      some (service, [.fetchEndpoint deviceUuid endpointId (jsonDatabaseGetDeviceById service.db deviceUuid)])
  | .fetchEndpoint deviceUuid endpointId device =>
      (jsonDatabaseGetEndpointById service.db deviceUuid endpointId).map fun endpoint =>
        (service, removeFetchedEndpoint drivers device endpoint)
  | .disableEndpoint device endpoint =>
      (jsonDatabaseSaveEndpoint lib service.db { endpoint with enabled := false } outcome.stored).map
        fun saved => (service.setDb saved.2, [.endpointDisabled device { endpoint with enabled := false }])
  | .endpointDisabled device endpoint => afterDisable drivers service device endpoint
  | _ => none

/-- The effects at the end of a removal. -/
def removalEffects (device : DeviceRecord) : List Effect :=
  ((device.endpoints.filter fun endpoint => endpoint.enabled).map fun endpoint =>
    Effect.endpointRemoved endpoint device.deviceClass true) ++
  (if drivers.deviceRemoved device.managingDeviceDriver then [.driverDeviceRemoved device] else []) ++
  [.deviceRemoved device.uuid device.deviceClass]

/-- The frames between `findContext` and `deleteDevice` are `waitForOrCancelPendingReconfiguration`. -/
def deviceServiceRemoveDevice (outcome : Outcome) : Frame → Moved
  | .removeDevice none => some (service, [.returned false])
  | .removeDevice (some uuid) =>
      match jsonDatabaseGetDeviceById service.db (some uuid) with
      | none => some (service, [.markForRemoval uuid])
      | some device => some (service, [.findContext uuid device])
  | .markForRemoval uuid =>
      some ({ service with markedForRemoval := service.markedForRemoval.insert uuid }, [.returned true])
  | .findContext uuid device =>
      match Cells.read ReconfigureDeviceContext.deviceUuid uuid service.pendingReconfiguration with
      | none => some (service, [.deleteDevice uuid device])
      | some context => some (service, [.checkTask uuid device context.taskHandle])
  | .checkTask uuid device taskHandle =>
      if taskHandle ∈ service.waitingTasks then some (service, [.cancelTask uuid device taskHandle])
      else some (service, [.awaitTask uuid device])
  | .cancelTask uuid device taskHandle =>
      some ({ service with waitingTasks := service.waitingTasks.filter (· ≠ taskHandle) },
        [.dropContext uuid device])
  | .dropContext uuid device =>
      some ({ service with
        pendingReconfiguration :=
          Cells.delete ReconfigureDeviceContext.deviceUuid uuid service.pendingReconfiguration },
        [.deleteDevice uuid device])
  | .awaitTask uuid device =>
      if outcome.timedOut then some (service, [.deleteDevice uuid device])
      else if (Cells.read ReconfigureDeviceContext.deviceUuid uuid service.pendingReconfiguration).isSome then
        some (service, [.awaitTask uuid device])
      else some (service, [.deleteDevice uuid device])
  | .deleteDevice uuid device =>
      (jsonDatabaseRemoveDeviceById service.db uuid outcome.stored).map fun removed =>
        (service.setDb removed.2, if removed.1 then [.announceRemoval device] else [.returned false])
  | .announceRemoval device => some (service.emit (removalEffects drivers device), [.returned true])
  | _ => none

end Removal

section Metadata
variable (lib : Library) (service : Service)

/-- An item that is not stored yet is created. A stored NULL value faults in `strcmp`. -/
def metadataToSave (deviceUuid : String) (endpointId : Option String) (name value : String)
    (found : Option DeviceMetadata) : Option (Option DeviceMetadata) :=
  match found with
  | some metadata => metadata.value.map fun old =>
      if old = value then none else some { metadata with value := some value }
  | none => some (some ⟨some name, some (metadataUriCreate (some deviceUuid) endpointId (some name)),
      endpointId, some deviceUuid, some value⟩)

/-- This is `deviceServiceSetMetadata` after its check. The scan leaves an empty endpoint id for a device. -/
def setParsedMetadata (uri : String) (value : Option String) : List Frame :=
  match parseMetadataUri uri with
  | none => [.returned false]
  | some parsed =>
      let endpointId := if lib.stringIsEmpty (some parsed.endpointId) then none else some parsed.endpointId
      [.setMetadata (some parsed.deviceId) endpointId (some parsed.name) value, .returned true]

def setMetadata (outcome : Outcome) : Frame → Moved
  | .setMetadataUri none _ => some (service, [.returned false])
  | .setMetadataUri (some uri) value =>
      (jsonDatabaseIsUriAccessible service.db uri).map fun accessible =>
        (service, if accessible then setParsedMetadata lib uri value else [.returned false])
  | .setMetadata (some deviceUuid) endpointId (some name) (some value) =>
      (jsonDatabaseGetMetadataByUri service.db
        (metadataUriCreate (some deviceUuid) endpointId (some name))).bind fun found =>
        (metadataToSave deviceUuid endpointId name value found).map fun item =>
          (service, item.toList.map .saveMetadata)
  | .setMetadata _ _ _ _ => some (service, [])
  | .saveMetadata metadata =>
      (jsonDatabaseSaveMetadata lib service.db metadata outcome.stored).map fun saved =>
        (service.setDb saved.2, [.announceMetadata metadata])
  | .announceMetadata metadata => some (service.emit [.metadataUpdated metadata], [])
  | _ => none

end Metadata

section Pairing
variable (lib : Library) (drivers : Drivers) (service : Service)

/-- This is `setUrisOnResources`. -/
def setUrisOnResources (baseUri : String) (resources : List DeviceResource) : List DeviceResource :=
  resources.map fun resource => { resource with uri := some (baseUri ++ "/r/" ++ text resource.id) }

/-- The metadata keeps the URIs that it was created with. -/
def setUris (uuid : String) (device : DeviceRecord) : DeviceRecord :=
  { device with
    uri := some ("/" ++ uuid)
    resources := setUrisOnResources ("/" ++ uuid) device.resources
    endpoints := device.endpoints.map fun endpoint =>
      let uri := endpointUriCreate (some uuid) endpoint.id
      { endpoint with
        uri := some uri
        resources := setUrisOnResources uri endpoint.resources } }

/-- The calls that `updateDataOfRecoveredDevice` makes in order. -/
def updateDataOfRecoveredDevice (device : DeviceRecord) : List Frame :=
  (device.resources.map fun resource =>
    .resource (.update ⟨device.uuid, none, resource.id, resource.value, none⟩)) ++
  (device.metadata.map fun metadata => .setMetadata device.uuid none metadata.id metadata.value) ++
  device.endpoints.flatMap fun endpoint =>
    (endpoint.resources.map fun resource =>
      .resource (.update ⟨device.uuid, resource.endpointId, resource.id, resource.value, none⟩)) ++
    (endpoint.metadata.map fun metadata =>
      .setMetadata device.uuid metadata.endpointId metadata.id metadata.value)

/-- The events for a new device are sent even when its addition failed. -/
def addedEffects (found : DeviceFoundDetails) (device : DeviceRecord) : List Effect :=
  if found.migrated then []
  else .deviceAdded device.uuid ::
    (device.endpoints.filter fun endpoint => endpoint.enabled).map fun endpoint =>
      .endpointAdded endpoint device.deviceClass

/-- This is `finalizeNewDevice` for a found device. -/
def finalizeFound (outcome : Outcome) (found : DeviceFoundDetails) (device : DeviceRecord) : Moved :=
  let device := setUris found.deviceUuid device
  if found.inRepairMode then
    some (service, updateDataOfRecoveredDevice device ++ [.paired found device true])
  else
    (jsonDatabaseAddDevice lib service.db device outcome.stored).map fun added =>
      ((service.setDb added.2).emit (addedEffects found device), [.paired found device added.1])

/-- The effects at the end of a pairing. -/
def pairedEffects (found : DeviceFoundDetails) (device : DeviceRecord) (successful : Bool) : List Effect :=
  if successful then
    if found.migrated then []
    else (if found.inRepairMode then [.deviceRecovered device.uuid] else []) ++
      [.discoveryCompleted device found.inRepairMode]
  else if found.migrated then []
  else (if drivers.deviceRemoved device.managingDeviceDriver then [.driverDeviceRemoved device] else []) ++
    [.discoveryFailed found]

def deviceServiceDeviceFound (outcome : Outcome) : Frame → Moved
  | .deviceFound found =>
      if outcome.admitted then
        some (service.emit (if found.migrated then [] else [.deviceDiscovered found]), [.pair found])
      else some (service.emit [.deviceRejected found], [.returned false])
  | .pair found =>
      let device := { outcome.built with uuid := some found.deviceUuid }
      if outcome.configured then some (service, [.checkMark found device])
      else some (service, [.paired found device false])
  | .checkMark found device =>
      if found.deviceUuid ∈ service.markedForRemoval then
        some ({ service with
          markedForRemoval := service.markedForRemoval.filter (· ≠ found.deviceUuid) },
          [.paired found device false])
      else some (service, [.finalizeFound found device])
  | .finalizeFound found device => finalizeFound lib service outcome found device
  | .paired found device successful =>
      some (service.emit (pairedEffects drivers found device successful), [.returned successful])
  | _ => none

end Pairing

section Reconfiguration
variable (lib : Library) (service : Service)

/-- The first resource with the id gets the value, and its old owner is left with NULL. -/
def yoinkResource (resourceId : String) (value : Option String) :
    List DeviceResource → Option String × List DeviceResource
  | [] => (value, [])
  | resource :: rest =>
      if resource.id = some resourceId then (none, { resource with value := value } :: rest)
      else
        let (left, others) := yoinkResource resourceId value rest
        (left, resource :: others)

/-- The old endpoint gives its metadata and its label to the new endpoint with its id. -/
def yoinkEndpoint (id : Option String) (metadata : List DeviceMetadata) (label : Option (Option String)) :
    List DeviceEndpoint → Bool × List DeviceEndpoint
  | [] => (false, [])
  | newEndpoint :: rest =>
      if newEndpoint.id = id then
        let yoinked := label.map fun value => yoinkResource "label" value newEndpoint.resources
        let (_, others) := yoinkEndpoint id [] (yoinked.map Prod.fst) rest
        (true, { newEndpoint with
          metadata := metadata
          resources := (yoinked.map Prod.snd).getD newEndpoint.resources } :: others)
      else
        let (matched, others) := yoinkEndpoint id metadata label rest
        (matched, newEndpoint :: others)

/-- This is `deviceServiceGetResourceByIdInternal`. -/
def deviceServiceGetResourceByIdInternal (deviceUuid endpointId : Option String) (resourceId : String) :
    Option (Option DeviceResource) :=
  match deviceUuid with
  | none => some none
  | some _ => jsonDatabaseGetResourceByUri service.db
      (resourceUriCreate lib deviceUuid endpointId (some resourceId))

/-- The old endpoints are visited in order before the old device is removed. -/
def nextYoink (uuid : String) (device newDevice : DeviceRecord) : List DeviceEndpoint → Frame
  | [] => .removeOld uuid device newDevice
  | endpoint :: rest => .yoinkEndpoint uuid device newDevice endpoint rest

/-- The resources that a reconfiguration needs are in the copy of the device. -/
def hasRequiredResources (device : DeviceRecord) : Bool :=
  ["manufacturer", "model", "hardwareVersion", "firmwareVersion"].all fun id =>
    device.resources.any fun resource => resource.id = some id

/-- The metadata item that marks a device for reconfiguration. -/
def reconfigurationRequired : String := "reconfRequired"

def reconfigureDeviceTask (outcome : Outcome) : Frame → Moved
  | .scheduled taskHandle uuid =>
      if taskHandle ∈ service.waitingTasks then
        some ({ service with waitingTasks := service.waitingTasks.filter (· ≠ taskHandle) },
          [.setMetadata (some uuid) none (some reconfigurationRequired) (some "true"), .fetchDevice uuid])
      else some (service, [])
  | .fetchDevice uuid =>
      match jsonDatabaseGetDeviceById service.db (some uuid) with
      | none => some (service, [.complete uuid false])
      | some device => some (service, [.configure uuid device])
  | .configure uuid device =>
      if hasRequiredResources device && outcome.configured then
        some (service, [.yoinkDevice uuid device { outcome.built with uuid := device.uuid }])
      else some (service, [.complete uuid false])
  | .yoinkDevice uuid device newDevice =>
      (deviceServiceGetResourceByIdInternal lib service device.uuid none "dateAdded").map fun found =>
        let newDevice := { newDevice with
          metadata := device.metadata
          resources := match found with
            | some dateAdded => (yoinkResource "dateAdded" dateAdded.value newDevice.resources).2
            | none => newDevice.resources }
        (service, [nextYoink uuid device newDevice device.endpoints])
  | .yoinkEndpoint uuid device newDevice endpoint rest =>
      (deviceServiceGetResourceByIdInternal lib service device.uuid endpoint.id "label").map fun label =>
        match yoinkEndpoint endpoint.id endpoint.metadata (label.map DeviceResource.value)
            newDevice.endpoints with
        | (true, endpoints) =>
            (service, [nextYoink uuid device { newDevice with endpoints := endpoints } rest])
        | (false, _) => (service, [.complete uuid false])
  | .removeOld uuid device newDevice =>
      device.uuid.bind fun deviceUuid =>
        (jsonDatabaseRemoveDeviceById service.db deviceUuid outcome.stored).map fun removed =>
          (service.setDb removed.2, [.addNew uuid newDevice])
  | .addNew uuid newDevice =>
      newDevice.uuid.bind fun newUuid =>
        (jsonDatabaseAddDevice lib service.db (setUris newUuid newDevice) outcome.stored).map fun added =>
          (service.setDb added.2, [.clearRequired uuid])
  | .clearRequired uuid =>
      (jsonDatabaseRemoveMetadataByUri lib service.db
        (metadataUriCreate (some uuid) none (some reconfigurationRequired)) outcome.stored).map fun removed =>
        (service.setDb removed.2, [.complete uuid true])
  | .complete uuid result =>
      some (service.emit [.reconfigurationCompleted result uuid], [.dropTask uuid result])
  | .dropTask uuid result =>
      some ({ service with
        pendingReconfiguration :=
          Cells.delete ReconfigureDeviceContext.deviceUuid uuid service.pendingReconfiguration },
        [.returned result])
  | _ => none

end Reconfiguration

section Threads
variable (lib : Library) (drivers : Drivers)

/-- A resource update moves on the part of the state that it knows. -/
def resourceMove (service : Service) (frame : Resources.Frame) (outcome : Outcome) : Moved :=
  (Resources.frameMove lib service.resources frame ⟨outcome.now, outcome.stored⟩).map fun moved =>
    ({ service with resources := moved.1 }, moved.2.map .resource)

/-- One move of the frame on top of a thread. -/
def frameMove (service : Service) (frame : Frame) (outcome : Outcome) : Moved :=
  match frame with
  | .removeEndpoint _ _ | .fetchEndpoint _ _ _ | .disableEndpoint _ _ | .endpointDisabled _ _ =>
      deviceServiceRemoveEndpointById drivers service outcome lib frame
  | .removeDevice _ | .markForRemoval _ | .findContext _ _ | .checkTask _ _ _ | .cancelTask _ _ _
  | .dropContext _ _ | .awaitTask _ _ | .deleteDevice _ _ | .announceRemoval _ =>
      deviceServiceRemoveDevice drivers service outcome frame
  | .setMetadataUri _ _ | .setMetadata _ _ _ _ | .saveMetadata _ | .announceMetadata _ =>
      setMetadata lib service outcome frame
  | .resource frame => resourceMove lib service frame outcome
  | .deviceFound _ | .pair _ | .checkMark _ _ | .finalizeFound _ _ | .paired _ _ _ =>
      deviceServiceDeviceFound lib drivers service outcome frame
  | .scheduled _ _ | .fetchDevice _ | .configure _ _ | .yoinkDevice _ _ _ | .yoinkEndpoint _ _ _ _ _
  | .removeOld _ _ _ | .addNew _ _ | .clearRequired _ | .complete _ _ | .dropTask _ _ =>
      reconfigureDeviceTask lib service outcome frame
  | .returned _ => none

/-- A thread is a stack of frames, and the callers drop the results of the inner calls. -/
def move (service : Service) (thread : List Frame) (outcome : Outcome) : Moved :=
  match thread with
  | [] => none
  | [.returned _] => none
  | .returned _ :: rest => some (service, rest)
  | frame :: rest => (frameMove lib drivers service frame outcome).map fun moved =>
      (moved.1, moved.2 ++ rest)

/-- A run interleaves the threads. -/
def run (start : Threads.Configuration Service (List Frame)) (schedule : List (Nat × Outcome)) :
    Option (Threads.Configuration Service (List Frame)) :=
  Threads.run (move lib drivers) start schedule

end Threads

end Barton.Lifecycle
