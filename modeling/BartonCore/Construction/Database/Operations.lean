/-
This file contains the operations of the JSON database.
A result `none` marks an access through a NULL or dangling pointer.
-/

import BartonCore.ToMathlib.Cells
import BartonCore.ToMathlib.Runs
import BartonCore.Construction.Database.UriIndex

namespace Barton.Database
open Registry

/-- The storage holds the last document saved under each key of the namespace. -/
abbrev Storage := Table String Json

/-- The map `devices` owns the cache entries. -/
structure JsonDatabase where
  devices : List CacheEntry
  resourcesByUri : UriIndex
  storage : Storage
  nextAddress : Address

/-- The database starts without devices on a given storage. -/
def JsonDatabase.empty (storage : Storage) : JsonDatabase := ⟨[], ∅, storage, 0⟩

/-- The serialization context names the storage namespace. -/
def storageContext : Option String := some "devicedb"

/-- This is `hashMapGet` on the map `devices`. -/
def JsonDatabase.deviceEntry (db : JsonDatabase) (uuid : String) : Option CacheEntry :=
  Cells.read CacheEntry.uuid (some uuid) db.devices

/-- This lookup follows a pointer to a cache entry. -/
def JsonDatabase.entryAt (db : JsonDatabase) (address : Address) : Option CacheEntry :=
  Cells.read CacheEntry.address address db.devices

/-- This update writes through a pointer to a cache entry. -/
def JsonDatabase.updateEntry (db : JsonDatabase) (address : Address)
    (update : CacheEntry → CacheEntry) : JsonDatabase :=
  { db with devices := Cells.write CacheEntry.address address update db.devices }

/-- This update writes to the device of a cache entry. -/
def JsonDatabase.updateDevice (db : JsonDatabase) (address : Address)
    (update : CachedDevice → CachedDevice) : JsonDatabase :=
  db.updateEntry address fun entry => { entry with device := update entry.device }

/-- This update writes through a pointer into a list of objects. -/
def updateAt {Content : Type} (address : Address) (update : Content → Content) :
    List (Allocated Content) → List (Allocated Content) :=
  Cells.write Allocated.address address fun item => ⟨item.address, update item.content⟩

/-- This update writes through a pointer to an endpoint. -/
def CachedDevice.updateEndpoint (device : CachedDevice) (address : Address)
    (update : Endpoint CachedResource CachedMetadata → Endpoint CachedResource CachedMetadata) :
    CachedDevice :=
  { device with endpoints := updateAt address update device.endpoints }

/-- This update writes through a pointer to a resource of the device or of an endpoint. -/
def CachedDevice.updateResource (device : CachedDevice) (address : Address)
    (update : DeviceResource → DeviceResource) : CachedDevice :=
  { device with
    resources := updateAt address update device.resources
    endpoints := device.endpoints.map fun endpoint => ⟨endpoint.address,
      { endpoint.content with resources := updateAt address update endpoint.content.resources }⟩ }

/-- This update writes through a pointer to metadata of the device or of an endpoint. -/
def CachedDevice.updateMetadata (device : CachedDevice) (address : Address)
    (update : DeviceMetadata → DeviceMetadata) : CachedDevice :=
  { device with
    metadata := updateAt address update device.metadata
    endpoints := device.endpoints.map fun endpoint => ⟨endpoint.address,
      { endpoint.content with metadata := updateAt address update endpoint.content.metadata }⟩ }

/-- This lookup follows a pointer to an endpoint. -/
def CachedDevice.endpointAt (device : CachedDevice) (address : Address) : Option CachedEndpoint :=
  Cells.read Allocated.address address device.endpoints

/-- These are the resources of the device and of its endpoints. -/
def CachedDevice.allResources (device : CachedDevice) : List CachedResource :=
  device.endpoints.flatMap (fun endpoint => endpoint.content.resources) ++ device.resources

/-- These are the metadata items of the device and of its endpoints. -/
def CachedDevice.allMetadata (device : CachedDevice) : List CachedMetadata :=
  device.endpoints.flatMap (fun endpoint => endpoint.content.metadata) ++ device.metadata

/-- This lookup follows a pointer to a resource. -/
def CachedDevice.resourceAt (device : CachedDevice) (address : Address) : Option CachedResource :=
  Cells.read Allocated.address address device.allResources

/-- This lookup follows a pointer to metadata. -/
def CachedDevice.metadataAt (device : CachedDevice) (address : Address) : Option CachedMetadata :=
  Cells.read Allocated.address address device.allMetadata

/-- The resource list of the device or of one endpoint. -/
def CachedDevice.resourcesOf (device : CachedDevice) : Option Address → Option (List CachedResource)
  | none => some device.resources
  | some address => (device.endpointAt address).map fun endpoint => endpoint.content.resources

/-- The metadata list of the device or of one endpoint. -/
def CachedDevice.metadataOf (device : CachedDevice) : Option Address → Option (List CachedMetadata)
  | none => some device.metadata
  | some address => (device.endpointAt address).map fun endpoint => endpoint.content.metadata

/-- This update changes the resource list of the device or of one endpoint. -/
def CachedDevice.changeResources (device : CachedDevice) (owner : Option Address)
    (change : List CachedResource → List CachedResource) : CachedDevice :=
  match owner with
  | none => { device with resources := change device.resources }
  | some address => device.updateEndpoint address fun endpoint =>
      { endpoint with resources := change endpoint.resources }

/-- This update changes the metadata list of the device or of one endpoint. -/
def CachedDevice.changeMetadata (device : CachedDevice) (owner : Option Address)
    (change : List CachedMetadata → List CachedMetadata) : CachedDevice :=
  match owner with
  | none => { device with metadata := change device.metadata }
  | some address => device.updateEndpoint address fun endpoint =>
      { endpoint with metadata := change endpoint.metadata }

section
variable (lib : Library)

/-- A failed `storageSave` leaves the stored document unchanged. -/
def saveDevice (db : JsonDatabase) (device : CachedDevice) (stored : Bool) : Bool × JsonDatabase :=
  if stored then
    (true, { db with
      storage := AList.insert (text device.uuid) (deviceToJSON lib storageContext device.record)
        db.storage })
  else (false, db)

/-- The common end of a mutation marks the entry dirty, saves it, and clears the mark on success. -/
def flushEntry (db : JsonDatabase) (address : Address) (stored : Bool) :
    Option (Bool × JsonDatabase) :=
  (db.entryAt address).map fun entry =>
    let saved := saveDevice lib db entry.device stored
    (saved.1, saved.2.updateEntry address fun entry => { entry with dirty := !saved.1 })

/-- `hashMapDelete` on `devices` destroys the entry, which deletes its URIs first. -/
def deleteDevice (db : JsonDatabase) (uuid : String) : Option JsonDatabase :=
  match db.deviceEntry uuid with
  | none => some db
  | some entry => (removeDeviceURIEntries db.resourcesByUri entry.device).map fun index =>
      { db with
        devices := Cells.delete CacheEntry.uuid (some uuid) db.devices
        resourcesByUri := index }

/-- The entry and the tree of a new device are allocated together. -/
def newEntry (db : JsonDatabase) (device : DeviceRecord) : CacheEntry :=
  ⟨db.nextAddress, deviceClone (db.nextAddress + 1) device, false⟩

/-- A duplicate uuid and an invalid tree both destroy the new entry by its URIs. -/
def loadDeviceIntoCache (db : JsonDatabase) (device : DeviceRecord) : Option (Bool × JsonDatabase) :=
  match device.uuid with
  | none => some (false, db)
  | some uuid =>
      let entry := newEntry db device
      let allocated := { db with nextAddress := db.nextAddress + 1 + DeviceRecord.size device }
      if (db.deviceEntry uuid).isSome then
        (removeDeviceURIEntries db.resourcesByUri entry.device).map fun index =>
          (false, { allocated with resourcesByUri := index })
      else
        match addDeviceURIEntries lib entry.address db.resourcesByUri entry.device with
        | none => none
        | some (true, index) =>
            some (true, { allocated with devices := db.devices ++ [entry], resourcesByUri := index })
        | some (false, index) =>
            (deleteDevice { allocated with devices := db.devices ++ [entry], resourcesByUri := index }
              uuid).map fun cleaned => (false, cleaned)

/-- The storage callback parses a document in strict or permissive mode. -/
def loadDevice (db : JsonDatabase) (document : Json) (permissive : Bool) :
    Option (Bool × JsonDatabase) :=
  match deviceFromJSON lib storageContext permissive document with
  | none => some (false, db)
  | some device => loadDeviceIntoCache lib db device

def jsonDatabaseAddDevice (db : JsonDatabase) (device : DeviceRecord) (stored : Bool) :
    Option (Bool × JsonDatabase) :=
  match device.uuid with
  | none => some (false, db)
  | some uuid =>
      match loadDeviceIntoCache lib db device with
      | none => none
      | some (false, loaded) => some (false, loaded)
      | some (true, loaded) =>
          match saveDevice lib loaded (newEntry db device).device stored with
          | (true, saved) => some (true, saved)
          | (false, saved) => (deleteDevice saved uuid).map fun cleaned => (false, cleaned)

/-- A failed save keeps the new endpoint and does not touch the dirty flag. -/
def jsonDatabaseAddEndpoint (db : JsonDatabase) (endpoint : DeviceEndpoint) (stored : Bool) :
    Option (Bool × JsonDatabase) :=
  match endpoint.deviceUuid, endpoint.id with
  | some deviceUuid, some _ =>
      let added := endpointClone db.nextAddress endpoint
      let allocated := { db with nextAddress := db.nextAddress + DeviceEndpoint.size endpoint }
      match db.deviceEntry deviceUuid with
      | none => some (false, allocated)
      | some entry =>
          match addEndpointURIEntries lib entry.address db.resourcesByUri added with
          | (false, index) => some (false, { allocated with resourcesByUri := index })
          | (true, index) =>
              let append (device : CachedDevice) : CachedDevice :=
                { device with endpoints := device.endpoints ++ [added] }
              some (saveDevice lib
                (JsonDatabase.updateDevice { allocated with resourcesByUri := index } entry.address append)
                (append entry.device) stored)
  | _, _ => some (false, db)

/-- The new resources replace the old ones, and a refused URI entry is ignored. -/
def replaceEndpointResources (entry : Address) (index : UriIndex) (destination : CachedEndpoint)
    (resources : List CachedResource) : UriIndex :=
  resources.foldl
    (fun index resource =>
      (addDeviceResourceURIEntry lib entry (some destination.address) index resource).2)
    (index.eraseAll (resourceUris destination.content.resources))

def jsonDatabaseSaveEndpoint (db : JsonDatabase) (endpoint : DeviceEndpoint) (stored : Bool) :
    Option (Bool × JsonDatabase) :=
  match endpoint.uri with
  | none => some (false, db)
  | some uri =>
      match db.resourcesByUri.lookup uri with
      | some (.endpoint entryAddress address) =>
          (db.entryAt entryAddress).bind fun entry =>
            (entry.device.endpointAt address).bind fun found =>
              if found.content.profileVersion = endpoint.profileVersion then
                flushEntry lib (db.updateDevice entryAddress fun device =>
                  device.updateEndpoint address fun content =>
                    { content with enabled := endpoint.enabled }) entryAddress stored
              else
                let resources := cloneList db.nextAddress endpoint.resources
                let replaced := { db with
                  nextAddress := db.nextAddress + endpoint.resources.length
                  resourcesByUri := replaceEndpointResources lib entryAddress db.resourcesByUri found
                    resources }
                flushEntry lib (JsonDatabase.updateDevice replaced entryAddress fun device =>
                  device.updateEndpoint address fun content =>
                    { content with
                      enabled := endpoint.enabled
                      profileVersion := endpoint.profileVersion
                      resources := resources }) entryAddress stored
      | _ => some (false, db)

/-- A write through the pointers of a resource locator marks the entry dirty. -/
def writeResource (db : JsonDatabase) (entryAddress address : Address)
    (update : DeviceResource → DeviceResource) : Option JsonDatabase :=
  (db.entryAt entryAddress).bind fun entry =>
    (entry.device.resourceAt address).map fun _ =>
      db.updateEntry entryAddress fun entry =>
        { entry with device := entry.device.updateResource address update, dirty := true }

def jsonDatabaseSaveResource (db : JsonDatabase) (resource : DeviceResource) (stored : Bool) :
    Option (Bool × JsonDatabase) :=
  match resource.uri with
  | none => some (false, db)
  | some uri =>
      match db.resourcesByUri.lookup uri with
      | some (.resource entryAddress _ address) =>
          (writeResource db entryAddress address fun content =>
            { content with
              value := resource.value
              cachingPolicy := resource.cachingPolicy
              mode := resource.mode
              dateOfLastSyncMillis := resource.dateOfLastSyncMillis }).bind fun written =>
            if resource.mode &&& resourceModeLazySaveNext = 0 then
              flushEntry lib written entryAddress stored
            else some (true, written)
      | _ => some (false, db)

/-- The sync date is always saved lazily. -/
def jsonDatabaseUpdateDateOfLastSyncMillis (db : JsonDatabase) (resource : DeviceResource)
    (now : UInt64) : Option (Bool × JsonDatabase) :=
  match resource.uri with
  | none => some (false, db)
  | some uri =>
      match db.resourcesByUri.lookup uri with
      | some (.resource entryAddress _ address) =>
          (writeResource db entryAddress address fun content =>
            { content with dateOfLastSyncMillis := now }).map fun written => (true, written)
      | _ => some (false, db)

/-- New metadata is appended before its URI is checked, and a refused item stays in the list. -/
def createMetadata (db : JsonDatabase) (entry : Address) (owner : Option Address)
    (metadata : DeviceMetadata) (stored : Bool) : Option (Bool × JsonDatabase) :=
  let added : CachedMetadata := ⟨db.nextAddress, metadata⟩
  let appended := JsonDatabase.updateDevice { db with nextAddress := db.nextAddress + 1 } entry
    fun device => device.changeMetadata owner fun list => list ++ [added]
  match addDeviceMetadataURIEntry lib entry owner db.resourcesByUri added with
  | (false, index) => some (false, { appended with resourcesByUri := index })
  | (true, index) => flushEntry lib { appended with resourcesByUri := index } entry stored

/-- The search compares ids with `strcmp`, which faults on a NULL id. -/
def findEndpoint (endpointId : String) : List CachedEndpoint → Option (Option CachedEndpoint)
  | [] => some none
  | endpoint :: rest => endpoint.content.id.bind fun id =>
      if id = endpointId then some (some endpoint) else findEndpoint endpointId rest

/-- An unknown endpoint adds nothing, and the unchanged device is saved again. -/
def jsonDatabaseSaveMetadata (db : JsonDatabase) (metadata : DeviceMetadata) (stored : Bool) :
    Option (Bool × JsonDatabase) :=
  match metadata.uri with
  | none => some (false, db)
  | some uri =>
      match db.resourcesByUri.lookup uri with
      | some (.metadata entryAddress _ address) =>
          (db.entryAt entryAddress).bind fun entry =>
            (entry.device.metadataAt address).bind fun _ =>
              metadata.value.bind fun value =>
                flushEntry lib (db.updateDevice entryAddress fun device =>
                  device.updateMetadata address fun content => { content with value := some value })
                  entryAddress stored
      | some _ => some (false, db)
      | none =>
          metadata.deviceUuid.bind fun deviceUuid =>
            match db.deviceEntry deviceUuid with
            | none => some (false, db)
            | some entry =>
                match metadata.endpointId with
                | none => createMetadata lib db entry.address none metadata stored
                | some endpointId =>
                    match findEndpoint endpointId entry.device.endpoints with
                    | none => none
                    | some none => flushEntry lib db entry.address stored
                    | some (some endpoint) =>
                        createMetadata lib db entry.address (some endpoint.address) metadata stored

/-- A failed addition deletes the new resource from its list by its pointer. -/
def addResourceTo (db : JsonDatabase) (entryAddress : Address) (owner : Option Address)
    (resource : DeviceResource) (stored : Bool) : Option (Bool × JsonDatabase) :=
  (db.entryAt entryAddress).bind fun entry =>
    (entry.device.resourcesOf owner).map fun _ =>
      let added : CachedResource := ⟨db.nextAddress, resource⟩
      let append (device : CachedDevice) := device.changeResources owner fun list => list ++ [added]
      let appended := JsonDatabase.updateDevice { db with nextAddress := db.nextAddress + 1 }
        entryAddress append
      let restore (db : JsonDatabase) := db.updateDevice entryAddress fun device =>
        device.changeResources owner (Cells.delete Allocated.address added.address)
      match addDeviceResourceURIEntry lib entryAddress owner db.resourcesByUri added with
      | (false, index) => (false, restore { appended with resourcesByUri := index })
      | (true, index) =>
          match saveDevice lib { appended with resourcesByUri := index } (append entry.device) stored with
          | (true, saved) => (true, saved)
          | (false, saved) => (false, restore { saved with
              resourcesByUri := saved.resourcesByUri.eraseAll (resourceUris [added]) })

def jsonDatabaseAddResource (db : JsonDatabase) (ownerUri : Option String)
    (resource : DeviceResource) (stored : Bool) : Option (Bool × JsonDatabase) :=
  match ownerUri, resource.id, resource.uri with
  | some ownerUri, some _, some _ =>
      match db.resourcesByUri.lookup ownerUri with
      | some (.device entryAddress) => addResourceTo lib db entryAddress none resource stored
      | some (.endpoint entryAddress address) =>
          addResourceTo lib db entryAddress (some address) resource stored
      | _ => some (false, db)
  | _, _, _ => some (false, db)

/-- The locator leaves the index before the metadata leaves its list. -/
def jsonDatabaseRemoveMetadataByUri (db : JsonDatabase) (uri : String) (stored : Bool) :
    Option (Bool × JsonDatabase) :=
  match db.resourcesByUri.lookup uri with
  | some (.metadata entryAddress owner address) =>
      (db.entryAt entryAddress).bind fun entry =>
        (entry.device.metadataOf owner).bind fun list =>
          let unlinked := { db with resourcesByUri := AList.erase uri db.resourcesByUri }
          if list.any fun item => item.address == address then
            flushEntry lib (JsonDatabase.updateDevice unlinked entryAddress fun device =>
              device.changeMetadata owner (Cells.delete Allocated.address address)) entryAddress stored
          else some (false, unlinked)
  | _ => some (false, db)

/-- A failed `storageDelete` keeps the device. -/
def jsonDatabaseRemoveDeviceById (db : JsonDatabase) (uuid : String) (stored : Bool) :
    Option (Bool × JsonDatabase) :=
  match db.deviceEntry uuid with
  | none => some (false, db)
  | some _ =>
      if stored then
        (deleteDevice { db with storage := AList.erase uuid db.storage } uuid).map fun cleaned =>
          (true, cleaned)
      else some (false, db)

/-- `jsonDatabaseCleanup` writes the dirty devices when it persists. -/
def jsonDatabaseCleanup (db : JsonDatabase) (persist : Bool) (stored : String → Bool) : Storage :=
  db.devices.foldl (fun storage entry =>
    if persist && entry.dirty && stored (text entry.device.uuid) then
      AList.insert (text entry.device.uuid) (deviceToJSON lib storageContext entry.device.record) storage
    else storage) db.storage

/-- `jsonDatabaseReload` drops every device before the storage is read again. -/
def dropDevices (db : JsonDatabase) : Option (Bool × JsonDatabase) :=
  (db.devices.mapM fun entry => deviceUris entry.device).map fun _ =>
    (true, JsonDatabase.empty db.storage)

/-- A call changes the database. Initialization and reload deliver stored documents through `load`. -/
inductive Call where
  | reload
  | load (document : Json) (permissive : Bool)
  | addDevice (device : DeviceRecord)
  | addEndpoint (endpoint : DeviceEndpoint)
  | addResource (ownerUri : Option String) (resource : DeviceResource)
  | saveEndpoint (endpoint : DeviceEndpoint)
  | saveResource (resource : DeviceResource)
  | updateDateOfLastSyncMillis (resource : DeviceResource) (now : UInt64)
  | saveMetadata (metadata : DeviceMetadata)
  | removeMetadataByUri (uri : String)
  | removeDeviceById (uuid : String)

/-- The outcome `stored` is the result of the one `storageSave` or `storageDelete` of the call. -/
def perform (db : JsonDatabase) (stored : Bool) : Call → Option (Bool × JsonDatabase)
  | .reload => dropDevices db
  | .load document permissive => loadDevice lib db document permissive
  | .addDevice device => jsonDatabaseAddDevice lib db device stored
  | .addEndpoint endpoint => jsonDatabaseAddEndpoint lib db endpoint stored
  | .addResource ownerUri resource => jsonDatabaseAddResource lib db ownerUri resource stored
  | .saveEndpoint endpoint => jsonDatabaseSaveEndpoint lib db endpoint stored
  | .saveResource resource => jsonDatabaseSaveResource lib db resource stored
  | .updateDateOfLastSyncMillis resource now =>
      jsonDatabaseUpdateDateOfLastSyncMillis db resource now
  | .saveMetadata metadata => jsonDatabaseSaveMetadata lib db metadata stored
  | .removeMetadataByUri uri => jsonDatabaseRemoveMetadataByUri lib db uri stored
  | .removeDeviceById uuid => jsonDatabaseRemoveDeviceById db uuid stored

/-- A step performs one call and drops its result. -/
def step (db : JsonDatabase) (input : Call × Bool) : Option JsonDatabase :=
  (perform lib db input.2 input.1).map Prod.snd

/-- The run performs the calls in order and stops at a fault. -/
def run (db : JsonDatabase) (inputs : List (Call × Bool)) : Option JsonDatabase :=
  Runs.run (step lib) db inputs

/-- These calls hand stored documents to the parser. -/
def loads (documents : List (Json × Bool)) : List (Call × Bool) :=
  documents.map fun item => (.load item.1 item.2, true)

/-- Initialization hands every document that the storage delivers to the parser. -/
def jsonDatabaseInitialize (storage : Storage) (documents : List (Json × Bool)) :
    Option JsonDatabase :=
  run lib (JsonDatabase.empty storage) (loads documents)

end

end Barton.Database
