/-
This file says which device a call of the database saves.
-/

import BartonCore.Construction.Database.Operations

namespace Barton.Database
open Registry

/-- The entry that owns the located object. -/
def Locator.entry : Locator → Address
  | .device entry => entry
  | .endpoint entry _ => entry
  | .resource entry _ _ => entry
  | .metadata entry _ _ => entry

/-- The entry behind a URI. -/
def JsonDatabase.locatedEntry (db : JsonDatabase) (uri : Option String) : Option Address :=
  (uri.bind fun uri => db.resourcesByUri.lookup uri).map Locator.entry

/-- The entry of the device with a uuid. -/
def JsonDatabase.ownerEntry (db : JsonDatabase) (uuid : Option String) : Option Address :=
  (uuid.bind db.deviceEntry).map CacheEntry.address

/-- A call writes the device of one entry to the storage or deletes one key. -/
inductive Write where
  | device (entry : Address)
  | removal (uuid : String)

/-- A lazily saved resource and a sync date wait for a later save. -/
def storageWrite (db : JsonDatabase) : Call → Option Write
  | .addDevice _ => some (.device db.nextAddress)
  | .addEndpoint endpoint => (db.ownerEntry endpoint.deviceUuid).map Write.device
  | .addResource ownerUri _ => (db.locatedEntry ownerUri).map Write.device
  | .saveEndpoint endpoint => (db.locatedEntry endpoint.uri).map Write.device
  | .saveResource resource =>
      if resource.mode &&& resourceModeLazySaveNext = 0 then
        (db.locatedEntry resource.uri).map Write.device
      else none
  | .saveMetadata metadata =>
      ((db.locatedEntry metadata.uri).or (db.ownerEntry metadata.deviceUuid)).map Write.device
  | .removeMetadataByUri uri => (db.locatedEntry (some uri)).map Write.device
  | .removeDeviceById uuid => some (.removal uuid)
  | .reload => none
  | .load _ _ => none
  | .updateDateOfLastSyncMillis _ _ => none

section
variable {Value : Type} (value : CachedDevice → Value)

/-- The written value belongs to the device as it is after the call. -/
def Write.apply (next : JsonDatabase) (table : Table String Value) : Write → Table String Value
  | .device address =>
      match next.entryAt address with
      | some entry => AList.insert (text entry.uuid) (value entry.device) table
      | none => table
  | .removal uuid => AList.erase uuid table

/-- A call that fails writes nothing. -/
def written (db next : JsonDatabase) (call : Call) (result : Bool) (table : Table String Value) :
    Table String Value :=
  match storageWrite db call with
  | some write => if result then write.apply value next table else table
  | none => table

/-- The shutdown writes the dirty devices when it persists. -/
def writtenAtCleanup (db : JsonDatabase) (persist : Bool) (stored : String → Bool)
    (table : Table String Value) : Table String Value :=
  db.devices.foldl (fun table entry =>
    if persist && entry.dirty && stored (text entry.device.uuid) then
      AList.insert (text entry.device.uuid) (value entry.device) table
    else table) table

end

end Barton.Database
