/-
This file contains the device cache and the maintenance of its URI index.
-/

import BartonCore.ToMathlib.Registry
import BartonCore.Construction.Database.Serialization

namespace Barton.Database
open Registry

/-- A locator holds the addresses of an object and of its owners. -/
inductive Locator where
  | device (entry : Address)
  | endpoint (entry endpoint : Address)
  | resource (entry : Address) (endpoint : Option Address) (resource : Address)
  | metadata (entry : Address) (endpoint : Option Address) (metadata : Address)
  deriving DecidableEq

/-- This is the map `resourcesByUri`. -/
abbrev UriIndex := Table String Locator

/-- This is `DeviceCacheEntry` with the address of its structure. -/
structure CacheEntry where
  address : Address
  device : CachedDevice
  dirty : Bool
  deriving DecidableEq

/-- The key of an entry in the map `devices` is the uuid of its device. -/
def CacheEntry.uuid (entry : CacheEntry) : Option String := entry.device.uuid

section Add
variable (lib : Library) (entry : Address) (endpoint : Option Address)

/-- One locator is put under a valid URI only. -/
def addURIEntry (index : UriIndex) (uri : Option String) (valid : Bool) (locator : Locator) :
    Bool × UriIndex :=
  match uri with
  | some uri => if valid then index.put uri locator else (false, index)
  | none => (false, index)

def addDeviceMetadataURIEntry (index : UriIndex) (metadata : CachedMetadata) : Bool × UriIndex :=
  addURIEntry index metadata.content.uri
    (metadataUriIsValid lib metadata.content.uri metadata.content.deviceUuid
      metadata.content.endpointId metadata.content.id)
    (.metadata entry endpoint metadata.address)

def addDeviceResourceURIEntry (index : UriIndex) (resource : CachedResource) : Bool × UriIndex :=
  addURIEntry index resource.content.uri
    (resourceUriIsValid lib resource.content.uri resource.content.deviceUuid
      resource.content.endpointId resource.content.id)
    (.resource entry endpoint resource.address)

/-- The loop stops at the first item that is refused. -/
def addEach {Item : Type} (add : UriIndex → Item → Bool × UriIndex) (index : UriIndex) :
    List Item → Bool × UriIndex
  | [] => (true, index)
  | item :: rest =>
      match add index item with
      | (true, next) => addEach add next rest
      | (false, next) => (false, next)

/-- A failure leaves the entries that were put before it. -/
def addEndpointURIEntries (index : UriIndex) (endpoint : CachedEndpoint) : Bool × UriIndex :=
  match addURIEntry index endpoint.content.uri
      (endpointUriIsValid lib endpoint.content.uri endpoint.content.deviceUuid endpoint.content.id)
      (.endpoint entry endpoint.address) with
  | (false, next) => (false, next)
  | (true, next) =>
      match addEach (addDeviceResourceURIEntry lib entry (some endpoint.address)) next
          endpoint.content.resources with
      | (false, next) => (false, next)
      | (true, next) =>
          addEach (addDeviceMetadataURIEntry lib entry (some endpoint.address)) next
            endpoint.content.metadata

/-- This is the part of `addDeviceURIEntries` before its cleanup. -/
def putDeviceURIEntries (index : UriIndex) (device : CachedDevice) : Bool × UriIndex :=
  match addURIEntry index device.uri (deviceUriIsValid lib device.uri device.uuid) (.device entry) with
  | (false, next) => (false, next)
  | (true, next) =>
      match addEach (addEndpointURIEntries lib entry) next device.endpoints with
      | (false, next) => (false, next)
      | (true, next) =>
          match addEach (addDeviceResourceURIEntry lib entry none) next device.resources with
          | (false, next) => (false, next)
          | (true, next) => addEach (addDeviceMetadataURIEntry lib entry none) next device.metadata

end Add

/-- `removeDeviceResourceURIEntry` skips a resource without a URI. -/
def resourceUris (resources : List CachedResource) : List String :=
  resources.filterMap fun resource => resource.content.uri

/-- `removeMetadataURIEntry` measures the URI without a NULL check, so a NULL URI faults. -/
def metadataUris (metadata : List CachedMetadata) : Option (List String) :=
  metadata.mapM fun item => item.content.uri

/-- `removeEndpointURIEntries` skips the whole endpoint when it has no URI. -/
def endpointUris (endpoint : CachedEndpoint) : Option (List String) :=
  match endpoint.content.uri with
  | none => some []
  | some uri => (metadataUris endpoint.content.metadata).map fun metadata =>
      uri :: resourceUris endpoint.content.resources ++ metadata

/-- These are the URIs that `removeDeviceURIEntries` deletes, in its order. -/
def deviceUris (device : CachedDevice) : Option (List String) :=
  match device.uri with
  | none => some []
  | some uri => do
      let endpoints ← device.endpoints.mapM endpointUris
      let metadata ← metadataUris device.metadata
      return uri :: endpoints.flatten ++ resourceUris device.resources ++ metadata

/-- The index entry of every object in the tree is deleted by its URI. -/
def removeDeviceURIEntries (index : UriIndex) (device : CachedDevice) : Option UriIndex :=
  (deviceUris device).map index.eraseAll

/-- The cleanup after a failure deletes by URI, so it does not look at the owner of an entry. -/
def addDeviceURIEntries (lib : Library) (entry : Address) (index : UriIndex)
    (device : CachedDevice) : Option (Bool × UriIndex) :=
  match putDeviceURIEntries lib entry index device with
  | (true, next) => some (true, next)
  | (false, next) => (removeDeviceURIEntries next device).map fun cleaned => (false, cleaned)

end Barton.Database
