/-
This file contains the reads of the JSON database, which return copies.
A result `none` marks an access through a NULL or dangling pointer.
-/

import BartonCore.Construction.Database.Operations

namespace Barton.Database
open Registry

/-- This is `strstr(text, part) != NULL`. -/
def strstr (text part : String) : Bool := decide (part.toList <:+: text.toList)

/-- This marker is `JSON_DATABASE_ENDPOINT_MARKER`. -/
def endpointMarker : String := "/ep/"

/-- This marker is `JSON_DATABASE_METADATA_MARKER`. -/
def metadataMarker : String := "/m/"

/-- A literal of a `sscanf` format matches itself. -/
def scanLiteral (literal : String) (input : List Char) : Option (List Char) :=
  if literal.toList <+: input then some (input.drop literal.toList.length) else none

/-- The conversion `%[^/]` reads a run of at least one character. -/
def scanSegment (input : List Char) : Option (String × List Char) :=
  match input.takeWhile (· != '/') with
  | [] => none
  | segment => some (String.ofList segment, input.drop segment.length)

/-- This is `isspace` in the C locale. -/
def isspace (letter : Char) : Bool :=
  letter == ' ' || (9 ≤ letter.val && letter.val ≤ 13)

/-- The conversion `%s` skips white space and reads a run of at least one other character. -/
def scanWord (input : List Char) : Option String :=
  match (input.dropWhile isspace).takeWhile (fun letter => !isspace letter) with
  | [] => none
  | word => some (String.ofList word)

/-- The parts of a metadata URI. The endpoint id is empty for metadata of the device. -/
structure MetadataUri where
  deviceId : String
  endpointId : String
  name : String
  deriving DecidableEq

/-- The scan `"/%[^/]/m/%s"` -/
def scanDeviceMetadata (uri : String) : Option MetadataUri := do
  let rest ← scanLiteral "/" uri.toList
  let (deviceId, rest) ← scanSegment rest
  let rest ← scanLiteral "/m/" rest
  let name ← scanWord rest
  return ⟨deviceId, "", name⟩

/-- The scan `"/%[^/]/ep/%[^/]/m/%s"` -/
def scanEndpointMetadata (uri : String) : Option MetadataUri := do
  let rest ← scanLiteral "/" uri.toList
  let (deviceId, rest) ← scanSegment rest
  let rest ← scanLiteral "/ep/" rest
  let (endpointId, rest) ← scanSegment rest
  let rest ← scanLiteral "/m/" rest
  let name ← scanWord rest
  return ⟨deviceId, endpointId, name⟩

def parseMetadataUri (uri : String) : Option MetadataUri :=
  if strstr uri endpointMarker then scanEndpointMetadata uri else scanDeviceMetadata uri

section
variable (db : JsonDatabase)

def jsonDatabaseGetDeviceById (uuid : Option String) : Option DeviceRecord :=
  (uuid.bind db.deviceEntry).map fun entry => entry.device.record

/-- This lookup follows the pointers of an endpoint locator. -/
def JsonDatabase.endpointAt (entryAddress address : Address) : Option CachedEndpoint :=
  (db.entryAt entryAddress).bind fun entry => entry.device.endpointAt address

/-- This lookup follows the pointers of a resource locator. -/
def JsonDatabase.resourceAt (entryAddress address : Address) : Option CachedResource :=
  (db.entryAt entryAddress).bind fun entry => entry.device.resourceAt address

/-- The addresses in the resource locator of a URI. -/
def JsonDatabase.locateResource (uri : Option String) : Option (Address × Address) :=
  match uri.bind db.resourcesByUri.lookup with
  | some (.resource entryAddress _ address) => some (entryAddress, address)
  | _ => none

/-- This lookup follows the pointers of a metadata locator. -/
def JsonDatabase.metadataAt (entryAddress address : Address) : Option CachedMetadata :=
  (db.entryAt entryAddress).bind fun entry => entry.device.metadataAt address

/-- A NULL uuid faults when the endpoint id is present. -/
def jsonDatabaseGetEndpointById (deviceUuid endpointId : Option String) :
    Option (Option DeviceEndpoint) :=
  match endpointId with
  | none => some none
  | some endpointId => deviceUuid.map fun deviceUuid =>
      (db.deviceEntry deviceUuid).bind fun entry =>
        (entry.device.endpoints.find? fun endpoint => endpoint.content.id == some endpointId).map
          CachedEndpoint.record

/-- An object of the device itself has no endpoint. -/
def jsonDatabaseGetEndpointByUri (uri : String) : Option (Option DeviceEndpoint) :=
  match db.resourcesByUri.lookup uri with
  | some (.endpoint entryAddress address) =>
      (db.endpointAt entryAddress address).map fun endpoint => some (CachedEndpoint.record endpoint)
  | some (.resource entryAddress (some address) _) =>
      (db.endpointAt entryAddress address).map fun endpoint => some (CachedEndpoint.record endpoint)
  | some (.metadata entryAddress (some address) _) =>
      (db.endpointAt entryAddress address).map fun endpoint => some (CachedEndpoint.record endpoint)
  | _ => some none

def jsonDatabaseGetResourceByUri (uri : String) : Option (Option DeviceResource) :=
  match db.resourcesByUri.lookup uri with
  | some (.resource entryAddress _ address) =>
      (db.resourceAt entryAddress address).map fun resource => some resource.content
  | _ => some none

def jsonDatabaseGetMetadataByUri (uri : String) : Option (Option DeviceMetadata) :=
  match db.resourcesByUri.lookup uri with
  | some (.metadata entryAddress _ address) =>
      (db.metadataAt entryAddress address).map fun metadata => some metadata.content
  | _ => some none

/-- `isEndpointEnabled` on the endpoint of a locator is false for NULL. -/
def isEndpointEnabled (entryAddress : Address) : Option Address → Option Bool
  | none => some false
  | some address => (db.endpointAt entryAddress address).map fun endpoint => endpoint.content.enabled

/-- Metadata that does not exist is accessible on a device or on an enabled endpoint. -/
def isMetadataAccessible (uri : String) : Option Bool :=
  if strstr uri metadataMarker then
    match parseMetadataUri uri with
    | none => some false
    | some parsed =>
        if strstr uri endpointMarker then
          (jsonDatabaseGetEndpointById db (some parsed.deviceId) (some parsed.endpointId)).map
            fun found => found.any fun endpoint => endpoint.enabled
        else some true
  else some false

def jsonDatabaseIsUriAccessible (uri : String) : Option Bool :=
  match db.resourcesByUri.lookup uri with
  | some (.device _) => some true
  | some (.endpoint entryAddress address) => isEndpointEnabled db entryAddress (some address)
  | some (.resource entryAddress owner address) =>
      (db.resourceAt entryAddress address).bind fun resource =>
        if resource.content.endpointId.isSome then isEndpointEnabled db entryAddress owner
        else some true
  | some (.metadata entryAddress owner address) =>
      (db.metadataAt entryAddress address).bind fun metadata =>
        if metadata.content.endpointId.isSome then isEndpointEnabled db entryAddress owner
        else some true
  | none => isMetadataAccessible db uri

end

end Barton.Database
