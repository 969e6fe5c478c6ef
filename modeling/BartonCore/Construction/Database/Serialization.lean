/-
This file contains the encoder and the decoder of the stored device documents.
-/

import BartonCore.Construction.Database.Device

namespace Barton.Database
open Rounding (toDouble)

section
variable (lib : Library)

/-- The document number of an unsigned field is a C `double`. -/
def addNumber (name : String) (value : Nat) : String × Json := (name, .number (toDouble value))

/-- A sensitive value is encrypted under the namespace of the context.
The first component is NULL when the encryption failed or was not attempted. -/
def protectedValue (context : Option String) (resource : DeviceResource) : Option String × Bool :=
  if resource.mode &&& resourceModeSensitive ≠ 0 then
    match context with
    | some name => (lib.simpleProtectConfigData name resource.value, true)
    | none => (none, false)
  else (none, false)

def resourceToJSON (context : Option String) (resource : DeviceResource) : Json :=
  let resourceValue := (protectedValue lib context resource).1.or resource.value
  .object (addString "id" resource.id ++ addString "uri" resource.uri ++
    [addNumber "mode" resource.mode.toNat, ("cachingPolicy", .number resource.cachingPolicy.toInt),
      addNumber "dateOfLastSyncMillis" resource.dateOfLastSyncMillis.toNat] ++
    addString (if (protectedValue lib context resource).2 then "value_enc" else "value")
      resourceValue ++
    addString "type" resource.type)

/-- A list of items becomes an object with the item ids as names.
`cJSON_AddItemToObject` refuses an item with a NULL id. -/
def itemsToJSON {Item : Type} (id : Item → Option String) (toJSON : Item → Json)
    (items : List Item) : Json :=
  .object (items.filterMap fun item => (id item).map fun name => (name, toJSON item))

def resourcesToJSON (context : Option String) (resources : List DeviceResource) : Json :=
  itemsToJSON DeviceResource.id (resourceToJSON lib context) resources

/-- A value that parses to an object is stored as that object. -/
def metadataValueToJSON (value : Option String) : List (String × Json) :=
  match value.bind lib.cJSONParse with
  | some (.object items) => [("value", .object items)]
  | _ => addString "value" value

def metadataToJSON (metadata : DeviceMetadata) : Json :=
  .object (addString "id" metadata.id ++ addString "uri" metadata.uri ++
    metadataValueToJSON lib metadata.value)

def metadatasToJSON (metadatas : List DeviceMetadata) : Json :=
  itemsToJSON DeviceMetadata.id (metadataToJSON lib) metadatas

def endpointToJSON (context : Option String) (endpoint : DeviceEndpoint) : Json :=
  .object (addString "uri" endpoint.uri ++ addString "id" endpoint.id ++
    addString "profile" endpoint.profile ++
    [("enabled", .bool endpoint.enabled), addNumber "profileVersion" endpoint.profileVersion.toNat,
      ("resources", resourcesToJSON lib context endpoint.resources),
      ("metadatas", metadatasToJSON lib endpoint.metadata)])

def endpointsToJSON (context : Option String) (endpoints : List DeviceEndpoint) : Json :=
  itemsToJSON Endpoint.id (endpointToJSON lib context) endpoints

def deviceToJSON (context : Option String) (device : DeviceRecord) : Json :=
  .object (addString "deviceDriver" device.managingDeviceDriver ++
    addString "deviceClass" device.deviceClass ++
    [addNumber "deviceClassVersion" device.deviceClassVersion.toNat] ++
    addString "uri" device.uri ++ addString "uuid" device.uuid ++
    [("deviceEndpoints", endpointsToJSON lib context device.endpoints),
      ("deviceResources", resourcesToJSON lib context device.resources),
      ("metadatas", metadatasToJSON lib device.metadata)])

/-- `cJSON_GetArrayItem` enumerates the children of an array or an object. -/
def Json.children : Json → List Json
  | .array items => items
  | .object items => items.map Prod.snd
  | _ => []

/-- The list reader drops a bad item in permissive mode and fails otherwise. -/
def readItems {Item : Type} (read : Json → Option Item) (permissive : Bool) :
    List Json → Option (List Item)
  | [] => some []
  | json :: rest =>
      match read json with
      | some item => (readItems read permissive rest).map (item :: ·)
      | none => if permissive then readItems read permissive rest else none

/-- The decrypted value is absent when the stored value was not encrypted. -/
def unprotectedValue (context : Option String) (mode : UInt8) (json : Json) : Option String :=
  if mode &&& resourceModeSensitive ≠ 0 then
    match lib.getCJSONString json "value_enc", context with
    | some encrypted, some name => lib.simpleUnprotectConfigData name encrypted
    | _, _ => none
  else none

def resourceFromJSON (deviceUuid endpointId : Option String) (context : Option String)
    (json : Json) : Option DeviceResource :=
  let uri := lib.getCJSONString json "uri"
  let id := lib.getCJSONString json "id"
  let mode := (lib.getCJSONUInt8 json "mode").getD resourceModeReadable
  let type := lib.getCJSONString json "type"
  if deviceUuid = none then none
  else if lib.stringIsEmpty deviceUuid then none
  else if !lib.stringIsPrintable id then none
  else if !resourceUriIsValid lib uri deviceUuid endpointId id then none
  else if lib.stringIsEmpty type then none
  else some {
    id, uri, endpointId, deviceUuid, type, mode
    value := (unprotectedValue lib context mode json).or (lib.getCJSONString json "value")
    cachingPolicy := (lib.getCJSONInt json "cachingPolicy").getD cachingPolicyNever
    dateOfLastSyncMillis := (lib.getCJSONUInt64 json "dateOfLastSyncMillis").getD 0 }

def resourcesFromJSON (deviceUuid endpointId : Option String) (context : Option String)
    (permissive : Bool) (json : Option Json) : Option (List DeviceResource) :=
  json.bind fun document =>
    readItems (resourceFromJSON lib deviceUuid endpointId context) permissive document.children

/-- An object value is printed back to text for its users. -/
def metadataValueFromJSON (json : Json) : Option String :=
  match json.getObjectItem "value" with
  | some (.object items) => some (lib.cJSONPrint (.object items))
  | _ => lib.getCJSONString json "value"

def metadataFromJSON (deviceUuid endpointId : Option String) (json : Json) : Option DeviceMetadata :=
  let uri := lib.getCJSONString json "uri"
  let id := lib.getCJSONString json "id"
  let value := metadataValueFromJSON lib json
  if deviceUuid = none then none
  else if !lib.stringIsPrintable id then none
  else if !metadataUriIsValid lib uri deviceUuid endpointId id then none
  else if lib.stringIsEmpty value then none
  else if lib.stringIsEmpty deviceUuid then none
  else some { id, uri, endpointId, deviceUuid, value }

def metadatasFromJSON (deviceUuid endpointId : Option String) (permissive : Bool)
    (json : Option Json) : Option (List DeviceMetadata) :=
  json.bind fun document =>
    readItems (metadataFromJSON lib deviceUuid endpointId) permissive document.children

/-- The endpoint reader is strict about its resources and metadata in every mode. -/
def endpointFromJSON (deviceUuid : Option String) (context : Option String) (json : Json) :
    Option DeviceEndpoint :=
  let uri := lib.getCJSONString json "uri"
  let id := lib.getCJSONString json "id"
  let profile := lib.getCJSONString json "profile"
  if deviceUuid = none then none
  else if lib.stringIsEmpty deviceUuid then none
  else if !lib.stringIsPrintable id then none
  else if !endpointUriIsValid lib uri deviceUuid id then none
  else match lib.getCJSONBool json "enabled" with
    | none => none
    | some enabled =>
        if lib.stringIsEmpty profile then none
        else match resourcesFromJSON lib deviceUuid id context false (json.getObjectItem "resources") with
          | none => none
          | some resources =>
              match metadatasFromJSON lib deviceUuid id false (json.getObjectItem "metadatas") with
              | none => none
              | some metadata => some {
                  id, uri, profile, deviceUuid, enabled, resources, metadata
                  profileVersion := (lib.getCJSONUInt8 json "profileVersion").getD 1 }

def endpointsFromJSON (deviceUuid : Option String) (context : Option String) (permissive : Bool)
    (json : Option Json) : Option (List DeviceEndpoint) :=
  json.bind fun document =>
    readItems (endpointFromJSON lib deviceUuid context) permissive document.children

/-- A device needs an endpoint and a resource. Its metadata list may be empty. -/
def deviceFromJSON (context : Option String) (permissive : Bool) (json : Json) : Option DeviceRecord :=
  let uri := lib.getCJSONString json "uri"
  let uuid := lib.getCJSONString json "uuid"
  let managingDeviceDriver := lib.getCJSONString json "deviceDriver"
  let deviceClass := lib.getCJSONString json "deviceClass"
  if !lib.stringIsPrintable uuid then none
  else if !deviceUriIsValid lib uri uuid then none
  else if lib.stringIsEmpty managingDeviceDriver then none
  else if lib.stringIsEmpty deviceClass then none
  else match endpointsFromJSON lib uuid context permissive (json.getObjectItem "deviceEndpoints") with
    | none | some [] => none
    | some endpoints =>
        match resourcesFromJSON lib uuid none context permissive (json.getObjectItem "deviceResources") with
        | none | some [] => none
        | some resources =>
            match metadatasFromJSON lib uuid none permissive (json.getObjectItem "metadatas") with
            | none => none
            | some metadata => some {
                uri, uuid, managingDeviceDriver, deviceClass, endpoints, resources, metadata
                deviceClassVersion := (lib.getCJSONUInt8 json "deviceClassVersion").getD 1 }

end

end Barton.Database
