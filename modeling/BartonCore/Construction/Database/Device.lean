/-
This file contains the device records, their JSON documents, and their URIs.
-/

import Mathlib.Data.Rat.Defs
import Mathlib.Tactic
import BartonCore.ToMathlib.Rounding

namespace Barton.Database

/-- A document is a `cJSON` tree. An object keeps its items in insertion order. -/
inductive Json where
  | null
  | bool (value : Bool)
  | number (value : ℚ)
  | string (value : String)
  | array (items : List Json)
  | object (items : List (String × Json))

/-- This is `cJSON_IsObject`. -/
def Json.isObject : Json → Bool
  | .object _ => true
  | _ => false

/-- This is `cJSON_GetObjectItem`, which ignores the case of the name. -/
def Json.getObjectItem : Json → String → Option Json
  | .object items, name => (items.find? fun item => item.1.toLower == name.toLower).map Prod.snd
  | _, _ => none

/-- `cJSON_AddStringToObject` adds no item for a NULL string. -/
def addString (name : String) : Option String → List (String × Json)
  | some value => [(name, .string value)]
  | none => []

/-- The repository takes these functions from libraries outside its tree. -/
structure Library where
  /-- `stringIsEmpty(text)` -/
  stringIsEmpty : Option String → Bool
  /-- `stringCompare(left, right, true) == 0` -/
  stringCompareIgnoreCase : String → String → Bool
  /-- `stringIsPrintable(text, false)` -/
  stringIsPrintable : Option String → Bool
  /-- `cJSON_Parse(text)`, which ignores text after the first value -/
  cJSONParse : String → Option Json
  /-- `cJSON_ParseWithOpts(text, NULL, 1)`, which refuses text after the value -/
  cJSONParseComplete : String → Option Json
  /-- `cJSON_Print(item)` -/
  cJSONPrint : Json → String
  getCJSONString : Json → String → Option String
  getCJSONBool : Json → String → Option Bool
  getCJSONInt : Json → String → Option Int32
  getCJSONUInt8 : Json → String → Option UInt8
  getCJSONUInt64 : Json → String → Option UInt64
  /-- `simpleProtectConfigData(namespace, data)` -/
  simpleProtectConfigData : String → Option String → Option String
  /-- `simpleUnprotectConfigData(namespace, data)` -/
  simpleUnprotectConfigData : String → String → Option String

/-- This is the bit `RESOURCE_MODE_READABLE`. -/
def resourceModeReadable : UInt8 := (1 : UInt8) <<< 0

/-- This is the bit `RESOURCE_MODE_LAZY_SAVE_NEXT`. -/
def resourceModeLazySaveNext : UInt8 := (1 : UInt8) <<< 6

/-- This is the bit `RESOURCE_MODE_SENSITIVE`. -/
def resourceModeSensitive : UInt8 := (1 : UInt8) <<< 7

/-- The field `cachingPolicy` holds any C `int`. The default is `CACHING_POLICY_NEVER`. -/
def cachingPolicyNever : Int32 := 0

/-- This is `icDeviceResource`. A missing string is a NULL pointer. -/
structure DeviceResource where
  id : Option String
  uri : Option String
  endpointId : Option String
  deviceUuid : Option String
  value : Option String
  type : Option String
  mode : UInt8
  cachingPolicy : Int32
  dateOfLastSyncMillis : UInt64
  deriving DecidableEq

/-- This is `icDeviceMetadata`. -/
structure DeviceMetadata where
  id : Option String
  uri : Option String
  endpointId : Option String
  deviceUuid : Option String
  value : Option String
  deriving DecidableEq

/-- This is `icDeviceEndpoint` over any representation of the owned objects. -/
structure Endpoint (Resource Metadata : Type) where
  id : Option String
  uri : Option String
  profile : Option String
  profileVersion : UInt8
  deviceUuid : Option String
  enabled : Bool
  resources : List Resource
  metadata : List Metadata
  deriving DecidableEq

/-- This is `icDevice` over any representation of the owned objects. -/
structure Device (Endpoint Resource Metadata : Type) where
  uuid : Option String
  deviceClass : Option String
  deviceClassVersion : UInt8
  uri : Option String
  managingDeviceDriver : Option String
  endpoints : List Endpoint
  resources : List Resource
  metadata : List Metadata
  deriving DecidableEq

/-- A caller owns plain records. -/
abbrev DeviceEndpoint := Endpoint DeviceResource DeviceMetadata

abbrev DeviceRecord := Device DeviceEndpoint DeviceResource DeviceMetadata

/-- An address identifies one object of the heap. -/
abbrev Address := Nat

/-- A cached object has an address of its own. -/
structure Allocated (Content : Type) where
  address : Address
  content : Content
  deriving DecidableEq

abbrev CachedResource := Allocated DeviceResource
abbrev CachedMetadata := Allocated DeviceMetadata
abbrev CachedEndpoint := Allocated (Endpoint CachedResource CachedMetadata)
abbrev CachedDevice := Device CachedEndpoint CachedResource CachedMetadata

/-- The plain record of a cached endpoint forgets the addresses. -/
def CachedEndpoint.record (endpoint : CachedEndpoint) : DeviceEndpoint :=
  { endpoint.content with
    resources := endpoint.content.resources.map Allocated.content
    metadata := endpoint.content.metadata.map Allocated.content }

/-- The plain record of a cached device forgets the addresses. -/
def CachedDevice.record (device : CachedDevice) : DeviceRecord :=
  { device with
    endpoints := device.endpoints.map CachedEndpoint.record
    resources := device.resources.map Allocated.content
    metadata := device.metadata.map Allocated.content }

/-- A list clone places its items at consecutive fresh addresses. -/
def cloneList {Content : Type} (next : Address) : List Content → List (Allocated Content)
  | [] => []
  | item :: rest => ⟨next, item⟩ :: cloneList (next + 1) rest

/-- The clone places the endpoint first, then its resources, then its metadata. -/
def endpointClone (next : Address) (endpoint : DeviceEndpoint) : CachedEndpoint :=
  ⟨next, { endpoint with
    resources := cloneList (next + 1) endpoint.resources
    metadata := cloneList (next + 1 + endpoint.resources.length) endpoint.metadata }⟩

/-- This count is the number of objects in one endpoint tree. -/
def DeviceEndpoint.size (endpoint : DeviceEndpoint) : Nat :=
  1 + endpoint.resources.length + endpoint.metadata.length

def cloneEndpoints (next : Address) : List DeviceEndpoint → List CachedEndpoint
  | [] => []
  | endpoint :: rest =>
      endpointClone next endpoint :: cloneEndpoints (next + DeviceEndpoint.size endpoint) rest

/-- This count is the number of objects in the endpoint trees. -/
def endpointsSize (endpoints : List DeviceEndpoint) : Nat :=
  (endpoints.map DeviceEndpoint.size).sum

/-- The clone allocates the trees below the device. -/
def deviceClone (next : Address) (device : DeviceRecord) : CachedDevice :=
  { device with
    endpoints := cloneEndpoints next device.endpoints
    resources := cloneList (next + endpointsSize device.endpoints) device.resources
    metadata := cloneList (next + endpointsSize device.endpoints + device.resources.length)
      device.metadata }

/-- This count is the number of objects below one device. -/
def DeviceRecord.size (device : DeviceRecord) : Nat :=
  endpointsSize device.endpoints + device.resources.length + device.metadata.length

section Uris
variable (lib : Library)

/-- `stringBuilder` prints a NULL argument as the C library does. -/
def text (value : Option String) : String := value.getD "(null)"

def endpointUriCreate (deviceUuid endpointId : Option String) : String :=
  "/" ++ text deviceUuid ++ "/ep/" ++ text endpointId

/-- An empty endpoint id and a NULL one both name a resource of the root device. -/
def resourceUriCreate (deviceUuid endpointId resourceId : Option String) : String :=
  if lib.stringIsEmpty endpointId then "/" ++ text deviceUuid ++ "/r/" ++ text resourceId
  else endpointUriCreate deviceUuid endpointId ++ "/r/" ++ text resourceId

/-- Only a NULL endpoint id names metadata of the root device. -/
def metadataUriCreate (deviceUuid endpointId name : Option String) : String :=
  match endpointId with
  | none => "/" ++ text deviceUuid ++ "/m/" ++ text name
  | some _ => endpointUriCreate deviceUuid endpointId ++ "/m/" ++ text name

/-- A URI is valid when it and its identifiers are present and it has the expected text. -/
def uriMatches (uri : Option String) (required : List (Option String)) (expected : String) : Bool :=
  !lib.stringIsEmpty uri && required.all (fun name => !lib.stringIsEmpty name) &&
    lib.stringCompareIgnoreCase (text uri) expected

def deviceUriIsValid (uri uuid : Option String) : Bool :=
  uriMatches lib uri [uuid] ("/" ++ text uuid)

def endpointUriIsValid (uri deviceUuid endpointId : Option String) : Bool :=
  uriMatches lib uri [deviceUuid, endpointId] (endpointUriCreate deviceUuid endpointId)

def resourceUriIsValid (uri deviceUuid endpointId resourceId : Option String) : Bool :=
  uriMatches lib uri [deviceUuid, resourceId] (resourceUriCreate lib deviceUuid endpointId resourceId)

def metadataUriIsValid (uri deviceUuid endpointId metadataId : Option String) : Bool :=
  uriMatches lib uri [deviceUuid, metadataId] (metadataUriCreate deviceUuid endpointId metadataId)

end Uris

end Barton.Database
