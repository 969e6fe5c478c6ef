/-
This file contains the encoder and the decoder of the details of a discovered Zigbee device.
-/

import BartonCore.Construction.Database.Serialization
import BartonCore.ToMathlib.Strtol

namespace Barton.DeviceDetails
open Database Strtol
open Rounding (toDouble)

/-- The JSON functions outside the tree behave as documented on an item of their type. -/
structure JsonHelpers where
  getCJSONString : Json → String → Option String
  getCJSONBool : Json → String → Option Bool
  getCJSONInt : Json → String → Option Int32
  getCJSONDouble : Json → String → Option ℚ
  /-- The field `valueint` of an item. -/
  valueint : Json → Int32
  string_item : ∀ json name value, json.getObjectItem name = some (.string value) →
    getCJSONString json name = some value
  bool_item : ∀ json name value, json.getObjectItem name = some (.bool value) → getCJSONBool json name = some value
  int_item : ∀ json name (value : Int32), json.getObjectItem name = some (.number value.toInt) →
    getCJSONInt json name = some value
  double_item : ∀ json name value, json.getObjectItem name = some (.number value) →
    getCJSONDouble json name = some value
  valueint_number : ∀ value : Int32, valueint (.number value.toInt) = value

section Details

inductive zhalDeviceType where
  | deviceTypeUnknown
  | deviceTypeEndDevice
  | deviceTypeRouter
  deriving DecidableEq

inductive zhalPowerSource where
  | powerSourceUnknown
  | powerSourceMains
  | powerSourceBattery
  deriving DecidableEq

structure IcDiscoveredAttributeValue where
  attributeType : UInt8
  dataLen : UInt16
  data : List UInt8
  deriving DecidableEq

/-- The values are optional. -/
structure IcDiscoveredClusterDetails where
  clusterId : UInt16
  isServer : Bool
  attributeIds : List UInt16
  attributeValues : Option (List IcDiscoveredAttributeValue)
  numAttributeIds : UInt16
  deriving DecidableEq

structure IcDiscoveredEndpointDetails where
  endpointId : UInt8
  appProfileId : UInt16
  appDeviceId : UInt16
  appDeviceVersion : UInt8
  serverClusterDetails : List IcDiscoveredClusterDetails
  numServerClusterDetails : UInt8
  clientClusterDetails : List IcDiscoveredClusterDetails
  numClientClusterDetails : UInt8
  deriving DecidableEq

structure IcDiscoveredDeviceDetails where
  eui64 : UInt64
  manufacturer : Option String
  model : Option String
  hardwareVersion : UInt64
  firmwareVersion : UInt64
  appVersion : UInt64
  numEndpoints : UInt8
  endpointDetails : List IcDiscoveredEndpointDetails
  deviceType : zhalDeviceType
  powerSource : zhalPowerSource
  deriving DecidableEq

end Details

section Ids

/-- These are the lowest hexadecimal digits of a number in lower case. -/
def hexDigits : (width : Nat) → Nat → Text
  | 0, _ => []
  | width + 1, number => hexDigits width (number / 16) ++ [Nat.digitChar (number % 16)]

def zigbeeSubsystemEui64ToId (eui64 : UInt64) : String := String.ofList (hexDigits 16 eui64.toNat)

/-- The mark `0x` may stand before hexadecimal digits. -/
def withoutMark (text : Text) : Text :=
  if text[0]? = some '0' ∧ (text[1]? = some 'x' ∨ text[1]? = some 'X') ∧ text[2]?.any (isDigit 16) then text.drop 2
  else text

/-- A field of at most 16 characters is read as a hexadecimal number. The result is 0 without a digit. -/
def zigbeeSubsystemIdToEui64 (uuid : String) : UInt64 :=
  let (negative, unsigned) := sign ((uuid.toList.dropWhile isSpace).take 16)
  let value := UInt64.ofNat (readDigits 16 0 (withoutMark unsigned))
  if negative then -value else value

end Ids

section Encode

def addNumber (name : String) (value : Nat) : String × Json := (name, .number (toDouble value))

def icDiscoveredClusterDetailsToJson (details : IcDiscoveredClusterDetails) : Json :=
  .object [addNumber "id" details.clusterId.toNat, ("isServer", .bool details.isServer),
    ("attributeIds", .array ((details.attributeIds.take details.numAttributeIds.toNat).map fun attributeId =>
      .number (toDouble attributeId.toNat)))]

def icDiscoveredEndpointDetailsToJson (details : IcDiscoveredEndpointDetails) : Json :=
  .object [addNumber "id" details.endpointId.toNat, addNumber "profileId" details.appProfileId.toNat,
    addNumber "deviceId" details.appDeviceId.toNat, addNumber "deviceVer" details.appDeviceVersion.toNat,
    ("serverClusterInfos", .array ((details.serverClusterDetails.take details.numServerClusterDetails.toNat).map
      icDiscoveredClusterDetailsToJson)),
    ("clientClusterInfos", .array ((details.clientClusterDetails.take details.numClientClusterDetails.toNat).map
      icDiscoveredClusterDetailsToJson))]

def zhalDeviceType.label : zhalDeviceType → String
  | .deviceTypeEndDevice => "end"
  | .deviceTypeRouter => "router"
  | .deviceTypeUnknown => "unknown"

def zhalPowerSource.label : zhalPowerSource → String
  | .powerSourceMains => "mains"
  | .powerSourceBattery => "batt"
  | .powerSourceUnknown => "unknown"

def icDiscoveredDeviceDetailsToJson (details : IcDiscoveredDeviceDetails) : Json :=
  .object ([("eui64", .string (zigbeeSubsystemEui64ToId details.eui64))] ++
    addString "manufacturer" details.manufacturer ++ addString "model" details.model ++
    [addNumber "hwVer" details.hardwareVersion.toNat, addNumber "fwVer" details.firmwareVersion.toNat,
      addNumber "appVer" details.appVersion.toNat, ("type", .string details.deviceType.label),
      ("power", .string details.powerSource.label),
      ("endpoints", .array ((details.endpointDetails.take details.numEndpoints.toNat).map
        icDiscoveredEndpointDetailsToJson))])

end Encode

section Decode

/-- A decoder is done, or it fails, or it writes outside an array. -/
inductive Reading (Value : Type) where
  | done (value : Value)
  | failed
  | outside
  deriving DecidableEq

def Reading.bind {First Second : Type} (reading : Reading First) (next : First → Reading Second) : Reading Second :=
  match reading with
  | .done value => next value
  | .failed => .failed
  | .outside => .outside

/-- A missing item is a failure. -/
def Reading.ofItem {Value : Type} : Option Value → Reading Value
  | some value => .done value
  | none => .failed

/-- A field of an entry is written, and the entry must be inside its array. -/
def assign (inside : Bool) : Reading Unit := if inside then .done () else .outside

/-- The entries of an array of this size are filled in order. -/
def fill {Entry : Type} (fromJson : Bool → Json → Reading Entry) (size index : Nat) : List Json → Reading (List Entry)
  | [] => .done []
  | json :: rest =>
      (fromJson (index < size) json).bind fun entry =>
        (fill fromJson size (index + 1) rest).bind fun entries => .done (entry :: entries)

/-- The count of a list has 8 bits, and the array is allocated for the count. -/
def arraySize (json : Json) : UInt8 := UInt8.ofNat json.children.length

def narrow8 (value : Int32) : UInt8 := value.toUInt32.toUInt8

def narrow16 (value : Int32) : UInt16 := value.toUInt32.toUInt16

/-- The fraction of a `double` is dropped. -/
def castUint64 (value : ℚ) : UInt64 := UInt64.ofNat ⌊value⌋.toNat

variable (json : JsonHelpers)

def attributeIdFromJson (inside : Bool) (attributeId : Json) : Reading UInt16 :=
  (assign inside).bind fun _ => .done (narrow16 (json.valueint attributeId))

def icDiscoveredClusterDetailsFromJson (inside : Bool) (detailsJson : Json) : Reading IcDiscoveredClusterDetails :=
  (Reading.ofItem (json.getCJSONInt detailsJson "id")).bind fun clusterId =>
  (assign inside).bind fun _ =>
  (Reading.ofItem (json.getCJSONBool detailsJson "isServer")).bind fun isServer =>
  (Reading.ofItem (detailsJson.getObjectItem "attributeIds")).bind fun attributeIds =>
  (fill (attributeIdFromJson json) (arraySize attributeIds).toNat 0 attributeIds.children).bind fun ids =>
    .done ⟨narrow16 clusterId, isServer, ids, none, (arraySize attributeIds).toUInt16⟩

def icDiscoveredEndpointDetailsFromJson (inside : Bool) (detailsJson : Json) : Reading IcDiscoveredEndpointDetails :=
  (Reading.ofItem (json.getCJSONInt detailsJson "id")).bind fun endpointId =>
  (assign inside).bind fun _ =>
  (Reading.ofItem (json.getCJSONInt detailsJson "profileId")).bind fun profileId =>
  (Reading.ofItem (json.getCJSONInt detailsJson "deviceId")).bind fun deviceId =>
  (Reading.ofItem (json.getCJSONInt detailsJson "deviceVer")).bind fun deviceVer =>
  (Reading.ofItem (detailsJson.getObjectItem "serverClusterInfos")).bind fun serverClusterInfos =>
  (fill (icDiscoveredClusterDetailsFromJson json) (arraySize serverClusterInfos).toNat 0
    serverClusterInfos.children).bind fun serverClusterDetails =>
  (Reading.ofItem (detailsJson.getObjectItem "clientClusterInfos")).bind fun clientClusterInfos =>
  (fill (icDiscoveredClusterDetailsFromJson json) (arraySize clientClusterInfos).toNat 0
    clientClusterInfos.children).bind fun clientClusterDetails =>
    .done ⟨narrow8 endpointId, narrow16 profileId, narrow16 deviceId, narrow8 deviceVer, serverClusterDetails,
      arraySize serverClusterInfos, clientClusterDetails, arraySize clientClusterInfos⟩

def deviceTypeFromJson (deviceType : String) : zhalDeviceType :=
  if deviceType = "end" then .deviceTypeEndDevice
  else if deviceType = "router" then .deviceTypeRouter
  else .deviceTypeUnknown

def powerSourceFromJson (powerSource : String) : zhalPowerSource :=
  if powerSource = "mains" then .powerSourceMains
  else if powerSource = "batt" then .powerSourceBattery
  else .powerSourceUnknown

/-- The result of a failure is NULL. -/
def icDiscoveredDeviceDetailsFromJson (detailsJson : Option Json) : Reading IcDiscoveredDeviceDetails :=
  (Reading.ofItem detailsJson).bind fun detailsJson =>
  (Reading.ofItem (json.getCJSONString detailsJson "eui64")).bind fun eui64Str =>
  (Reading.ofItem (json.getCJSONString detailsJson "manufacturer")).bind fun manufacturer =>
  (Reading.ofItem (json.getCJSONString detailsJson "model")).bind fun model =>
  (Reading.ofItem (json.getCJSONDouble detailsJson "hwVer")).bind fun hardwareVersion =>
  (Reading.ofItem (json.getCJSONDouble detailsJson "fwVer")).bind fun firmwareVersion =>
  (Reading.ofItem (json.getCJSONDouble detailsJson "appVer")).bind fun appVersion =>
  (Reading.ofItem (detailsJson.getObjectItem "endpoints")).bind fun endpoints =>
  (fill (icDiscoveredEndpointDetailsFromJson json) (arraySize endpoints).toNat 0
    endpoints.children).bind fun endpointDetails =>
  (Reading.ofItem (json.getCJSONString detailsJson "type")).bind fun deviceType =>
  (Reading.ofItem (json.getCJSONString detailsJson "power")).bind fun powerSource =>
    .done ⟨zigbeeSubsystemIdToEui64 eui64Str, some manufacturer, some model, castUint64 hardwareVersion,
      castUint64 firmwareVersion, castUint64 appVersion, arraySize endpoints, endpointDetails,
      deviceTypeFromJson deviceType, powerSourceFromJson powerSource⟩

end Decode
end Barton.DeviceDetails
