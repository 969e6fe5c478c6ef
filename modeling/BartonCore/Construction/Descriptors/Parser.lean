/-
This file contains the parser of the descriptor lists and the search for a descriptor. The result `none` of a parsing
function means that it uses an absent string.
-/

import BartonCore.Construction.Descriptors.Versions

namespace Barton.Descriptors
open Strtol

section Nodes

/-- An element has a name and no content of its own. Comments, texts and other nodes may lack a name. -/
inductive Node where
  | element (name : String) (attributes : List (String × Text)) (children : List Node)
  | other (name : Option String) (content : Option Text)

def Node.isElement : Node → Bool
  | .element _ _ _ => true
  | .other _ _ => false

def Node.name : Node → Option String
  | .element name _ _ => some name
  | .other name _ => name

def Node.content : Node → Option Text
  | .element _ _ _ => none
  | .other _ content => content

def Node.children : Node → List Node
  | .element _ _ children => children
  | .other _ _ => []

/-- The functions of the XML helper library. The contents of an empty node are absent. -/
structure XmlHelper where
  contents : Node → Option Text
  attributeOf : Node → String → Option Text
  contentsAsBoolean : Node → Bool → Bool
  hexStringToUint16 : Text → Option UInt16
  contents_empty : ∀ name attributes, contents (.element name attributes []) = none

/-- This is `strcasecmp` with a constant. -/
def sameText (text : Text) (constant : String) : Bool :=
  stringToLowerCase text = stringToLowerCase constant.toList

/-- This is `atoi`. -/
def atoi (text : Text) : ℤ :=
  match text.dropWhile isSpace with
  | '-' :: rest => -(readDigits 10 0 rest : ℤ)
  | '+' :: rest => readDigits 10 0 rest
  | rest => readDigits 10 0 rest

end Nodes

section Descriptors

inductive DeviceDescriptorType where
  | camera
  | zigbee
  deriving DecidableEq

inductive CategoryType where
  | unknown
  | zigbee
  | camera
  | philipsHue
  | matter
  deriving DecidableEq

inductive DeviceFirmwareType where
  | unknown
  | zigbeeOta
  | zigbeeLegacy
  | camera
  deriving DecidableEq

inductive PostUpgradeAction where
  | none
  | reconfigure
  deriving DecidableEq

structure DeviceFirmwareFileInfo where
  fileName : Text
  checksum : Option Text

structure DeviceFirmware where
  version : Option Text
  fileInfos : Option (List DeviceFirmwareFileInfo)
  type : DeviceFirmwareType
  upgradeAction : PostUpgradeAction

structure MatterTechnology where
  vendorId : UInt16
  productId : UInt16

inductive CameraProtocol where
  | unknown
  | legacy
  | openHome

structure MotionLevels where
  low : ℤ
  medium : ℤ
  high : ℤ

structure RegionOfInterest where
  width : ℤ
  height : ℤ
  bottom : ℤ
  top : ℤ
  left : ℤ
  right : ℤ

structure CameraMotionSettings where
  enabled : Bool
  sensitivity : MotionLevels
  detectionThreshold : MotionLevels
  regionOfInterest : RegionOfInterest

/-- These fields follow the base descriptor of a camera. -/
structure CameraFields where
  protocol : CameraProtocol
  defaultMotionSettings : CameraMotionSettings

/-- The metadata are listed in the order of their puts. -/
structure DeviceDescriptor where
  deviceDescriptorType : DeviceDescriptorType
  uuid : Option Text
  description : Option Text
  manufacturer : Option Text
  model : Option Text
  hardwareVersions : Option DeviceVersionList
  firmwareVersions : Option DeviceVersionList
  minSupportedFirmwareVersion : Option Text
  metadata : Option (List (Text × Text))
  latestFirmware : Option DeviceFirmware
  cascadeAddDeleteEndpoints : Bool
  category : CategoryType
  matter : Option MatterTechnology
  camera : CameraFields

/-- A descriptor is allocated by `calloc`. -/
def DeviceDescriptor.new (type : DeviceDescriptorType) : DeviceDescriptor where
  deviceDescriptorType := type
  uuid := none
  description := none
  manufacturer := none
  model := none
  hardwareVersions := none
  firmwareVersions := none
  minSupportedFirmwareVersion := none
  metadata := none
  latestFirmware := none
  cascadeAddDeleteEndpoints := false
  category := .unknown
  matter := none
  camera := ⟨.unknown, ⟨false, ⟨0, 0, 0⟩, ⟨0, 0, 0⟩, ⟨0, 0, 0, 0, 0, 0⟩⟩⟩

end Descriptors

section Parse
variable (helper : XmlHelper) (utils : StringUtils)

def getTrimmedXmlNodeContentsAsString (node : Node) : Option Text := (helper.contents node).map utils.trimString

/-- The items of a list without contents match no version. -/
def parseVersionItems (node : Node) : List Text :=
  (node.children.filter Node.isElement).filterMap (getTrimmedXmlNodeContentsAsString helper utils)

/-- The contents of the last child of a name that has contents. -/
def parseRangeEnd (node : Node) (name : String) : Option Text :=
  ((node.children.filter fun child => child.isElement && child.name = some name).filterMap
    (getTrimmedXmlNodeContentsAsString helper utils)).getLast?

/-- The first element decides. A range is checked only when it has both ends. -/
def parseDeviceVersionList (node : Node) : DeviceVersionList :=
  match node.children.find? Node.isElement with
  | none => ⟨.unknown, none, none⟩
  | some first =>
      if first.name = some "list" then ⟨.list, some (parseVersionItems helper utils first), none⟩
      else if first.name = some "any" then ⟨.wildcard, none, none⟩
      else if first.name = some "range" then
        ⟨.range, none, (parseRangeEnd helper utils first "from").bind fun fromRange =>
          (parseRangeEnd helper utils first "to").map fun toRange => ⟨fromRange, toRange⟩⟩
      else ⟨.unknown, none, none⟩

/-- The versions of a camera have a format of their own. The others need contents. -/
def parseVersions (type : DeviceDescriptorType) (forceDecimal : Bool) (node : Node) : Option DeviceVersionList :=
  match type with
  | .camera => some (parseDeviceVersionList helper utils node)
  | .zigbee => (helper.contents node).map fun versions => parseZigbeeDeviceVersion utils versions forceDecimal

def parseMetadataList (node : Node) : List (Text × Text) :=
  (node.children.filter fun child => child.isElement && child.name = some "metadata").filterMap fun child =>
    (helper.attributeOf child "name").bind fun name => (helper.attributeOf child "value").map fun value => (name, value)

/-- A vendor or product that is missing or not a number ends the loop. -/
def parseMatterIds (vendorId productId : Option UInt16) : List Node → Option UInt16 × Option UInt16
  | [] => (vendorId, productId)
  | child :: rest =>
      let number := (getTrimmedXmlNodeContentsAsString helper utils child).bind helper.hexStringToUint16
      if child.isElement && child.name = some "vendorId" then
        match number with
        | none => (vendorId, productId)
        | some vendorId => parseMatterIds (some vendorId) productId rest
      else if child.isElement && child.name = some "productId" then
        match number with
        | none => (vendorId, productId)
        | some productId => parseMatterIds vendorId (some productId) rest
      else parseMatterIds vendorId productId rest

def parseMatterTechnologyNode (node : Node) : Option MatterTechnology :=
  match parseMatterIds helper utils none none node.children with
  | (some vendorId, some productId) => some ⟨vendorId, productId⟩
  | _ => none

/-- One round of the loop over the children of `latestFirmware`, which does not skip comments, blanks, etc. -/
def parseLatestFirmwareChild (firmware : DeviceFirmware) (child : Node) : Option DeviceFirmware :=
  match child.name with
  | none => none
  | some name =>
      if name = "version" then
        some { firmware with version := getTrimmedXmlNodeContentsAsString helper utils child }
      else if name = "filename" then
        let fileInfos := firmware.fileInfos.getD []
        some { firmware with fileInfos := some (match getTrimmedXmlNodeContentsAsString helper utils child with
          | some fileName => fileInfos ++ [⟨fileName, helper.attributeOf child "checksum"⟩]
          | none => fileInfos) }
      else if name = "type" then
        (helper.contents child).map fun firmwareType =>
          if sameText firmwareType "ota" then { firmware with type := .zigbeeOta }
          else if sameText firmwareType "legacy" then { firmware with type := .zigbeeLegacy }
          else firmware
      else if name = "postUpgradeAction" then
        (helper.contents child).map fun postUpgradeAction =>
          if sameText postUpgradeAction "none" then { firmware with upgradeAction := .none }
          else if sameText postUpgradeAction "reconfigure" then { firmware with upgradeAction := .reconfigure }
          else firmware
      else some firmware

def parseLatestFirmware (type : DeviceDescriptorType) (node : Node) : Option DeviceFirmware :=
  node.children.foldlM (parseLatestFirmwareChild helper utils)
    ⟨none, none, if type = .camera then .camera else .unknown, .none⟩

/-- An unknown text leaves the category. -/
def categoryOf (category : CategoryType) (categoryValue : Text) : CategoryType :=
  if sameText categoryValue "zigbee" then .zigbee
  else if sameText categoryValue "camera" then .camera
  else if sameText categoryValue "PhilipsHue" then .philipsHue
  else if sameText categoryValue "matter" then .matter
  else category

/-- One round of the loop of `parseDescriptorBase`. -/
def parseDescriptorChild (dd : DeviceDescriptor) (child : Node) : Option DeviceDescriptor :=
  match child.name with
  | some "uuid" => some { dd with uuid := helper.contents child }
  | some "description" => some { dd with description := helper.contents child }
  | some "manufacturer" => some { dd with manufacturer := helper.contents child }
  | some "model" => some { dd with model := helper.contents child }
  | some "hardwareVersions" =>
      (parseVersions helper utils dd.deviceDescriptorType true child).map fun versions =>
        { dd with hardwareVersions := some versions }
  | some "firmwareVersions" =>
      (parseVersions helper utils dd.deviceDescriptorType false child).map fun versions =>
        { dd with firmwareVersions := some versions }
  | some "minSupportedFirmwareVersion" => some { dd with minSupportedFirmwareVersion := helper.contents child }
  | some "metadataList" => some { dd with metadata := some (parseMetadataList helper child) }
  | some "latestFirmware" =>
      (parseLatestFirmware helper utils dd.deviceDescriptorType child).map fun firmware =>
        { dd with latestFirmware := some firmware }
  | some "cascadeAddDeleteEndpoints" =>
      some { dd with cascadeAddDeleteEndpoints := helper.contentsAsBoolean child false }
  | some "category" =>
      (helper.contents child).map fun categoryValue => { dd with category := categoryOf dd.category categoryValue }
  | some "matter" => some { dd with matter := parseMatterTechnologyNode helper utils child }
  | _ => some dd

/-- An invalid `matter` node after the category Matter ends the loop. -/
def breaksAt (category : CategoryType) (child : Node) : Bool :=
  child.name = some "matter" && (parseMatterTechnologyNode helper utils child).isNone && category = .matter

def parseDescriptorChildren (dd : DeviceDescriptor) : List Node → Option DeviceDescriptor
  | [] => some dd
  | child :: rest =>
      if !child.isElement then parseDescriptorChildren dd rest
      else if breaksAt helper utils dd.category child then parseDescriptorChild helper utils dd child
      else (parseDescriptorChild helper utils dd child).bind fun next => parseDescriptorChildren next rest

/-- The result is false for the category Matter without a valid `matter` node. -/
def parseDescriptorBase (ddNode : Node) (dd : DeviceDescriptor) : Option (Bool × DeviceDescriptor) :=
  (parseDescriptorChildren helper utils dd ddNode.children).map fun dd =>
    (!(dd.category = .matter && dd.matter.isNone), dd)

/-- A value without contents is left as it is. -/
def parseNumber (old : ℤ) (node : Node) : ℤ := ((helper.contents node).map atoi).getD old

def parseMotionLevels (levels : MotionLevels) (node : Node) : MotionLevels :=
  (node.children.filter Node.isElement).foldl (fun levels child =>
    match child.name with
    | some "low" => { levels with low := parseNumber helper levels.low child }
    | some "med" => { levels with medium := parseNumber helper levels.medium child }
    | some "high" => { levels with high := parseNumber helper levels.high child }
    | _ => levels) levels

def parseRegionOfInterest (region : RegionOfInterest) (node : Node) : RegionOfInterest :=
  (node.children.filter Node.isElement).foldl (fun region child =>
    match child.name with
    | some "width" => { region with width := parseNumber helper region.width child }
    | some "height" => { region with height := parseNumber helper region.height child }
    | some "bottomCoord" => { region with bottom := parseNumber helper region.bottom child }
    | some "topCoord" => { region with top := parseNumber helper region.top child }
    | some "leftCoord" => { region with left := parseNumber helper region.left child }
    | some "rightCoord" => { region with right := parseNumber helper region.right child }
    | _ => region) region

def parseCameraMotionNode (settings : CameraMotionSettings) (motionNode : Node) : CameraMotionSettings :=
  (motionNode.children.filter Node.isElement).foldl (fun settings child =>
    match child.name with
    | some "enabled" => { settings with enabled := (helper.contents child).getD "false".toList = "true".toList }
    | some "sensitivityLevel" =>
        { settings with sensitivity := parseMotionLevels helper settings.sensitivity child }
    | some "detectionThreshold" =>
        { settings with detectionThreshold := parseMotionLevels helper settings.detectionThreshold child }
    | some "regionOfInterest" =>
        { settings with regionOfInterest := parseRegionOfInterest helper settings.regionOfInterest child }
    | _ => settings) settings

/-- Every string is checked before it is used, and the result is always true. -/
def parseCameraDescriptor (cameraNode : Node) (camera : CameraFields) : CameraFields :=
  (cameraNode.children.filter Node.isElement).foldl (fun camera child =>
    match child.name with
    | some "protocol" =>
        match helper.contents child with
        | some protocol => { camera with protocol :=
            if protocol = "legacy".toList then .legacy
            else if protocol = "openHome".toList then .openHome else .unknown }
        | none => camera
    | some "motion" =>
        { camera with
          defaultMotionSettings := parseCameraMotionNode helper camera.defaultMotionSettings child }
    | _ => camera) camera

/-- The type of a descriptor by the name of its node. -/
def descriptorType (node : Node) : Option DeviceDescriptorType :=
  match node with
  | .element "CameraDeviceDescriptor" _ _ => some .camera
  | .element "DeviceDescriptor" _ _ => some .zigbee
  | _ => none

/-- A node of the list gives no descriptor when its name is another one or when its base is refused. -/
def parseDescriptorNode (node : Node) : Option (Option DeviceDescriptor) :=
  match descriptorType node with
  | none => some none
  | some type =>
      (parseDescriptorBase helper utils node (.new type)).map fun base =>
        if !base.1 then none
        else match type with
          | .camera => some { base.2 with camera := parseCameraDescriptor helper node base.2.camera }
          | .zigbee => some base.2

/-- The `uuid` nodes are put with the content of their first child. -/
def getDenylistedUuids : List Node → Option (List Text)
  | [] => some []
  | node :: rest =>
      if node.isElement && node.name = some "uuid" then
        match node.children with
        | [] => getDenylistedUuids rest
        | first :: _ => first.content.bind fun uuid => (getDenylistedUuids rest).map fun uuids => uuid :: uuids
      else getDenylistedUuids rest

/-- The lookup of an absent key in the map of the denylisted uuids uses it. -/
def isDenylisted (denylistedUuids : Option (List Text)) (dd : DeviceDescriptor) : Option Bool :=
  match denylistedUuids with
  | none => some false
  | some uuids => dd.uuid.map fun uuid => uuid ∈ uuids

/-- A descriptor that is not denylisted is appended to the result. -/
def keepDescriptors (denylistedUuids : Option (List Text)) : List Node → Option (List DeviceDescriptor)
  | [] => some []
  | node :: rest =>
      (parseDescriptorNode helper utils node).bind fun parsed =>
        match parsed with
        | none => keepDescriptors denylistedUuids rest
        | some dd =>
            (isDenylisted denylistedUuids dd).bind fun denylisted =>
              (keepDescriptors denylistedUuids rest).map fun kept => if denylisted then kept else dd :: kept

/-- A document is the list of the children of its root. A missing or broken file is no document. -/
structure Documents where
  allowlist : Option (List Node)
  denylist : Option (List Node)

def parseDeviceDescriptors (documents : Documents) : Option (Option (List DeviceDescriptor)) :=
  match documents.allowlist with
  | none => some none
  | some allowlist =>
      match documents.denylist with
      | none => (keepDescriptors helper utils none allowlist).map some
      | some denylist =>
          (getDenylistedUuids denylist).bind fun uuids =>
            (keepDescriptors helper utils (some uuids) allowlist).map some

end Parse

section Search
variable (helper : XmlHelper) (utils : StringUtils)

/-- These are the arguments of `deviceDescriptorsGet`. -/
structure Query where
  manufacturer : Option Text
  model : Option Text
  hardwareVersion : Option Text
  firmwareVersion : Option Text

/-- This is `versionInRange` with its check for absent arguments. -/
def versionAllowed (versionInput : Option Text) (allowedVersions : Option DeviceVersionList) : Bool :=
  match versionInput, allowedVersions with
  | some versionInput, some allowedVersions => versionInRange utils versionInput allowedVersions
  | _, _ => false

/-- The loop compares with the manufacturer and the model of each descriptor. -/
def findDescriptor (manufacturer model : Text) (query : Query) :
    List DeviceDescriptor → Option (Option DeviceDescriptor)
  | [] => some none
  | dd :: rest =>
      match dd.manufacturer with
      | none => none
      | some other =>
          if manufacturer ≠ other then findDescriptor manufacturer model query rest
          else match dd.model with
            | none => none
            | some otherModel =>
                if model ≠ otherModel then findDescriptor manufacturer model query rest
                else if versionAllowed utils query.hardwareVersion dd.hardwareVersions &&
                    versionAllowed utils query.firmwareVersion dd.firmwareVersions then some (some dd)
                else findDescriptor manufacturer model query rest

/-- The lists are parsed when no descriptors are loaded yet. The result is followed by the loaded descriptors. -/
def deviceDescriptorsGet (documents : Documents) (deviceDescriptors : Option (List DeviceDescriptor))
    (query : Query) : Option (Option DeviceDescriptor × Option (List DeviceDescriptor)) :=
  match query.manufacturer, query.model with
  | some manufacturer, some model =>
      (match deviceDescriptors with
        | none => parseDeviceDescriptors helper utils documents
        | some loaded => some (some loaded)).bind fun loaded =>
          (findDescriptor utils manufacturer model query (loaded.getD [])).map fun found => (found, loaded)
  | _, _ => some (none, deviceDescriptors)

end Search

end Barton.Descriptors
