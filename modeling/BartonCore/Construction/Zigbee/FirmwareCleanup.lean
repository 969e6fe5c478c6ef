/-
This file contains the clean-up of the firmware files that no Zigbee device needs.
-/

import BartonCore.Construction.Descriptors.Parser
import BartonCore.Construction.Descriptors.VersionUtils
import BartonCore.ToMathlib.Layers

namespace Barton.FirmwareCleanup
open Strtol Registry Descriptors
open VersionUtils (compareVersionStrings)

section Devices

/-- This is `COMMON_DEVICE_RESOURCE_FIRMWARE_VERSION`. -/
def firmwareVersion : Text := "firmwareVersion".toList

structure DeviceResource where
  id : Text
  value : Option Text

structure ZigbeeDevice where
  uuid : Text
  resources : List DeviceResource

def findDeviceResource (searchVal : Text) (item : DeviceResource) : Bool := searchVal = item.id

/-- A descriptor in the map has a latest firmware. A clone equals its original. -/
structure FirmwareDescriptor where
  dd : DeviceDescriptor
  latestFirmware : DeviceFirmware
  latest : dd.latestFirmware = some latestFirmware

/-- A candidate has everything that is compared and listed. -/
structure Candidate where
  descriptor : FirmwareDescriptor
  fileInfos : List DeviceFirmwareFileInfo
  version : Text
  deviceVersion : Text

variable (getDeviceDescriptorForDevice : ZigbeeDevice → Option DeviceDescriptor)

/-- These are the checks for NULL before the versions are compared. -/
def candidate (device : ZigbeeDevice) : Option Candidate :=
  match getDeviceDescriptorForDevice device with
  | none => none
  | some dd =>
      match latest : dd.latestFirmware with
      | none => none
      | some latestFirmware => do
          let fileInfos ← latestFirmware.fileInfos
          let version ← latestFirmware.version
          let firmwareVersionResource ← device.resources.find? (findDeviceResource firmwareVersion)
          let value ← firmwareVersionResource.value
          some ⟨⟨dd, latestFirmware, latest⟩, fileInfos, version, value⟩

end Devices

section Files
variable (utils : StringUtils) (getDeviceDescriptorForDevice : ZigbeeDevice → Option DeviceDescriptor)

/-- The key is a file name, and the value may be NULL. -/
abbrev FirmwareFiles := Table Text (Option FirmwareDescriptor)

/-- The first matching name takes the clone, and the later ones are put with NULL. -/
def putClone (ddClone : Option FirmwareDescriptor) (fileName : Text) :
    List DeviceFirmwareFileInfo → FirmwareFiles → FirmwareFiles
  | [], allFirmwareFiles => allFirmwareFiles
  | cloneInfo :: rest, allFirmwareFiles =>
      if utils.stringCompare fileName cloneInfo.fileName true = 0 then
        -- The length of the key is that of `fileName`, which differs from the clone's name only in case.
        putClone none fileName rest (allFirmwareFiles.put cloneInfo.fileName ddClone).2
      else putClone ddClone fileName rest allFirmwareFiles

/-- Every listed file has a clone of its own, whose files are `cloneInfos`. -/
def putClones (dd : FirmwareDescriptor) (cloneInfos : List DeviceFirmwareFileInfo) :
    List DeviceFirmwareFileInfo → FirmwareFiles → FirmwareFiles
  | [], allFirmwareFiles => allFirmwareFiles
  | info :: rest, allFirmwareFiles =>
      putClones dd cloneInfos rest (putClone utils (some dd) info.fileName cloneInfos allFirmwareFiles)

/-- The files of a newer firmware are retained. A comparison without a result is undefined. -/
def retainFiles (device : ZigbeeDevice) (allFirmwareFiles : FirmwareFiles) : Option FirmwareFiles :=
  match candidate getDeviceDescriptorForDevice device with
  | none => some allFirmwareFiles
  | some firmware =>
      (compareVersionStrings firmware.version firmware.deviceVersion).map fun versionComparison =>
        if versionComparison = -1 then
          putClones utils firmware.descriptor firmware.fileInfos firmware.fileInfos allFirmwareFiles
        else allFirmwareFiles

def retainAllFiles : List ZigbeeDevice → FirmwareFiles → Option FirmwareFiles
  | [], allFirmwareFiles => some allFirmwareFiles
  | device :: devices, allFirmwareFiles =>
      (retainFiles utils getDeviceDescriptorForDevice device allFirmwareFiles).bind (retainAllFiles devices)

end Files

section Directories

inductive FileType where
  | regular
  | directory
  | symlink
  | special
  deriving DecidableEq

/-- The flags say whether `lstat` and `remove` succeed. -/
structure DirEntry where
  dName : Text
  type : FileType
  lstat : Bool
  remove : Bool
  deriving DecidableEq

/-- The flags say whether the directory exists or can be created, and whether `opendir` succeeds. -/
structure FirmwareDirectory where
  created : Bool
  opendir : Bool
  entries : List DirEntry
  deriving DecidableEq

structure FirmwareDirectories where
  legacy : FirmwareDirectory
  ota : FirmwareDirectory
  deriving DecidableEq

/-- This is the choice of `zigbeeSubsystemGetAndCreateFirmwareFileDirectory`. -/
def FirmwareDirectories.select (directories : FirmwareDirectories) (firmwareType : DeviceFirmwareType) :
    FirmwareDirectory :=
  if firmwareType = .zigbeeLegacy then directories.legacy else directories.ota

/-- A file is unused if it was not found or is of a different firmware type. -/
def isUnused (deviceFirmwareType : DeviceFirmwareType) (allFirmwareFiles : FirmwareFiles) (dName : Text) : Bool :=
  match allFirmwareFiles.lookup dName with
  | some (some dd) => dd.latestFirmware.type ≠ deviceFirmwareType
  | _ => true

/-- Directories and symbolic links are skipped. -/
def isRemoved (deviceFirmwareType : DeviceFirmwareType) (allFirmwareFiles : FirmwareFiles) (dp : DirEntry) : Bool :=
  dp.lstat && (dp.type ≠ .directory && dp.type ≠ .symlink) && isUnused deviceFirmwareType allFirmwareFiles dp.dName &&
    dp.remove

/-- The path is NULL when the directory cannot be created, and then it must not be opened. -/
def cleanupFirmwareFilesByType (deviceFirmwareType : DeviceFirmwareType) (allFirmwareFiles : FirmwareFiles)
    (dir : FirmwareDirectory) : Option FirmwareDirectory :=
  if dir.created then
    if dir.opendir then
      some { dir with entries := dir.entries.filter fun dp => !isRemoved deviceFirmwareType allFirmwareFiles dp }
    else some dir
  else none

def zigbeeSubsystemCleanupFirmwareFiles (utils : StringUtils)
    (getDeviceDescriptorForDevice : ZigbeeDevice → Option DeviceDescriptor) (devices : List ZigbeeDevice)
    (directories : FirmwareDirectories) : Option FirmwareDirectories := do
  let allFirmwareFiles ← retainAllFiles utils getDeviceDescriptorForDevice devices ∅
  let legacy ← cleanupFirmwareFilesByType .zigbeeLegacy allFirmwareFiles (directories.select .zigbeeLegacy)
  let ota ← cleanupFirmwareFilesByType .zigbeeOta allFirmwareFiles (directories.select .zigbeeOta)
  some ⟨legacy, ota⟩

end Directories
end Barton.FirmwareCleanup
