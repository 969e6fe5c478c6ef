import BartonCore.Construction.Zigbee.FirmwareCleanup
import BartonCore.Proof.Descriptors.Versions
import BartonCore.Proof.Descriptors.VersionUtils

namespace Barton.FirmwareCleanup
open Strtol Registry Descriptors
open Sequences (padded signCompare_eq_neg_one)
open VersionUtils (compareVersionStrings Readable DenotedVersion)

section Names

/-- The names differ at most in case. -/
def SameName (first second : Text) : Prop := stringToLowerCase first = stringToLowerCase second

instance (first second : Text) : Decidable (SameName first second) := inferInstanceAs (Decidable (_ = _))

/-- A condition before a function selects the first item that meets it. -/
theorem findSome?_selected {Item Result : Type} (condition : Item → Prop) [DecidablePred condition]
    (value : Item → Result) (items : List Item) :
    (items.findSome? fun item => if condition item then some (value item) else none) =
      (items.find? fun item => condition item).map value := by
  induction items with
  | nil => rfl
  | cons item rest ih =>
      rw [List.findSome?_cons, List.find?_cons, ih]
      by_cases holds : condition item
      · rw [if_pos holds, decide_eq_true holds]
        rfl
      · rw [if_neg holds, decide_eq_false holds]

abbrev FileEntry : Type := Sigma fun _ : Text => Option FirmwareDescriptor

/-- The puts of one clone. -/
def cloneEntries (ddClone : Option FirmwareDescriptor) (fileName : Text) : List DeviceFirmwareFileInfo → List FileEntry
  | [] => []
  | cloneInfo :: rest =>
      if SameName fileName cloneInfo.fileName then ⟨cloneInfo.fileName, ddClone⟩ :: cloneEntries none fileName rest
      else cloneEntries ddClone fileName rest

variable (utils : StringUtils) (allFirmwareFiles : FirmwareFiles)

theorem putClone_eq (ddClone : Option FirmwareDescriptor) (fileName : Text) (cloneInfos : List DeviceFirmwareFileInfo) :
    putClone utils ddClone fileName cloneInfos allFirmwareFiles =
      allFirmwareFiles.putAll (cloneEntries ddClone fileName cloneInfos) := by
  induction cloneInfos generalizing ddClone allFirmwareFiles with
  | nil => rfl
  | cons cloneInfo rest ih =>
      have same : utils.stringCompare fileName cloneInfo.fileName true = 0 ↔ SameName fileName cloneInfo.fileName :=
        utils.stringCompare_ignoreCase _ _
      rw [putClone, cloneEntries]
      by_cases equal : SameName fileName cloneInfo.fileName
      · rw [if_pos (same.mpr equal), if_pos equal, ih, Table.putAll]
      · rw [if_neg (mt same.mp equal), if_neg equal, ih]

theorem putClones_eq (dd : FirmwareDescriptor) (cloneInfos fileInfos : List DeviceFirmwareFileInfo) :
    putClones utils dd cloneInfos fileInfos allFirmwareFiles =
      allFirmwareFiles.putAll (fileInfos.flatMap fun info => cloneEntries (some dd) info.fileName cloneInfos) := by
  induction fileInfos generalizing allFirmwareFiles with
  | nil => rfl
  | cons info rest ih => rw [putClones, ih, putClone_eq, List.flatMap_cons, Table.putAll_append]

/-- This is the first spelling of a name in a list. -/
def firstSpelling (fileNames : List Text) (name : Text) : Option Text :=
  fileNames.find? fun other => SameName name other

variable {ddClone : Option FirmwareDescriptor} {fileName name : Text} (cloneInfos : List DeviceFirmwareFileInfo)

theorem dlookup_other (different : ¬SameName fileName name) :
    (cloneEntries ddClone fileName cloneInfos).dlookup name = none := by
  induction cloneInfos generalizing ddClone with
  | nil => rfl
  | cons cloneInfo rest ih =>
      rw [cloneEntries]
      split_ifs with same
      · have distinct : name ≠ cloneInfo.fileName := fun equal => different (equal ▸ same)
        rw [List.dlookup_cons_ne _ _ distinct, ih]
      · exact ih

/-- Only the first spelling of a name has the clone. -/
theorem dlookup_same (same : SameName fileName name) : (cloneEntries ddClone fileName cloneInfos).dlookup name =
    if name ∈ cloneInfos.map DeviceFirmwareFileInfo.fileName then
      some (if firstSpelling (cloneInfos.map DeviceFirmwareFileInfo.fileName) name = some name then ddClone else none)
    else none := by
  induction cloneInfos generalizing ddClone with
  | nil => rfl
  | cons cloneInfo rest ih =>
      rw [cloneEntries, List.map_cons, firstSpelling, List.find?_cons]
      by_cases matching : SameName fileName cloneInfo.fileName
      · have matched : SameName name cloneInfo.fileName := same.symm.trans matching
        rw [if_pos matching, decide_eq_true matched]
        by_cases equal : name = cloneInfo.fileName
        · subst equal
          rw [if_pos List.mem_cons_self, if_pos rfl]
          exact List.dlookup_cons_eq _ _ _
        · have other : some cloneInfo.fileName ≠ some name := fun found => equal (Option.some.inj found).symm
          rw [List.dlookup_cons_ne _ _ equal, ih, if_neg other, ite_self]
          simp only [List.mem_cons, equal, false_or]
      · have different : ¬SameName name cloneInfo.fileName := fun found => matching (same.trans found)
        have distinct : name ≠ cloneInfo.fileName := fun equal => different (congrArg _ equal)
        rw [if_neg matching, decide_eq_false different, ih]
        simp only [List.mem_cons, distinct, false_or]
        rfl

end Names

section Devices
variable (getDeviceDescriptorForDevice : ZigbeeDevice → Option DeviceDescriptor) {device : ZigbeeDevice}

/-- The version of a device is the value of its first resource with this id. -/
def ZigbeeDevice.version (device : ZigbeeDevice) : Option Text :=
  (device.resources.find? fun resource => firmwareVersion = resource.id).bind DeviceResource.value

/-- A device needs the files of the latest firmware of its descriptor if this is newer than its version. -/
def Needs (device : ZigbeeDevice) (firmwareType : DeviceFirmwareType) (fileName : Text) : Prop :=
  ∃ dd latestFirmware fileInfos version deviceVersion, getDeviceDescriptorForDevice device = some dd ∧
    dd.latestFirmware = some latestFirmware ∧ latestFirmware.type = firmwareType ∧
    latestFirmware.fileInfos = some fileInfos ∧ fileName ∈ fileInfos.map DeviceFirmwareFileInfo.fileName ∧
    latestFirmware.version = some version ∧ device.version = some deviceVersion ∧
    compareVersionStrings version deviceVersion = some (-1)

def Candidate.Newer (firmware : Candidate) : Prop :=
  compareVersionStrings firmware.version firmware.deviceVersion = some (-1)

instance (firmware : Candidate) : Decidable firmware.Newer := inferInstanceAs (Decidable (_ = _))

def Candidate.fileNames (firmware : Candidate) : List Text := firmware.fileInfos.map DeviceFirmwareFileInfo.fileName

def Candidate.type (firmware : Candidate) : DeviceFirmwareType := firmware.descriptor.latestFirmware.type

/-- A newer version is greater in the order of the components, which go on with zeros. -/
theorem newer_iff {firmware : Candidate} {latest current : DenotedVersion}
    (first : firmware.version = latest.versionStr) (second : firmware.deviceVersion = current.versionStr)
    (newest : Readable latest.versionStr) (known : Readable current.versionStr) :
    firmware.Newer ↔ padded 0 current.components < padded 0 latest.components := by
  have compared := latest.compare_eq current newest known
  rw [Candidate.Newer, first, second]
  change latest.compare current = _ ↔ _
  rw [compared, Option.some.injEq]
  exact signCompare_eq_neg_one _ _

theorem candidate_spec {firmware : Candidate} (found : candidate getDeviceDescriptorForDevice device = some firmware) :
    getDeviceDescriptorForDevice device = some firmware.descriptor.dd ∧
      firmware.descriptor.latestFirmware.fileInfos = some firmware.fileInfos ∧
      firmware.descriptor.latestFirmware.version = some firmware.version ∧
      device.version = some firmware.deviceVersion := by
  unfold candidate at found
  split at found
  · cases found
  · split at found
    · cases found
    · obtain ⟨fileInfos, infos, found⟩ := Option.bind_eq_some_iff.mp found
      obtain ⟨version, latest, found⟩ := Option.bind_eq_some_iff.mp found
      obtain ⟨resource, first, found⟩ := Option.bind_eq_some_iff.mp found
      obtain ⟨value, read, found⟩ := Option.bind_eq_some_iff.mp found
      cases found
      exact ⟨by assumption, infos, latest, Option.bind_eq_some_iff.mpr ⟨resource, first, read⟩⟩

theorem candidate_of {dd : DeviceDescriptor} {latestFirmware : DeviceFirmware} {fileInfos : List DeviceFirmwareFileInfo}
    {version deviceVersion : Text} (descriptor : getDeviceDescriptorForDevice device = some dd)
    (latest : dd.latestFirmware = some latestFirmware) (infos : latestFirmware.fileInfos = some fileInfos)
    (newest : latestFirmware.version = some version) (current : device.version = some deviceVersion) :
    candidate getDeviceDescriptorForDevice device =
      some ⟨⟨dd, latestFirmware, latest⟩, fileInfos, version, deviceVersion⟩ := by
  obtain ⟨resource, first, read⟩ := Option.bind_eq_some_iff.mp current
  unfold candidate
  split
  · rename_i absent
    rw [descriptor] at absent
    cases absent
  · rename_i other present
    cases descriptor.symm.trans present
    split
    · rename_i absent
      rw [latest] at absent
      cases absent
    · rename_i firmware found
      cases latest.symm.trans found
      refine Option.bind_eq_some_iff.mpr ⟨fileInfos, infos, ?_⟩
      refine Option.bind_eq_some_iff.mpr ⟨version, newest, ?_⟩
      refine Option.bind_eq_some_iff.mpr ⟨resource, first, ?_⟩
      exact Option.bind_eq_some_iff.mpr ⟨deviceVersion, read, rfl⟩

/-- A device needs the files of its candidate if this is newer. -/
theorem needs_iff (firmwareType : DeviceFirmwareType) (fileName : Text) :
    Needs getDeviceDescriptorForDevice device firmwareType fileName ↔
      ∃ firmware, candidate getDeviceDescriptorForDevice device = some firmware ∧ firmware.Newer ∧
        fileName ∈ firmware.fileNames ∧ firmware.type = firmwareType := by
  constructor
  · rintro ⟨dd, latestFirmware, fileInfos, version, deviceVersion, descriptor, latest, same, infos, listed, newest,
      current, newer⟩
    exact ⟨_, candidate_of _ descriptor latest infos newest current, newer, listed, same⟩
  · rintro ⟨firmware, found, newer, listed, same⟩
    obtain ⟨descriptor, infos, newest, current⟩ := candidate_spec _ found
    exact ⟨_, _, _, _, _, descriptor, firmware.descriptor.latest, same, infos, listed, newest, current, newer⟩

end Devices

section Retained
variable (utils : StringUtils) (getDeviceDescriptorForDevice : ZigbeeDevice → Option DeviceDescriptor)
  (devices : List ZigbeeDevice)

/-- This is the firmware whose files a device needs. -/
def newerFirmware (device : ZigbeeDevice) : Option Candidate :=
  (candidate getDeviceDescriptorForDevice device).filter fun firmware => firmware.Newer

/-- The files are retained in the order of the devices. -/
def newerFirmwares : List Candidate := devices.filterMap (newerFirmware getDeviceDescriptorForDevice)

/-- Both versions of every candidate can be read. -/
def VersionsReadable : Prop :=
  ∀ device ∈ devices, ∀ firmware, candidate getDeviceDescriptorForDevice device = some firmware →
    Readable firmware.version ∧ Readable firmware.deviceVersion

/-- The puts of one firmware. -/
def Candidate.entries (firmware : Candidate) : List FileEntry :=
  firmware.fileInfos.flatMap fun info => cloneEntries (some firmware.descriptor) info.fileName firmware.fileInfos

theorem mem_newerFirmwares {firmware : Candidate} : firmware ∈ newerFirmwares getDeviceDescriptorForDevice devices ↔
    ∃ device ∈ devices, candidate getDeviceDescriptorForDevice device = some firmware ∧ firmware.Newer := by
  simp only [newerFirmwares, newerFirmware, List.mem_filterMap, Option.filter_eq_some_iff, decide_eq_true_eq]

/-- A device adds the entries of its newer firmware. -/
theorem retainFiles_eq {device : ZigbeeDevice} (allFirmwareFiles : FirmwareFiles)
    (readable : ∀ firmware, candidate getDeviceDescriptorForDevice device = some firmware →
      Readable firmware.version ∧ Readable firmware.deviceVersion) :
    retainFiles utils getDeviceDescriptorForDevice device allFirmwareFiles = some (allFirmwareFiles.putAll
      ((newerFirmware getDeviceDescriptorForDevice device).toList.flatMap Candidate.entries)) := by
  rw [retainFiles, newerFirmware]
  cases found : candidate getDeviceDescriptorForDevice device with
  | none => rfl
  | some firmware =>
      have compared := (VersionUtils.compareVersionStrings_isSome_iff _ _).mpr (readable firmware found)
      obtain ⟨versionComparison, same⟩ := Option.isSome_iff_exists.mp compared
      simp only [same, Option.map_some]
      by_cases newer : versionComparison = -1
      · have chosen : firmware.Newer := same.trans (congrArg some newer)
        rw [if_pos newer, Option.filter_some, decide_eq_true chosen, if_pos rfl, Option.toList_some,
          List.flatMap_singleton, putClones_eq, Candidate.entries]
      · have other : ¬firmware.Newer := fun equal => newer (Option.some.inj (same.symm.trans equal))
        rw [if_neg newer, Option.filter_some, decide_eq_false other]
        rfl

theorem retainAllFiles_eq (allFirmwareFiles : FirmwareFiles)
    (readable : VersionsReadable getDeviceDescriptorForDevice devices) :
    retainAllFiles utils getDeviceDescriptorForDevice devices allFirmwareFiles = some (allFirmwareFiles.putAll
      ((newerFirmwares getDeviceDescriptorForDevice devices).flatMap Candidate.entries)) := by
  induction devices generalizing allFirmwareFiles with
  | nil => rfl
  | cons device devices ih =>
      rw [VersionsReadable, List.forall_mem_cons] at readable
      have parts : newerFirmwares getDeviceDescriptorForDevice (device :: devices) =
          (newerFirmware getDeviceDescriptorForDevice device).toList ++
            newerFirmwares getDeviceDescriptorForDevice devices := by
        rw [newerFirmwares, List.filterMap_cons]
        cases newerFirmware getDeviceDescriptorForDevice device <;> rfl
      rw [retainAllFiles, retainFiles_eq _ _ _ readable.1, Option.bind_some, ih _ readable.2, parts,
        List.flatMap_append, Table.putAll_append]

/-- The map is complete only if every comparison has a result. -/
theorem readable_of_retainAllFiles {allFirmwareFiles retained : FirmwareFiles}
    (completed : retainAllFiles utils getDeviceDescriptorForDevice devices allFirmwareFiles = some retained) :
    VersionsReadable getDeviceDescriptorForDevice devices := by
  induction devices generalizing allFirmwareFiles with
  | nil => exact fun device member => absurd member List.not_mem_nil
  | cons device devices ih =>
      obtain ⟨files, first, later⟩ := Option.bind_eq_some_iff.mp completed
      refine List.forall_mem_cons.mpr ⟨fun firmware found => ?_, ih later⟩
      rw [retainFiles, found] at first
      obtain ⟨versionComparison, compared, _⟩ := Option.map_eq_some_iff.mp first
      exact (VersionUtils.compareVersionStrings_isSome_iff _ _).mp (Option.isSome_of_eq_some compared)

/-- One firmware has an entry for each of its names, and the clone only for the first spelling. -/
theorem dlookup_entries (firmware : Candidate) (name : Text) : firmware.entries.dlookup name =
    if name ∈ firmware.fileNames then
      some (if firstSpelling firmware.fileNames name = some name then some firmware.descriptor else none)
    else none := by
  have each (info : DeviceFirmwareFileInfo) :
      (cloneEntries (some firmware.descriptor) info.fileName firmware.fileInfos).dlookup name =
        if SameName info.fileName name then (if name ∈ firmware.fileNames then
          some (if firstSpelling firmware.fileNames name = some name then some firmware.descriptor else none)
        else none) else none := by
    by_cases same : SameName info.fileName name
    · rw [if_pos same]
      exact dlookup_same _ same
    · rw [if_neg same]
      exact dlookup_other _ same
  rw [Candidate.entries, dlookup_flatMap]
  simp only [each]
  by_cases listed : name ∈ firmware.fileNames
  · simp only [if_pos listed]
    rw [findSome?_selected]
    obtain ⟨info, member, rfl⟩ := List.mem_map.mp listed
    cases found : firmware.fileInfos.find? fun other => SameName other.fileName info.fileName with
    | none => exact absurd (decide_eq_true rfl) (List.find?_eq_none.mp found info member)
    | some other => rfl
  · simp only [if_neg listed, ite_self]
    exact List.findSome?_eq_none_iff.mpr fun _ _ => rfl

/-- The first newer firmware that lists a name decides. -/
theorem lookup_retained (name : Text) : ((∅ : FirmwareFiles).putAll
    ((newerFirmwares getDeviceDescriptorForDevice devices).flatMap Candidate.entries)).lookup name =
      ((newerFirmwares getDeviceDescriptorForDevice devices).find? fun firmware => name ∈ firmware.fileNames).map
        fun firmware =>
          if firstSpelling firmware.fileNames name = some name then some firmware.descriptor else none := by
  rw [Table.lookup_putAll, AList.lookup_empty, Option.none_or, dlookup_flatMap]
  simp only [dlookup_entries]
  exact findSome?_selected _ _ _

local instance lawfulText : LawfulBEq Text := inferInstance

/-- The first device that needs a file of this name, of any type, has a descriptor of this type, and its list of files
spells the name first so. -/
def Retained (firmwareType : DeviceFirmwareType) (name : Text) : Prop :=
  ∃ firmware, ((newerFirmwares getDeviceDescriptorForDevice devices).find? fun firmware => name ∈ firmware.fileNames) =
    some firmware ∧ firmware.type = firmwareType ∧ firstSpelling firmware.fileNames name = some name

/-- Some device needs the file. -/
def Needed (firmwareType : DeviceFirmwareType) (name : Text) : Prop :=
  ∃ device ∈ devices, Needs getDeviceDescriptorForDevice device firmwareType name

variable {getDeviceDescriptorForDevice devices}

theorem Retained.needed {firmwareType : DeviceFirmwareType} {name : Text}
    (retained : Retained getDeviceDescriptorForDevice devices firmwareType name) :
    Needed getDeviceDescriptorForDevice devices firmwareType name := by
  obtain ⟨firmware, found, same, _⟩ := retained
  obtain ⟨device, member, selected, newer⟩ :=
    (mem_newerFirmwares _ _).mp (List.mem_of_find?_eq_some found)
  have listed := List.find?_some found
  rw [decide_eq_true_eq] at listed
  exact ⟨device, member, (needs_iff _ _ _).mpr ⟨firmware, selected, newer, listed, same⟩⟩

theorem isUnused_iff (firmwareType : DeviceFirmwareType) (name : Text) :
    isUnused firmwareType ((∅ : FirmwareFiles).putAll
      ((newerFirmwares getDeviceDescriptorForDevice devices).flatMap Candidate.entries)) name = true ↔
      ¬Retained getDeviceDescriptorForDevice devices firmwareType name := by
  rw [isUnused, lookup_retained, Retained]
  cases found : (newerFirmwares getDeviceDescriptorForDevice devices).find? fun firmware =>
      name ∈ firmware.fileNames with
  | none => simp
  | some firmware =>
      by_cases first : firstSpelling firmware.fileNames name = some name
      · simp [first, Candidate.type]
      · simp [first]

end Retained

section Law
variable (utils : StringUtils) (getDeviceDescriptorForDevice : ZigbeeDevice → Option DeviceDescriptor)
  (devices : List ZigbeeDevice) (directories : FirmwareDirectories)

/-- These are the firmware types with a directory. -/
def zigbeeTypes : List DeviceFirmwareType := [.zigbeeLegacy, .zigbeeOta]

/-- A regular file is removed exactly if no device needs a file of its name and of the type of its directory. -/
def CleansUp : Prop :=
  ∃ after, zigbeeSubsystemCleanupFirmwareFiles utils getDeviceDescriptorForDevice devices directories = some after ∧
    ∀ firmwareType ∈ zigbeeTypes, ∀ dp ∈ (directories.select firmwareType).entries, dp.type = .regular →
      (dp ∉ (after.select firmwareType).entries ↔
        ¬Needed getDeviceDescriptorForDevice devices firmwareType dp.dName)

/-- The directory can be listed, and the file can be examined and removed. -/
structure Removable (dir : FirmwareDirectory) (dp : DirEntry) : Prop where
  opendir : dir.opendir = true
  lstat : dp.lstat = true
  remove : dp.remove = true

/-- The directories exist or can be created, the compared versions can be read, every unneeded file can be removed,
and every needed file that can be removed is retained. -/
structure Manageable : Prop where
  created : ∀ firmwareType ∈ zigbeeTypes, (directories.select firmwareType).created = true
  readable : VersionsReadable getDeviceDescriptorForDevice devices
  removable : ∀ firmwareType ∈ zigbeeTypes, ∀ dp ∈ (directories.select firmwareType).entries, dp.type = .regular →
    ¬Needed getDeviceDescriptorForDevice devices firmwareType dp.dName →
      Removable (directories.select firmwareType) dp
  retained : ∀ firmwareType ∈ zigbeeTypes, ∀ dp ∈ (directories.select firmwareType).entries, dp.type = .regular →
    Needed getDeviceDescriptorForDevice devices firmwareType dp.dName →
      Removable (directories.select firmwareType) dp →
        Retained getDeviceDescriptorForDevice devices firmwareType dp.dName

theorem isRemoved_iff {allFirmwareFiles : FirmwareFiles} {firmwareType : DeviceFirmwareType} {dp : DirEntry}
    (regular : dp.type = .regular) : isRemoved firmwareType allFirmwareFiles dp = true ↔
      (dp.lstat = true ∧ dp.remove = true) ∧ isUnused firmwareType allFirmwareFiles dp.dName = true := by
  rw [isRemoved, regular, Bool.and_eq_true, Bool.and_eq_true, Bool.and_eq_true]
  simp only [ne_eq, reduceCtorEq, not_false_eq_true, decide_true, Bool.and_self, and_true]
  exact and_right_comm

/-- One directory loses the regular files that can be removed and are unused. -/
theorem cleanupFirmwareFilesByType_spec {dir : FirmwareDirectory} (created : dir.created = true)
    (firmwareType : DeviceFirmwareType) (allFirmwareFiles : FirmwareFiles) :
    ∃ after, cleanupFirmwareFilesByType firmwareType allFirmwareFiles dir = some after ∧
      ∀ dp ∈ dir.entries, dp.type = .regular →
        (dp ∉ after.entries ↔ Removable dir dp ∧ isUnused firmwareType allFirmwareFiles dp.dName = true) := by
  rw [cleanupFirmwareFilesByType, if_pos created]
  by_cases opens : dir.opendir = true
  · rw [if_pos opens]
    refine ⟨_, rfl, fun dp member regular => ?_⟩
    have gone : dp ∉ (dir.entries.filter fun dp => !isRemoved firmwareType allFirmwareFiles dp) ↔
        isRemoved firmwareType allFirmwareFiles dp = true := by
      rw [List.mem_filter, and_iff_right member, Bool.not_eq_true', Bool.not_eq_false]
    refine (gone.trans (isRemoved_iff regular)).trans (and_congr_left fun _ => ?_)
    exact ⟨fun both => ⟨opens, both.1, both.2⟩, fun removable => ⟨removable.lstat, removable.remove⟩⟩
  · rw [if_neg opens]
    refine ⟨_, rfl, fun dp member _ => ⟨fun absent => absurd member absent, fun removed => ?_⟩⟩
    exact absurd removed.1.opendir opens

variable {getDeviceDescriptorForDevice devices directories}

/-- A run that can be completed removes the regular files that can be removed and are not retained. -/
theorem cleanup_spec (created : ∀ firmwareType ∈ zigbeeTypes, (directories.select firmwareType).created = true)
    (readable : VersionsReadable getDeviceDescriptorForDevice devices) :
    ∃ after, zigbeeSubsystemCleanupFirmwareFiles utils getDeviceDescriptorForDevice devices directories = some after ∧
      ∀ firmwareType ∈ zigbeeTypes, ∀ dp ∈ (directories.select firmwareType).entries, dp.type = .regular →
        (dp ∉ (after.select firmwareType).entries ↔ Removable (directories.select firmwareType) dp ∧
          ¬Retained getDeviceDescriptorForDevice devices firmwareType dp.dName) := by
  have cleaned (firmwareType : DeviceFirmwareType) (member : firmwareType ∈ zigbeeTypes) :=
    cleanupFirmwareFilesByType_spec (created firmwareType member) firmwareType ((∅ : FirmwareFiles).putAll
      ((newerFirmwares getDeviceDescriptorForDevice devices).flatMap Candidate.entries))
  simp only [isUnused_iff] at cleaned
  obtain ⟨legacy, legacyRan, legacySpec⟩ := cleaned .zigbeeLegacy (by decide)
  obtain ⟨ota, otaRan, otaSpec⟩ := cleaned .zigbeeOta (by decide)
  refine ⟨⟨legacy, ota⟩, ?_, fun firmwareType member => ?_⟩
  · rw [zigbeeSubsystemCleanupFirmwareFiles, retainAllFiles_eq _ _ _ _ readable]
    change (cleanupFirmwareFilesByType _ _ _).bind _ = _
    rw [legacyRan, Option.bind_some]
    change (cleanupFirmwareFilesByType _ _ _).bind _ = _
    rw [otaRan, Option.bind_some]
  · rcases List.mem_pair.mp member with rfl | rfl
    · exact legacySpec
    · exact otaSpec

/-- A run is completed only with two directories and readable versions. -/
theorem of_cleanup {after : FirmwareDirectories}
    (ran : zigbeeSubsystemCleanupFirmwareFiles utils getDeviceDescriptorForDevice devices directories = some after) :
    (∀ firmwareType ∈ zigbeeTypes, (directories.select firmwareType).created = true) ∧
      VersionsReadable getDeviceDescriptorForDevice devices := by
  obtain ⟨allFirmwareFiles, retained, ran⟩ := Option.bind_eq_some_iff.mp ran
  obtain ⟨legacy, legacyRan, ran⟩ := Option.bind_eq_some_iff.mp ran
  obtain ⟨ota, otaRan, _⟩ := Option.bind_eq_some_iff.mp ran
  have created {firmwareType : DeviceFirmwareType} {dir cleaned : FirmwareDirectory}
      (cleans : cleanupFirmwareFilesByType firmwareType allFirmwareFiles dir = some cleaned) : dir.created = true := by
    by_contra missing
    rw [cleanupFirmwareFilesByType, if_neg missing] at cleans
    cases cleans
  refine ⟨fun firmwareType member => ?_, readable_of_retainAllFiles _ _ _ retained⟩
  rcases List.mem_pair.mp member with rfl | rfl
  · exact created legacyRan
  · exact created otaRan

/-- The clean-up removes exactly the unneeded files exactly if everything is manageable. -/
theorem cleanup_iff (getDeviceDescriptorForDevice : ZigbeeDevice → Option DeviceDescriptor)
    (devices : List ZigbeeDevice) (directories : FirmwareDirectories) :
    CleansUp utils getDeviceDescriptorForDevice devices directories ↔
      Manageable getDeviceDescriptorForDevice devices directories := by
  constructor
  · rintro ⟨after, ran, law⟩
    obtain ⟨created, readable⟩ := of_cleanup utils ran
    obtain ⟨other, same, spec⟩ := cleanup_spec utils created readable
    cases ran.symm.trans same
    refine ⟨created, readable, fun firmwareType member dp inside regular unneeded => ?_, ?_⟩
    · exact ((spec firmwareType member dp inside regular).mp
        ((law firmwareType member dp inside regular).mpr unneeded)).1
    · intro firmwareType member dp inside regular needed removable
      by_contra lost
      have removed := (spec firmwareType member dp inside regular).mpr ⟨removable, lost⟩
      exact (law firmwareType member dp inside regular).mp removed needed
  · intro manageable
    obtain ⟨after, ran, spec⟩ := cleanup_spec utils manageable.created manageable.readable
    refine ⟨after, ran, fun firmwareType member dp inside regular => ?_⟩
    rw [spec firmwareType member dp inside regular]
    constructor
    · rintro ⟨removable, lost⟩ needed
      exact lost (manageable.retained firmwareType member dp inside regular needed removable)
    · intro unneeded
      exact ⟨manageable.removable firmwareType member dp inside regular unneeded,
        fun retained => unneeded retained.needed⟩

end Law

section SharedName

def sharedName : Text := "firmware.bin".toList

/-- The firmware of version 2 has one file. -/
def secondVersion (firmwareType : DeviceFirmwareType) : DeviceFirmware where
  version := some ['2']
  fileInfos := some [⟨sharedName, none⟩]
  type := firmwareType
  upgradeAction := .none

/-- Every device is upgraded as a legacy device. -/
def legacyDescriptors (_ : ZigbeeDevice) : Option DeviceDescriptor :=
  some { DeviceDescriptor.new .zigbee with latestFirmware := some (secondVersion .zigbeeLegacy) }

/-- The firmware that is needed lies beside an old one. -/
def legacyDirectories : FirmwareDirectories :=
  ⟨⟨true, true, [⟨sharedName, .regular, true, true⟩, ⟨"old.bin".toList, .regular, true, true⟩]⟩, ⟨true, true, []⟩⟩

/-- The old firmware is removed, and the needed one is kept. -/
theorem cleanup_iff_legacy :
    CleansUp asciiUtils legacyDescriptors [⟨['b'], [⟨firmwareVersion, some ['1']⟩]⟩] legacyDirectories := by
  have ran : zigbeeSubsystemCleanupFirmwareFiles asciiUtils legacyDescriptors
      [⟨['b'], [⟨firmwareVersion, some ['1']⟩]⟩] legacyDirectories =
        some ⟨⟨true, true, [⟨sharedName, .regular, true, true⟩]⟩, ⟨true, true, []⟩⟩ := by decide +kernel
  obtain ⟨created, readable⟩ := of_cleanup asciiUtils ran
  refine (cleanup_iff asciiUtils _ _ _).mpr ⟨created, readable, ?_, ?_⟩
  · intro firmwareType member dp inside _ _
    rcases List.mem_pair.mp member with rfl | rfl
    · rcases List.mem_pair.mp inside with rfl | rfl
      · exact ⟨rfl, rfl, rfl⟩
      · exact ⟨rfl, rfl, rfl⟩
    · cases inside
  · intro firmwareType member dp inside _ needed _
    obtain ⟨device, _, dd, latestFirmware, fileInfos, _, _, found, latest, typed, infos, named, _⟩ := needed
    cases found
    cases latest
    cases infos
    have type : firmwareType = .zigbeeLegacy := typed.symm
    have name : dp.dName = sharedName := List.mem_singleton.mp named
    rw [type, name]
    exact ⟨_, rfl, rfl, rfl⟩

/-- One device is upgraded over the air, and the other ones as legacy devices. -/
def mixedDescriptors (device : ZigbeeDevice) : Option DeviceDescriptor :=
  some { DeviceDescriptor.new .zigbee with
    latestFirmware := some (secondVersion (if device.uuid = ['a'] then .zigbeeOta else .zigbeeLegacy)) }

/-- The devices have version 1. -/
def mixedDevices : List ZigbeeDevice :=
  [⟨['a'], [⟨firmwareVersion, some ['1']⟩]⟩, ⟨['b'], [⟨firmwareVersion, some ['1']⟩]⟩]

/-- The file of the legacy device is there. -/
def mixedDirectories : FirmwareDirectories :=
  ⟨⟨true, true, [⟨sharedName, .regular, true, true⟩]⟩, ⟨true, true, []⟩⟩

/-- The file of the second device is removed, as the first device needs an OTA file of this name. -/
theorem not_cleanup : ¬ ∀ (utils : StringUtils) (getDeviceDescriptorForDevice : ZigbeeDevice → Option DeviceDescriptor)
    (devices : List ZigbeeDevice) (directories : FirmwareDirectories),
    CleansUp utils getDeviceDescriptorForDevice devices directories := by
  intro cleans
  obtain ⟨after, ran, law⟩ := cleans asciiUtils mixedDescriptors mixedDevices mixedDirectories
  have removed : zigbeeSubsystemCleanupFirmwareFiles asciiUtils mixedDescriptors mixedDevices mixedDirectories =
      some ⟨⟨true, true, []⟩, ⟨true, true, []⟩⟩ := by decide +kernel
  cases ran.symm.trans removed
  refine (law .zigbeeLegacy (by decide) ⟨sharedName, .regular, true, true⟩ List.mem_cons_self rfl).mp
    List.not_mem_nil ⟨_, List.mem_cons_of_mem _ List.mem_cons_self, ?_⟩
  refine ⟨_, _, _, _, _, rfl, rfl, rfl, rfl, List.mem_cons_self, rfl, rfl, ?_⟩
  decide +kernel

end SharedName

end Barton.FirmwareCleanup
