/-
This file contains the updates of the device descriptor lists: the local files with their recorded origin, and the
validity flags with the signal that pairing is possible.
-/

import BartonCore.Construction.Descriptors.Versions

namespace Barton.DescriptorHandler
open Descriptors (stringToLowerCase)

/-- This is `stringCompare` and `strcasecmp` on strings that are there. -/
def equalIgnoringCase (first second : String) : Bool :=
  stringToLowerCase first.toList = stringToLowerCase second.toList

section Files

abbrev Content : Type := List UInt8

/-- The two lists are kept in two files with two properties each. -/
inductive DescriptorFile where
  | allowlist
  | denylist
  deriving DecidableEq

/-- These are `CURRENT_DEVICE_DESCRIPTOR_URL` and `CURRENT_DENYLIST_URL`. -/
def DescriptorFile.urlSystemKey : DescriptorFile → String
  | .allowlist => "currentDeviceDescriptorUrl"
  | .denylist => "currentDenylistUrl"

/-- These are `CURRENT_DEVICE_DESCRIPTOR_MD5` and `CURRENT_DENYLIST_MD5`. -/
def DescriptorFile.md5SystemKey : DescriptorFile → String
  | .allowlist => "currentDeviceDescriptorMd5"
  | .denylist => "currentDenylistMd5"

structure Store where
  systemProperties : String → Option String
  files : DescriptorFile → Option Content

/-- The checksum of a file is written in 32 hexadecimal digits. -/
structure Checksum where
  md5HexString : Content → String
  length : ∀ content, (md5HexString content).length = 32

/-- A write fails before the value is in the map, or when the map is saved. -/
inductive PropertyWrite where
  | notPut
  | notSaved
  | saved
  deriving DecidableEq

/-- This is `deviceServiceSetSystemProperty`. An existing value is deleted first, and a NULL value is not put. -/
def setSystemProperty (store : Store) (name : String) (value : Option String) (outcome : PropertyWrite) :
    Bool × Store :=
  let put := match outcome with
    | .notPut => none
    | _ => value
  (put.isSome && outcome = .saved, { store with systemProperties := Function.update store.systemProperties name put })

/-- What happens in one execution of an update task. The download gives nothing when it fails. -/
structure Attempt where
  path : Bool
  download : Option Content
  valid : Bool
  renamed : Bool
  urlWrite : PropertyWrite
  md5Write : PropertyWrite
  deriving DecidableEq

/-- The result says whether the file is up to date and whether it was updated. -/
inductive UpdateResult where
  | failed
  | current
  | updated
  deriving DecidableEq

variable (checksum : Checksum) (store : Store) (file : DescriptorFile) (url : String) (attempt : Attempt)

def fileNeedsUpdating : Bool :=
  match store.systemProperties file.urlSystemKey, store.systemProperties file.md5SystemKey, store.files file with
  | some currentUrl, some currentMd5, some content =>
      currentUrl ≠ url || !equalIgnoringCase currentMd5 (checksum.md5HexString content)
  | _, _, _ => true

/-- The file is written under another name and moved into place when it is valid. An empty file is no download. -/
def downloadFile : Bool × Store :=
  match attempt.download with
  | some content =>
      if content ≠ [] && attempt.valid && attempt.renamed then
        (true, { store with files := Function.update store.files file (some content) })
      else (false, store)
  | none => (false, store)

/-- The origin of the file is recorded after the download. The results of the writes are not looked at. -/
def recordOrigin : Store :=
  let recorded := (setSystemProperty store file.urlSystemKey (some url) attempt.urlWrite).2
  (setSystemProperty recorded file.md5SystemKey ((store.files file).map checksum.md5HexString) attempt.md5Write).2

/-- This is the first part of `updateAllowlistTaskFunc` and of `updateDenylistTaskFunc`. -/
def updateFile : UpdateResult × Store :=
  if !attempt.path then (.failed, store)
  else if fileNeedsUpdating checksum store file url then
    let downloaded := downloadFile store file attempt
    if downloaded.1 then (.updated, recordOrigin checksum downloaded.2 file url attempt)
    else (.failed, downloaded.2)
  else (.current, store)

/-- What happens when the denylist is unset. -/
structure Unset where
  path : Bool
  unlinked : Bool
  urlWrite : PropertyWrite
  md5Write : PropertyWrite
  deriving DecidableEq

def Unset.removed (unset : Unset) : Bool := unset.path && unset.unlinked

/-- The local denylist is removed with its properties. -/
def unsetDenylist (unset : Unset) : Store :=
  if unset.path then
    let removed := if unset.unlinked then { store with files := Function.update store.files .denylist none } else store
    let recorded :=
      (setSystemProperty removed (DescriptorFile.urlSystemKey .denylist) (some "") unset.urlWrite).2
    (setSystemProperty recorded (DescriptorFile.md5SystemKey .denylist) (some "") unset.md5Write).2
  else store

end Files

section Flags

/-- The flags, the callback with its number of calls, and the URLs of the update tasks that are not done. -/
structure Handler where
  isAllowlistValid : Bool
  isDenylistValid : Bool
  readyForPairingCB : Bool
  readyForPairingCalls : Nat
  descriptorsUpdatedCalls : Nat
  allowlistTask : Option String
  denylistTask : Option String
  deriving DecidableEq

variable (handler : Handler)

/-- The callback is called once per startup. -/
def checkAndSetReadyForPairing : Handler :=
  if handler.isAllowlistValid && handler.isDenylistValid && handler.readyForPairingCB then
    { handler with readyForPairingCB := false, readyForPairingCalls := handler.readyForPairingCalls + 1 }
  else handler

/-- This is `MIN_URL_LENGTH`. -/
def minUrlLength : Nat := 9

/-- This is the comparison with `DEFAULT_INVALID_DENYLIST_URL`. -/
def isDefaultInvalidDenylistUrl (url : String) : Bool := equalIgnoringCase url "http://toBeReplaced"

/-- A task is started for an allowlist with such a URL. -/
def startsAllowlistUpdate (url : String) : Bool := minUrlLength ≤ url.utf8ByteSize

/-- A task is started for a denylist with such a URL. -/
def startsDenylistUpdate (url : String) : Bool :=
  minUrlLength ≤ url.utf8ByteSize && !isDefaultInvalidDenylistUrl url

/-- The first part of `deviceServiceDeviceDescriptorsInit` looks at the local files and at the URL of the denylist. A
missing URL is the empty one. -/
def deviceServiceDeviceDescriptorsInit (localAllowlistIsValid localDenylistIsValid : Bool) (denylistUrl : String) :
    Handler :=
  checkAndSetReadyForPairing
    { isAllowlistValid := localAllowlistIsValid
      isDenylistValid :=
        localDenylistIsValid || denylistUrl.isEmpty || isDefaultInvalidDenylistUrl denylistUrl
      readyForPairingCB := true
      readyForPairingCalls := 0
      descriptorsUpdatedCalls := 0
      allowlistTask := none
      denylistTask := none }

/-- A task that is running is cancelled first. -/
def deviceDescriptorsUpdateAllowlist (url : String) : Handler :=
  { handler with allowlistTask := if startsAllowlistUpdate url then some url else none }

def deviceDescriptorsUpdateDenylist (url : String) : Handler :=
  { handler with denylistTask := if startsDenylistUpdate url then some url else none }

/-- The second part of `updateAllowlistTaskFunc`. A task that failed is executed again. -/
def finishAllowlistUpdate (result : UpdateResult) : Handler :=
  match result with
  | .failed => handler
  | .current => { handler with allowlistTask := none, isAllowlistValid := true }
  | .updated =>
      let checked := checkAndSetReadyForPairing { handler with allowlistTask := none, isAllowlistValid := true }
      { checked with descriptorsUpdatedCalls := checked.descriptorsUpdatedCalls + 1 }

/-- The second part of `updateDenylistTaskFunc`. -/
def finishDenylistUpdate (result : UpdateResult) : Handler :=
  match result with
  | .failed => handler
  | .current => { handler with denylistTask := none, isDenylistValid := true }
  | .updated =>
      let checked := checkAndSetReadyForPairing { handler with denylistTask := none, isDenylistValid := true }
      { checked with descriptorsUpdatedCalls := checked.descriptorsUpdatedCalls + 1 }

end Flags

section System

/-- A call of an update function, or one execution of an update task. -/
inductive Input where
  | updateAllowlist (url : String)
  | updateDenylist (url : String) (unset : Unset)
  | allowlistTask (attempt : Attempt)
  | denylistTask (attempt : Attempt)
  deriving DecidableEq

structure System where
  handler : Handler
  store : Store

/-- A task is executed only while it is not done. -/
def step (checksum : Checksum) (system : System) (input : Input) : Option System :=
  match input with
  | .updateAllowlist url => some { system with handler := deviceDescriptorsUpdateAllowlist system.handler url }
  | .updateDenylist url unset =>
      some ⟨deviceDescriptorsUpdateDenylist system.handler url,
        if startsDenylistUpdate url then system.store else unsetDenylist system.store unset⟩
  | .allowlistTask attempt =>
      system.handler.allowlistTask.map fun url =>
        let updated := updateFile checksum system.store .allowlist url attempt
        ⟨finishAllowlistUpdate system.handler updated.1, updated.2⟩
  | .denylistTask attempt =>
      system.handler.denylistTask.map fun url =>
        let updated := updateFile checksum system.store .denylist url attempt
        ⟨finishDenylistUpdate system.handler updated.1, updated.2⟩

end System

end Barton.DescriptorHandler
