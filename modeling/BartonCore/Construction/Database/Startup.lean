/-
This file contains the initialization, the reload, and the restore of the JSON database.
A result `none` marks an access through a NULL or dangling pointer.
-/

import BartonCore.Construction.Database.Operations

namespace Barton.Database
open Registry

/-- The storage lists these keys. A document that cannot be read has no text. -/
abbrev Namespace := Table String (Option String)

/-- This is the map `systemProperties`. -/
abbrev SystemProperties := Table String String

def systemPropertiesKey : String := "systemProperties"

def schemaVersionKey : String := "schemaVersion"

def currentSchemaVersion : String := "2"

/-- These are the static variables of the database and the namespace of the storage.
The maps `devices` and `resourcesByUri` are created and destroyed together. -/
structure Process where
  systemProperties : Option SystemProperties
  database : Option JsonDatabase
  documents : Namespace

/-- The static variables are NULL before the first call. -/
def Process.start (documents : Namespace) : Process := ⟨none, none, documents⟩

/-- This is the text that the storage holds under a key. -/
def Namespace.text (documents : Namespace) (key : String) : Option String :=
  (documents.lookup key).join

section
variable (lib : Library)

def storageLoadJSON (documents : Namespace) (key : String) : Option Json :=
  (documents.text key).bind lib.cJSONParse

/-- A parse hands the stored text to the callback and reports its result. -/
def storageParse (documents : Namespace) (key : String)
    (parse : JsonDatabase → String → Option (Bool × JsonDatabase)) (db : JsonDatabase) :
    Option (Bool × JsonDatabase) :=
  match documents.text key with
  | none => some (false, db)
  | some text => parse db text

/-- These are the stored documents as the database sees them. -/
def Namespace.storage (documents : Namespace) : Storage :=
  (documents.entries.filterMap fun entry =>
    (entry.2.bind lib.cJSONParse).map fun json => ⟨entry.1, json⟩).toAList

/-- The library turns the map into an object of strings. -/
def stringHashMapToJson (properties : SystemProperties) : Json :=
  .object (properties.entries.map fun entry => (entry.1, .string entry.2))

/-- A failed `storageSave` leaves the stored document unchanged. -/
def saveSystemProperties (process : Process) (stored : Bool) : Bool × Process :=
  if stored then
    (true, { process with
      documents := AList.insert systemPropertiesKey
        (some (lib.cJSONPrint (stringHashMapToJson (process.systemProperties.getD ∅))))
        process.documents })
  else (false, process)

/-- The old value is deleted before the new one is put. -/
def jsonDatabaseSetSystemPropertyNoLock (process : Process) (key value : String) (stored : Bool) :
    Bool × Process :=
  saveSystemProperties lib { process with
    systemProperties := some (AList.insert key value (AList.erase key (process.systemProperties.getD ∅))) }
    stored

/-- The value moves to its new name, where a value that is there already stays. -/
def renameProperty (properties : SystemProperties) (old new : String) : SystemProperties :=
  match properties.lookup old with
  | none => properties
  | some value => AList.erase old (properties.put new value).2

def migrateSysPropFile (process : Process) (stored : Bool) : Bool × Process :=
  let properties := process.systemProperties.getD ∅
  if properties.lookup schemaVersionKey = some currentSchemaVersion then (false, process)
  else
    let renamed := renameProperty (renameProperty properties "currentBlacklistMd5" "currentDenylistMd5")
      "currentBlacklistUrl" "currentDenylistUrl"
    (true, (jsonDatabaseSetSystemPropertyNoLock lib { process with systemProperties := some renamed }
      schemaVersionKey currentSchemaVersion stored).2)

/-- The items of an array have no name. -/
def Json.namedItems : Json → List (Option String × Json)
  | .array items => items.map fun item => (none, item)
  | .object items => items.map fun item => (some item.1, item.2)
  | _ => []

/-- A name that is there already keeps its value. The name of a string item is copied without a NULL check. -/
def readSystemProperty (properties : SystemProperties) : Option String × Json → Option SystemProperties
  | (some name, .string value) => some (properties.put name value).2
  | (none, .string _) => none
  | _ => some properties

def loadSystemProperties (process : Process) (stored : Bool) : Option (Bool × Process) :=
  let properties := process.systemProperties.getD ∅
  match storageLoadJSON lib process.documents systemPropertiesKey with
  | none => some (false, { process with systemProperties := some properties })
  | some body => (Runs.run readSystemProperty properties body.namedItems).map fun read =>
      (true, (migrateSysPropFile lib { process with systemProperties := some read } stored).2)

/-- The storage callback parses the text before it loads the document. -/
def loadDeviceText (permissive : Bool) (db : JsonDatabase) (text : String) :
    Option (Bool × JsonDatabase) :=
  match lib.cJSONParse text with
  | none => some (false, db)
  | some json => loadDevice lib db json permissive

/-- A document that does not load strictly is loaded permissively. -/
def loadStoredDevice (documents : Namespace) (db : JsonDatabase) (key : String) : Option JsonDatabase :=
  (storageParse documents key (loadDeviceText lib false) db).bind fun strict =>
    if strict.1 then some strict.2
    else (storageParse documents key (loadDeviceText lib true) strict.2).map Prod.snd

/-- These are the keys that `loadDevices` visits. -/
def Namespace.deviceKeys (documents : Namespace) : List String :=
  documents.keys.filter fun key => key != systemPropertiesKey

def loadDevices (documents : Namespace) (db : JsonDatabase) : Option JsonDatabase :=
  Runs.run (loadStoredDevice lib documents) db documents.deviceKeys

/-- Unreadable system properties lead to an empty database. -/
def jsonDatabaseInitializeNoLock (process : Process) (stored : Bool) : Option (Bool × Process) :=
  (loadSystemProperties lib process stored).bind fun loaded =>
    let empty := JsonDatabase.empty (loaded.2.documents.storage lib)
    if loaded.1 then
      (loadDevices lib loaded.2.documents (loaded.2.database.getD empty)).map fun db =>
        (true, { loaded.2 with database := some db })
    else
      some (true, (jsonDatabaseSetSystemPropertyNoLock lib { loaded.2 with database := some empty }
        schemaVersionKey currentSchemaVersion stored).2)

/-- Reload and restore do not persist the state that they destroy. -/
def jsonDatabaseCleanupNoLock (process : Process) : Option Process :=
  match process.database with
  | none => some { process with systemProperties := none }
  | some db => (dropDevices db).map fun _ =>
      { process with systemProperties := none, database := none }

def jsonDatabaseReload (process : Process) (stored : Bool) : Option (Bool × Process) :=
  (jsonDatabaseCleanupNoLock process).bind fun closed => jsonDatabaseInitializeNoLock lib closed stored

/-- This is the result of `storageRestoreNamespace`. -/
inductive StorageRestoreErrorCode where
  | none
  | newDirMissing
  | oldConfigDelete
  | failedCopy
  | other
  deriving DecidableEq

/-- Nothing to restore is not an error. -/
def StorageRestoreErrorCode.accepted : StorageRestoreErrorCode → Bool
  | .none | .newDirMissing => true
  | .oldConfigDelete | .failedCopy | .other => false

/-- The storage leaves some namespace behind, whatever it reports. -/
def jsonDatabaseRestore (process : Process) (restoreError : StorageRestoreErrorCode) (restored : Namespace)
    (stored : Bool) : Option (Bool × Process) :=
  (jsonDatabaseCleanupNoLock process).bind fun closed =>
    if restoreError.accepted then
      jsonDatabaseInitializeNoLock lib { closed with documents := restored } stored
    else some (false, { closed with documents := restored })

/-- These calls build the database from the storage. -/
inductive StartUp where
  | initialization (documents : Namespace)
  | reload (process : Process)
  | restore (process : Process) (restoreError : StorageRestoreErrorCode) (restored : Namespace)

/-- The outcome `stored` is the result of the one `storageSave` of the call. -/
def StartUp.perform (stored : Bool) : StartUp → Option (Bool × Process)
  | .initialization documents => jsonDatabaseInitializeNoLock lib (Process.start documents) stored
  | .reload process => jsonDatabaseReload lib process stored
  | .restore process restoreError restored =>
      jsonDatabaseRestore lib process restoreError restored stored

/-- This is the namespace that the call finds in the storage. -/
def StartUp.documents : StartUp → Namespace
  | .initialization documents => documents
  | .reload process => process.documents
  | .restore _ _ restored => restored

end

end Barton.Database
