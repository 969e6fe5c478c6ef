/-
This file contains the operations of handler results and the persistent data of SBMD devices.
-/

import BartonCore.Construction.DeviceService.Lifecycle

namespace Barton.PersistentData
open Database Lifecycle

/-- This is `NodeIdToUuid`, which writes sixteen hexadecimal digits. -/
def nodeIdToUuid (nodeId : UInt64) : String :=
  String.ofList ((List.range 16).map fun position =>
    Nat.digitChar (nodeId.toNat / 16 ^ (15 - position) % 16))

/-- This is `ResultOp`. -/
inductive ResultOp where
  | updateResource (endpoint : Option String) (resource value : String) (metadata : Option String)
  | setMetadata (name value : String)
  | setPersistentData (key value : String)
  | setTransientData (key value : String) (ttlSecs : UInt32)
  | log (message : String)
  deriving DecidableEq

/-- The URI that `ExecuteOps` and `MakePersistFetcher` both build. -/
def persistentUri (deviceUuid key : String) : String :=
  "/devices/" ++ deviceUuid ++ "/metadata/sbmd." ++ key

/-- Transient data and log messages do not reach the database. -/
def ResultOp.frames (lib : Library) (deviceUuid : String) : ResultOp → List Frame
  | .updateResource endpoint resource value metadata =>
      [.resource (.update ⟨some deviceUuid, endpoint, some resource, some value,
        metadata.bind lib.cJSONParse⟩)]
  | .setMetadata name value => [.setMetadata (some deviceUuid) none (some name) (some value)]
  | .setPersistentData key value => [.setMetadataUri (some (persistentUri deviceUuid key)) (some value)]
  | .setTransientData _ _ _ => []
  | .log _ => []

/-- The operations are executed in order. -/
def executeOps (lib : Library) (deviceUuid : String) (ops : List ResultOp) : List Frame :=
  ops.flatMap (ResultOp.frames lib deviceUuid)

/-- A result `some none` says that the call failed, and the inner option is the value. -/
def deviceServiceGetMetadata (db : JsonDatabase) (uri : Option String) :
    Option (Option (Option String)) :=
  match uri with
  | none => some none
  | some uri =>
      (jsonDatabaseIsUriAccessible db uri).bind fun accessible =>
        if accessible then
          (jsonDatabaseGetMetadataByUri db uri).map fun metadata =>
            some (metadata.bind DeviceMetadata.value)
        else some none

/-- This is the function that `MakePersistFetcher` returns. -/
def makePersistFetcher (deviceUuid : String) (db : JsonDatabase) (key : String) :
    Option (Option String) :=
  (deviceServiceGetMetadata db (some (persistentUri deviceUuid key))).map Option.join

/-- This is `FetchedSupplement`. -/
structure FetchedSupplement where
  key : String
  value : Option String
  deriving DecidableEq

/-- The declared keys are fetched in order, and each fetch reads the database that it meets. -/
def prefetchPersistentData (deviceUuid : String) (reads : List (JsonDatabase × String)) :
    Option (List FetchedSupplement) :=
  reads.mapM fun read =>
    (makePersistFetcher deviceUuid read.1 read.2).map fun value => ⟨read.2, value⟩

/-- This is the supplement that `populate` sets for a declared key, where `none` is `null`. -/
def populate (fetched : List FetchedSupplement) (declaredKey : String) : Option String :=
  (fetched.find? fun entry => entry.key == declaredKey && entry.value.isSome).bind FetchedSupplement.value

end Barton.PersistentData
