/-
This file contains the write of metadata by a URI as one call that no other thread interrupts.
-/

import BartonCore.Construction.Sbmd.PersistentData

namespace Barton.Metadata
open Database Lifecycle

section
variable (lib : Library) (db : JsonDatabase) (stored : Bool)

/-- The endpoint id that the scan found. It is absent for metadata of the device. -/
def endpointIdOf (parsed : MetadataUri) : Option String :=
  if lib.stringIsEmpty (some parsed.endpointId) then none else some parsed.endpointId

/-- This is `setMetadata`, which drops the result of the save. -/
def setMetadata (deviceUuid : String) (endpointId : Option String) (name : String) (value : Option String) :
    Option JsonDatabase :=
  match value with
  | none => some db
  | some value =>
      (jsonDatabaseGetMetadataByUri db (metadataUriCreate (some deviceUuid) endpointId (some name))).bind fun found =>
        (metadataToSave deviceUuid endpointId name value found).bind fun item =>
          match item with
          | none => some db
          | some metadata => (jsonDatabaseSaveMetadata lib db metadata stored).map Prod.snd

def deviceServiceSetMetadata (uri value : Option String) : Option (Bool × JsonDatabase) :=
  match uri with
  | none => some (false, db)
  | some uri =>
      (jsonDatabaseIsUriAccessible db uri).bind fun accessible =>
        if !accessible then some (false, db)
        else match parseMetadataUri uri with
          | none => some (false, db)
          | some parsed =>
              (setMetadata lib db stored parsed.deviceId (endpointIdOf lib parsed) parsed.name value).map fun next =>
                (true, next)

end

end Barton.Metadata
