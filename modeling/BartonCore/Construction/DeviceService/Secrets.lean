/-
This file follows the stored documents with the devices that they were written from.
-/

import BartonCore.Construction.Database.Saves
import BartonCore.Construction.DeviceService.Resources

namespace Barton.Secrets
open Database Registry Resources

/-- This is `simpleProtectConfigData` during one move. -/
abbrev Protect := String → Option String → Option String

def protecting (lib : Library) (protect : Protect) : Library :=
  { lib with simpleProtectConfigData := protect }

/-- A device as it was when its document was written, with the protection of that save. -/
structure Saved where
  device : DeviceRecord
  protect : Protect

/-- The save of a cached device. -/
def Saved.of (protect : Protect) (device : CachedDevice) : Saved := ⟨device.record, protect⟩

/-- The document that the save wrote. -/
def Saved.document (lib : Library) (saved : Saved) : Json :=
  deviceToJSON (protecting lib saved.protect) storageContext saved.device

/-- The table `saved` remembers the last save of every stored document. -/
structure Vault where
  db : JsonDatabase
  saved : Table String Saved

/-- `deviceServiceChangeResourceMode` saves a copy that it read before. A restart drops the memory. -/
inductive Move where
  | call (call : Call) (stored : Bool)
  | changeMode (copy : DeviceResource) (newMode : UInt8) (stored : Bool)
  | restart (persist : Bool) (stored : String → Bool)

section
variable (lib : Library)

def performCall (vault : Vault) (protect : Protect) (call : Call) (stored : Bool) : Option Vault :=
  (perform (protecting lib protect) vault.db stored call).map fun outcome =>
    ⟨outcome.2, written (Saved.of protect) vault.db outcome.2 call outcome.1 vault.saved⟩

/-- Every move has its own outcome of the protection. -/
def step (vault : Vault) (input : Move × Protect) : Option Vault :=
  match input.1 with
  | .call call stored => performCall lib vault input.2 call stored
  | .changeMode copy newMode stored =>
      performCall lib vault input.2 (.saveResource (changedCopy copy newMode)) stored
  | .restart persist stored => some
      ⟨JsonDatabase.empty (jsonDatabaseCleanup (protecting lib input.2) vault.db persist stored),
        writtenAtCleanup (Saved.of input.2) vault.db persist stored vault.saved⟩

def run (vault : Vault) (inputs : List (Move × Protect)) : Option Vault := Runs.run (step lib) vault inputs

/-- The saves of one move are the ones that it records in an empty table. -/
def stepSaves (vault : Vault) (input : Move × Protect) : Table String Saved :=
  ((step lib ⟨vault.db, ∅⟩ input).map Vault.saved).getD ∅

end

end Barton.Secrets
