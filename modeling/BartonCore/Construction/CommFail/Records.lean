/-
This file contains the table of monitored devices with the memory behind its pointers.
A result `none` marks an access to a destroyed record.
-/

import Mathlib.Logic.Function.Basic
import BartonCore.Construction.CommFail.Watchdog

namespace Barton.CommFail

/-- The heap holds the records that are not destroyed, and the table maps a uuid to an address. -/
structure Records where
  running : Bool
  fastCommFailTimer : Bool
  heap : Nat → Option MonitoredDeviceInfo
  fresh : Nat
  monitoredDevices : List (String × Nat)

namespace Records

def initial (fastCommFailTimer : Bool) : Records := ⟨true, fastCommFailTimer, fun _ => none, 0, []⟩

/-- This is `calloc` and the fields that it is filled with. The new address is the old value of `fresh`. -/
def allocate (records : Records) (info : MonitoredDeviceInfo) : Records :=
  { records with
    heap := Function.update records.heap records.fresh (some info)
    fresh := records.fresh + 1 }

/-- This is `monitoredDevicesEntryDestroy`. -/
def destroy (records : Records) (address : Nat) : Option Records :=
  (records.heap address).map fun _ => { records with heap := Function.update records.heap address none }

/-- This is `g_hash_table_lookup`. -/
def lookup (records : Records) (uuid : String) : Option Nat :=
  (Cells.read Prod.fst uuid records.monitoredDevices).map Prod.snd

/-- This is `g_hash_table_insert`. The old value of a present key is destroyed, and the result is FALSE. -/
def insert (records : Records) (uuid : String) (address : Nat) : Option (Bool × Records) :=
  match records.lookup uuid with
  | none => some (true, { records with monitoredDevices := records.monitoredDevices ++ [(uuid, address)] })
  | some old => (records.destroy old).map fun destroyed =>
      (false, { destroyed with
        monitoredDevices := Cells.write Prod.fst uuid (fun _ => (uuid, address)) records.monitoredDevices })

/-- This is `g_hash_table_remove`. -/
def remove (records : Records) (uuid : String) : Option Records :=
  match records.lookup uuid with
  | none => some records
  | some address => (records.destroy address).map fun destroyed =>
      { destroyed with monitoredDevices := Cells.delete Prod.fst uuid records.monitoredDevices }

/-- A record that the insertion refuses is destroyed. -/
def monitorDevice (records : Records) (now : UInt64) (uuid : Option String) (commFailTimeoutSeconds : UInt32)
    (inCommFail : Bool) : Option Records :=
  match uuid with
  | none => some records
  | some uuid =>
      if commFailTimeoutSeconds = 0 ∨ records.running = false then some records
      else
        let info := (setMillisUntilCommFail now ⟨uuid, commFailTimeoutSeconds, 0, 0, inCommFail⟩
          (commFailTimeoutSeconds * 1000)).2
        ((records.allocate info).insert uuid records.fresh).bind fun inserted =>
          if inserted.1 then some inserted.2 else inserted.2.destroy records.fresh

/-- A lookup and a change through the pointer that it returns. -/
def changeInfo (records : Records) (uuid : Option String)
    (change : MonitoredDeviceInfo → MonitoredDeviceInfo) : Option Records :=
  match uuid.bind records.lookup with
  | none => some records
  | some address => (records.heap address).map fun info =>
      { records with heap := Function.update records.heap address (some (change info)) }

/-- The loop of the watchdog thread visits every entry of the table. -/
def checkEntries (fastCommFailTimer : Bool) (now : UInt64) (heap : Nat → Option MonitoredDeviceInfo) :
    List (String × Nat) → Option (Nat → Option MonitoredDeviceInfo)
  | [] => some heap
  | entry :: rest => (heap entry.2).bind fun info =>
      checkEntries fastCommFailTimer now
        (Function.update heap entry.2 (some (checkDevice fastCommFailTimer now info))) rest

def perform (records : Records) (now : UInt64) : Action → Option Records
  | .monitor uuid seconds inCommFail => records.monitorDevice now uuid seconds inCommFail
  | .stopMonitoring uuid => records.remove uuid
  | .pet uuid => records.changeInfo uuid (petInfo now)
  | .force uuid => records.changeInfo uuid fun info => { info with inCommFail := true }
  | .setTimeRemainingFromLPM uuid seconds =>
      if seconds < 0 then some records
      else records.changeInfo uuid fun info =>
        if info.inCommFail then info else (setMillisUntilCommFail now info (seconds * 1000).toUInt32).2
  | .check => (checkEntries records.fastCommFailTimer now records.heap records.monitoredDevices).map fun heap =>
      { records with heap }

end Records

end Barton.CommFail
