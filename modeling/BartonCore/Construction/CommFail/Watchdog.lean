/-
This file contains the watchdog that decides when a device is in comm fail.
The watchdog is initialized, and a step reads the monotonic clock once.
-/

import BartonCore.ToMathlib.Cells
import BartonCore.ToMathlib.Threads

namespace Barton.CommFail

/-- This is `MonitoredDeviceInfo`. -/
structure MonitoredDeviceInfo where
  uuid : String
  commFailTimeoutSeconds : UInt32
  commFailTimeRemainingMillis : UInt32
  commFailRemainingLastSyncMillis : UInt64
  inCommFail : Bool
  deriving DecidableEq

/-- The globals of the watchdog. The keys of `monitoredDevices` are the uuids of the infos. -/
structure Watchdog where
  running : Bool
  fastCommFailTimer : Bool
  monitoredDevices : List MonitoredDeviceInfo
  deriving DecidableEq

/-- A callback to the device service. -/
inductive Callback where
  | failed (uuid : String)
  | restored (uuid : String)
  deriving DecidableEq

/-- This is `MIN_UPDATE_INTERVAL_MILLIS`. -/
def minUpdateIntervalMillis : UInt64 := 5000

/-- The watchdog after its initialization. -/
def Watchdog.initial (fastCommFailTimer : Bool) : Watchdog := ⟨true, fastCommFailTimer, []⟩

/-- This is `g_hash_table_lookup` on `monitoredDevices`. -/
def Watchdog.info (watchdog : Watchdog) (uuid : String) : Option MonitoredDeviceInfo :=
  Cells.read MonitoredDeviceInfo.uuid uuid watchdog.monitoredDevices

/-- This update writes through the pointer to an info. -/
def Watchdog.updateInfo (watchdog : Watchdog) (uuid : String)
    (update : MonitoredDeviceInfo → MonitoredDeviceInfo) : Watchdog :=
  { watchdog with
    monitoredDevices := Cells.write MonitoredDeviceInfo.uuid uuid update watchdog.monitoredDevices }

def getMillisUntilCommFail (now : UInt64) (info : MonitoredDeviceInfo) : UInt32 :=
  let millisSinceLastCheck := now - info.commFailRemainingLastSyncMillis
  if millisSinceLastCheck < info.commFailTimeRemainingMillis.toUInt64 then
    (info.commFailTimeRemainingMillis.toUInt64 - millisSinceLastCheck).toUInt32
  else 0

/-- The result is the time since the last synchronization. -/
def setMillisUntilCommFail (now : UInt64) (info : MonitoredDeviceInfo) (millisUntilCommFail : UInt32) :
    UInt64 × MonitoredDeviceInfo :=
  (now - info.commFailRemainingLastSyncMillis, { info with
    commFailRemainingLastSyncMillis := now
    commFailTimeRemainingMillis := millisUntilCommFail })

/-- A device that is monitored already leaves a freed info in the table, which is a fault. -/
def monitorDevice (watchdog : Watchdog) (now : UInt64) (uuid : Option String)
    (commFailTimeoutSeconds : UInt32) (inCommFail : Bool) : Option Watchdog :=
  match uuid with
  | none => some watchdog
  | some uuid =>
      if commFailTimeoutSeconds = 0 ∨ watchdog.running = false then some watchdog
      else if (watchdog.info uuid).isSome then none
      else
        let info := (setMillisUntilCommFail now ⟨uuid, commFailTimeoutSeconds, 0, 0, inCommFail⟩
          (commFailTimeoutSeconds * 1000)).2
        some { watchdog with monitoredDevices := watchdog.monitoredDevices ++ [info] }

def stopMonitoringDevice (watchdog : Watchdog) (uuid : String) : Watchdog :=
  { watchdog with
    monitoredDevices := Cells.delete MonitoredDeviceInfo.uuid uuid watchdog.monitoredDevices }

/-- A pet grants the timeout of the device again and takes it out of comm fail. -/
def petInfo (now : UInt64) (info : MonitoredDeviceInfo) : MonitoredDeviceInfo :=
  { (setMillisUntilCommFail now info (info.commFailTimeoutSeconds * 1000)).2 with inCommFail := false }

/-- The critical section of a pet, the callbacks that it decides, and the devices whose contact date it
updates. -/
def petDevice (watchdog : Watchdog) (now : UInt64) (uuid : Option String) :
    Watchdog × List Callback × List String :=
  match uuid.bind watchdog.info with
  | none => (watchdog, [], [])
  | some info =>
      let diffMillis := (setMillisUntilCommFail now info (info.commFailTimeoutSeconds * 1000)).1
      (watchdog.updateInfo info.uuid (petInfo now),
        if info.inCommFail then [.restored info.uuid] else [],
        if minUpdateIntervalMillis ≤ diffMillis then [info.uuid] else [])

/-- The critical section of a forced failure and the callbacks that it decides. -/
def forceDeviceInCommFail (watchdog : Watchdog) (uuid : Option String) : Watchdog × List Callback :=
  match uuid.bind watchdog.info with
  | none => (watchdog, [])
  | some info =>
      if info.inCommFail then (watchdog, [])
      else (watchdog.updateInfo info.uuid fun info => { info with inCommFail := true },
        [.failed info.uuid])

/-- The seconds are a C `int32_t`. -/
def setTimeRemainingForDeviceFromLPM (watchdog : Watchdog) (now : UInt64) (uuid : Option String)
    (commFailTimeRemainingSeconds : Int32) : Watchdog :=
  if commFailTimeRemainingSeconds < 0 then watchdog
  else
    match uuid.bind watchdog.info with
    | none => watchdog
    | some info =>
        if info.inCommFail then watchdog
        else watchdog.updateInfo info.uuid fun info =>
          (setMillisUntilCommFail now info (commFailTimeRemainingSeconds * 1000).toUInt32).2

/-- The difference of the seconds wraps and is read as signed. A delay that reads as shorter than the timeout is
ignored. -/
def getRemainingCommFailTimeoutForLPM (watchdog : Watchdog) (now : UInt64) (uuid : Option String)
    (commFailDelaySeconds : UInt32) : Int32 :=
  match uuid.bind watchdog.info with
  | none => -1
  | some info =>
      if info.inCommFail then -1
      else
        let secsUntilCommFail := (getMillisUntilCommFail now info / 1000).toInt32
        let secsDelayDiff := (commFailDelaySeconds - info.commFailTimeoutSeconds).toInt32
        if 0 ≤ secsDelayDiff then secsUntilCommFail + secsDelayDiff else secsUntilCommFail

/-- The loop body of the watchdog thread rewrites the remaining time of a device. -/
def checkDevice (fastCommFailTimer : Bool) (now : UInt64) (info : MonitoredDeviceInfo) :
    MonitoredDeviceInfo :=
  let millisUntilCommFail := getMillisUntilCommFail now info
  let millisUntilCommFail := if fastCommFailTimer then millisUntilCommFail / 100 else millisUntilCommFail
  (setMillisUntilCommFail now
    { info with inCommFail := info.inCommFail || millisUntilCommFail == 0 } millisUntilCommFail).2

/-- The loop body of the watchdog thread reports a device that enters comm fail. -/
def entersCommFail (fastCommFailTimer : Bool) (now : UInt64) (info : MonitoredDeviceInfo) : Bool :=
  !info.inCommFail && (checkDevice fastCommFailTimer now info).inCommFail

/-- The critical section of the watchdog thread and the callbacks that it decides. -/
def checkDevices (watchdog : Watchdog) (now : UInt64) : Watchdog × List Callback :=
  ({ watchdog with
      monitoredDevices := watchdog.monitoredDevices.map (checkDevice watchdog.fastCommFailTimer now) },
    (watchdog.monitoredDevices.filter (entersCommFail watchdog.fastCommFailTimer now)).map
      fun info => .failed info.uuid)

inductive Action where
  | monitor (uuid : Option String) (commFailTimeoutSeconds : UInt32) (inCommFail : Bool)
  | stopMonitoring (uuid : String)
  | pet (uuid : Option String)
  | force (uuid : Option String)
  | setTimeRemainingFromLPM (uuid : Option String) (commFailTimeRemainingSeconds : Int32)
  | check

def perform (watchdog : Watchdog) (now : UInt64) : Action → Option Watchdog
  | .monitor uuid seconds inCommFail => monitorDevice watchdog now uuid seconds inCommFail
  | .stopMonitoring uuid => some (stopMonitoringDevice watchdog uuid)
  | .pet uuid => some (petDevice watchdog now uuid).1
  | .force uuid => some (forceDeviceInCommFail watchdog uuid).1
  | .setTimeRemainingFromLPM uuid seconds =>
      some (setTimeRemainingForDeviceFromLPM watchdog now uuid seconds)
  | .check => some (checkDevices watchdog now).1

/-- The watchdog and the last time that a step has read from the monotonic clock. -/
structure Clocked where
  clock : UInt64
  watchdog : Watchdog

/-- The monotonic clock does not go back. -/
def step (state : Clocked) (input : UInt64 × Action) : Option Clocked :=
  if input.1 < state.clock then none
  else (perform state.watchdog input.1 input.2).map fun watchdog => ⟨input.1, watchdog⟩

def run (state : Clocked) (inputs : List (UInt64 × Action)) : Option Clocked := Runs.run step state inputs

end Barton.CommFail
