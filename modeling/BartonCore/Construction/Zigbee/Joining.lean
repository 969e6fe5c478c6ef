/-
This file contains the handling of joins and announces by the Zigbee event handler. Each critical section and each
call of the subsystem is one move of the thread that runs the callback.
-/

import BartonCore.ToMathlib.Threads

namespace Barton.ZigbeeJoining

/-- This is `zhalDeviceType`. -/
inductive DeviceType where
  | unknown
  | endDevice
  | router
  deriving DecidableEq

/-- This is `zhalPowerSource`. -/
inductive PowerSource where
  | unknown
  | mains
  | battery
  deriving DecidableEq

structure AnnouncedDevice where
  hasJoined : Bool
  deviceType : DeviceType
  powerSource : PowerSource
  deriving DecidableEq

/-- A new entry is allocated by `calloc`. -/
def AnnouncedDevice.new : AnnouncedDevice := ⟨false, .unknown, .unknown⟩

/-- These fields of `IcDiscoveredDeviceDetails` are written by the event handler and the discovery. -/
structure DeviceDetails where
  eui64 : UInt64
  deviceType : DeviceType
  powerSource : PowerSource
  deriving DecidableEq

/-- The maps of the event handler. There is no map `devicesProcessed` outside a discovery session. -/
structure EventHandler where
  announcedDevices : UInt64 → Option AnnouncedDevice
  devicesProcessed : Option (UInt64 → Bool)

/-- A call of one of the registered callbacks. -/
inductive Callback where
  | deviceJoined (eui64 : UInt64)
  | deviceAnnounced (eui64 : UInt64) (deviceType : DeviceType) (powerSource : PowerSource)
  deriving DecidableEq

def Callback.eui64 : Callback → UInt64
  | .deviceJoined eui64 => eui64
  | .deviceAnnounced eui64 _ _ => eui64

/-- A call of the Zigbee subsystem. -/
inductive Effect where
  | discoverDeviceDetails (eui64 : UInt64)
  | deviceDiscovered (details : DeviceDetails)
  | deviceAnnounced (eui64 : UInt64) (deviceType : DeviceType) (powerSource : PowerSource)
  | requestDeviceLeave (eui64 : UInt64)
  deriving DecidableEq

section Sections
variable (handler : EventHandler) (eui64 : UInt64)

/-- A join leaves the bits of the announce, and an announce overwrites them. -/
def AnnouncedDevice.update (entry : AnnouncedDevice) : Callback → AnnouncedDevice
  | .deviceJoined _ => { entry with hasJoined := true }
  | .deviceAnnounced _ deviceType powerSource =>
      { entry with deviceType := deviceType, powerSource := powerSource }

def AnnouncedDevice.isComplete (entry : AnnouncedDevice) : Bool :=
  entry.deviceType ≠ .unknown && entry.powerSource ≠ .unknown && entry.hasJoined

/-- The result says whether the entry is complete. -/
def saveJoinAnnounceInfo (callback : Callback) : Bool × EventHandler :=
  let entry := ((handler.announcedDevices callback.eui64).getD .new).update callback
  (entry.isComplete, { handler with
    announcedDevices := Function.update handler.announcedDevices callback.eui64 (some entry) })

def clearJoinAnnounceInfo : EventHandler :=
  { handler with announcedDevices := Function.update handler.announcedDevices eui64 none }

/-- The first section of `processNewDevice` goes on when the device is not in the map. A put into a NULL map fails. -/
def markProcessed : Bool × EventHandler :=
  match handler.devicesProcessed with
  | none => (true, handler)
  | some processed =>
      if processed eui64 then (false, handler)
      else (true, { handler with devicesProcessed := some (Function.update processed eui64 true) })

def deleteProcessed : EventHandler :=
  { handler with
    devicesProcessed := handler.devicesProcessed.map fun processed => Function.update processed eui64 false }

/-- The details take the bits of the announce when its entry is still there. -/
def copyAnnounceInfo (details : DeviceDetails) : DeviceDetails :=
  match handler.announcedDevices details.eui64 with
  | none => details
  | some entry => { details with deviceType := entry.deviceType, powerSource := entry.powerSource }

/-- This is `zigbeeEventHandlerDiscoveryRunning(true)`. -/
def startRunning : EventHandler := { handler with devicesProcessed := some fun _ => false }

/-- This is the first section of `zigbeeEventHandlerDiscoveryRunning(false)`. -/
def destroyProcessed : EventHandler := { handler with devicesProcessed := none }

/-- This is the second section of `zigbeeEventHandlerDiscoveryRunning(false)`. -/
def clearAnnounced : EventHandler := { handler with announcedDevices := fun _ => none }

end Sections

/-- The handler with the callbacks whose information was saved and the calls of the subsystem so far. -/
structure Shared where
  handler : EventHandler
  arrivals : List Callback
  effects : List Effect

/-- What the device service answers and whether the discovery of the details succeeds. -/
structure Answers where
  known : Bool
  repairing : Bool
  previouslyRejected : Bool
  previouslyFailedToPair : Bool
  details : Bool
  deriving DecidableEq

/-- The thread of a callback is at one of these points. -/
inductive Thread where
  /-- the callback is called -/
  | created (callback : Callback)
  | deleteFailed (callback : Callback)
  | saveJoinAnnounceInfo (callback : Callback)
  | processNewDevice (eui64 : UInt64)
  | discoverDeviceDetails (eui64 : UInt64)
  | copyAnnounceInfo (details : DeviceDetails)
  | clearJoinAnnounceInfo (details : DeviceDetails)
  | deviceDiscovered (details : DeviceDetails)
  /-- the discovery of the details has failed -/
  | deleteProcessed (eui64 : UInt64)
  | clearForgotten (eui64 : UInt64)
  | requestDeviceLeave (eui64 : UInt64)
  | deviceAnnounced (eui64 : UInt64) (deviceType : DeviceType) (powerSource : PowerSource)
  | returned
  deriving DecidableEq

/-- The first part of `deviceAnnounced` and of `deviceJoined` asks the device service. -/
def askDeviceService (callback : Callback) (answers : Answers) : Thread :=
  match callback with
  | .deviceAnnounced eui64 deviceType powerSource =>
      if answers.known && !answers.repairing then .deviceAnnounced eui64 deviceType powerSource
      else if !answers.known && answers.repairing then .returned
      else .saveJoinAnnounceInfo callback
  | .deviceJoined eui64 =>
      if answers.previouslyRejected then .requestDeviceLeave eui64
      else if answers.known && !answers.repairing then .returned
      else if !answers.known && answers.repairing then .requestDeviceLeave eui64
      else if answers.previouslyFailedToPair then .deleteFailed callback
      else .saveJoinAnnounceInfo callback

def Shared.emit (shared : Shared) (effect : Effect) : Shared :=
  { shared with effects := shared.effects ++ [effect] }

def move (shared : Shared) (thread : Thread) (answers : Answers) : Option (Shared × Thread) :=
  match thread with
  | .created callback => some (shared, askDeviceService callback answers)
  | .deleteFailed callback =>
      some ({ shared with handler := deleteProcessed shared.handler callback.eui64 },
        .saveJoinAnnounceInfo callback)
  | .saveJoinAnnounceInfo callback =>
      let saved := saveJoinAnnounceInfo shared.handler callback
      some ({ shared with handler := saved.2, arrivals := shared.arrivals ++ [callback] },
        if saved.1 then .processNewDevice callback.eui64 else .returned)
  | .processNewDevice eui64 =>
      let marked := markProcessed shared.handler eui64
      some ({ shared with handler := marked.2 },
        if marked.1 then .discoverDeviceDetails eui64 else .returned)
  | .discoverDeviceDetails eui64 =>
      some (shared.emit (.discoverDeviceDetails eui64),
        if answers.details then .copyAnnounceInfo ⟨eui64, .unknown, .unknown⟩ else .deleteProcessed eui64)
  | .copyAnnounceInfo details => some (shared, .clearJoinAnnounceInfo (copyAnnounceInfo shared.handler details))
  | .clearJoinAnnounceInfo details =>
      some ({ shared with handler := clearJoinAnnounceInfo shared.handler details.eui64 },
        .deviceDiscovered details)
  | .deviceDiscovered details => some (shared.emit (.deviceDiscovered details), .returned)
  | .deleteProcessed eui64 =>
      some ({ shared with handler := deleteProcessed shared.handler eui64 }, .clearForgotten eui64)
  | .clearForgotten eui64 =>
      some ({ shared with handler := clearJoinAnnounceInfo shared.handler eui64 }, .requestDeviceLeave eui64)
  | .requestDeviceLeave eui64 => some (shared.emit (.requestDeviceLeave eui64), .returned)
  | .deviceAnnounced eui64 deviceType powerSource =>
      some (shared.emit (.deviceAnnounced eui64 deviceType powerSource), .returned)
  | .returned => none

/-- A discovery session begins, and the threads of its callbacks are created. -/
def session (before : EventHandler) (callbacks : List Callback) : Threads.Configuration Shared Thread :=
  ⟨⟨startRunning before, [], []⟩, callbacks.map .created⟩

/-- A run interleaves the callbacks of one session. -/
def run (before : EventHandler) (callbacks : List Callback) (schedule : List (Nat × Answers)) :
    Option (Threads.Configuration Shared Thread) :=
  Threads.run move (session before callbacks) schedule

end Barton.ZigbeeJoining
