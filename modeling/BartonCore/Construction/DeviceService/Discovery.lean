/-
This file contains the start of a device discovery.
The whole call runs under the lock `discoveryControlMutex`.
-/

import BartonCore.ToMathlib.Cells

namespace Barton.DeviceService

/-- The fields of `DeviceDriver` that a discovery reads. A flag says that a function is not NULL. -/
structure DeviceDriver where
  driverName : String
  neverReject : Bool
  discoverDevices : Bool
  recoverDevices : Bool
  stopDiscoveringDevices : Bool
  deriving DecidableEq

/-- This is `discoveryFilter`. -/
structure DiscoveryFilter where
  uriPattern : String
  valuePattern : String
  deriving DecidableEq

/-- This is `discoverDeviceClassContext` without its lock and condition. -/
structure DiscoverDeviceClassContext where
  deviceClass : String
  timeoutSeconds : UInt16
  findOrphanedDevices : Bool
  filters : Option (List DiscoveryFilter)
  startedDrivers : List DeviceDriver
  deriving DecidableEq

/-- The call has these effects outside the discovery state, in order. -/
inductive Effect where
  | discoveryStarted (deviceClasses : List String) (timeoutSeconds : UInt16) (findOrphanedDevices : Bool)
  /-- `discoverDevices` or `recoverDevices` with its result -/
  | start (driver : DeviceDriver) (deviceClass : String) (started : Bool)
  /-- `stopDiscoveringDevices` -/
  | stop (driver : DeviceDriver) (deviceClass : String)
  | stopped (deviceClass : String) (findOrphanedDevices : Bool)
  /-- a thread that runs `discoveryMonitorThreadProc` -/
  | monitor (context : DiscoverDeviceClassContext)
  deriving DecidableEq

/-- The globals of a discovery. -/
structure Discovery where
  activeDiscoveries : List DiscoverDeviceClassContext
  discoveryTimeoutSeconds : UInt16
  deriving DecidableEq

/-- The answers of the rest of the program during one call. The index is the position of a class in the list
that the code iterates. -/
structure World where
  /-- `deviceDriverManagerGetDeviceDriversByDeviceClass`, which reads a map keyed by the driver name -/
  driversByDeviceClass : String → Option (List DeviceDriver)
  readyForDeviceOperation : Nat → Bool
  /-- `deviceDescriptorsListIsReady` in the validation of a class -/
  descriptorsReady : Nat → Bool
  /-- `deviceDescriptorsListIsReady` before the start of a driver -/
  descriptorsReadyFor : Nat → DeviceDriver → Bool
  /-- the result of `discoverDevices` or `recoverDevices` -/
  starts : Nat → DeviceDriver → Bool
  distinct : ∀ deviceClass drivers, driversByDeviceClass deviceClass = some drivers → drivers.Nodup

/-- The arguments of the call. -/
structure Request where
  deviceClasses : Option (List String)
  filters : Option (List DiscoveryFilter)
  timeoutSeconds : UInt16
  findOrphanedDevices : Bool

section
variable (world : World)

/-- Only the drivers that are never rejected stay while the service is not ready. -/
def getDriversForDiscovery (index : Nat) (deviceClass : String) : Option (List DeviceDriver) :=
  (world.driversByDeviceClass deviceClass).map fun drivers =>
    if world.readyForDeviceOperation index then drivers
    else drivers.filter fun driver => driver.neverReject

def validateDeviceClassForDiscovery (drivers : Option (List DeviceDriver)) (findOrphanedDevices : Bool) :
    Bool :=
  match drivers with
  | none => false
  | some drivers => !drivers.isEmpty &&
      (!findOrphanedDevices || drivers.any fun driver => driver.recoverDevices)

def checkDescriptorReadinessForDiscovery (index : Nat) (drivers : Option (List DeviceDriver)) : Bool :=
  world.descriptorsReady index || (drivers.getD []).any fun driver => driver.neverReject

/-- The first phase collects the classes to start and stops at the first class that cannot be started. -/
def newDeviceClassDiscoveries (active : List DiscoverDeviceClassContext) (findOrphanedDevices : Bool) :
    Nat → List String → Option (List String)
  | _, [] => some []
  | index, deviceClass :: rest =>
      if (Cells.read DiscoverDeviceClassContext.deviceClass deviceClass active).isSome then
        newDeviceClassDiscoveries active findOrphanedDevices (index + 1) rest
      else
        let drivers := getDriversForDiscovery world index deviceClass
        if validateDeviceClassForDiscovery drivers findOrphanedDevices &&
            checkDescriptorReadinessForDiscovery world index drivers then
          (newDeviceClassDiscoveries active findOrphanedDevices (index + 1) rest).map (deviceClass :: ·)
        else none

/-- The driver is asked to start when it is eligible and has the function. -/
def asked (index : Nat) (findOrphanedDevices : Bool) (driver : DeviceDriver) : Bool :=
  (driver.neverReject || world.descriptorsReadyFor index driver) &&
    if findOrphanedDevices then driver.recoverDevices else driver.discoverDevices

/-- The loop over the drivers of one class. -/
def startDrivers (index : Nat) (deviceClass : String) (findOrphanedDevices : Bool) :
    List DeviceDriver → List DeviceDriver × Bool × List Effect
  | [] => ([], false, [])
  | driver :: rest =>
      let (startedDrivers, anyFailed, effects) := startDrivers index deviceClass findOrphanedDevices rest
      if asked world index findOrphanedDevices driver then
        if world.starts index driver then
          (driver :: startedDrivers, anyFailed, .start driver deviceClass true :: effects)
        else (startedDrivers, true, .start driver deviceClass false :: effects)
      else (startedDrivers, anyFailed, effects)

/-- The result is the list of the started drivers and whether a driver failed to start. -/
def startDriverDiscoveryForDeviceClass (index : Nat) (deviceClass : String) (findOrphanedDevices : Bool) :
    List DeviceDriver × Bool × List Effect :=
  startDrivers world index deviceClass findOrphanedDevices
    ((world.driversByDeviceClass deviceClass).getD [])

/-- An entry of the map `startedDriversPerClass`. -/
structure StartedDrivers where
  deviceClass : String
  drivers : List DeviceDriver

/-- `hashMapPut` refuses a key that is present, and the caller drops its result. -/
def putStartedDrivers (map : List StartedDrivers) (entry : StartedDrivers) : List StartedDrivers :=
  if (Cells.read StartedDrivers.deviceClass entry.deviceClass map).isSome then map else map ++ [entry]

/-- The second phase starts the drivers of every new class. -/
def startClasses (findOrphanedDevices : Bool) :
    Nat → List String → List StartedDrivers → List StartedDrivers × Bool × List Effect
  | _, [], map => (map, false, [])
  | index, deviceClass :: rest, map =>
      let (drivers, driverFailed, effects) :=
        startDriverDiscoveryForDeviceClass world index deviceClass findOrphanedDevices
      let (map, anyFailed, later) := startClasses findOrphanedDevices (index + 1) rest
        (putStartedDrivers map ⟨deviceClass, drivers⟩)
      (map, driverFailed || anyFailed, effects ++ later)

/-- The drivers of one class are stopped, and its event is sent. -/
def rollbackClass (findOrphanedDevices : Bool) (entry : StartedDrivers) : List Effect :=
  ((entry.drivers.filter fun driver => driver.stopDiscoveringDevices).map fun driver =>
    .stop driver entry.deviceClass) ++ [.stopped entry.deviceClass findOrphanedDevices]

def rollbackFailedDiscovery (map : List StartedDrivers) (findOrphanedDevices : Bool) : List Effect :=
  map.flatMap (rollbackClass findOrphanedDevices)

/-- The monitor thread of a class owns the drivers that the map holds for the class. -/
def startDiscoveryMonitorForDeviceClass (request : Request) (map : List StartedDrivers)
    (deviceClass : String) : DiscoverDeviceClassContext :=
  ⟨deviceClass, request.timeoutSeconds, request.findOrphanedDevices, request.filters,
    ((Cells.read StartedDrivers.deviceClass deviceClass map).map StartedDrivers.drivers).getD []⟩

/-- `hashMapPut` on `activeDiscoveries`, whose result the caller drops. -/
def putActiveDiscovery (active : List DiscoverDeviceClassContext) (context : DiscoverDeviceClassContext) :
    List DiscoverDeviceClassContext :=
  if (Cells.read DiscoverDeviceClassContext.deviceClass context.deviceClass active).isSome then active
  else active ++ [context]

/-- One monitor is started for every item of the list of new classes. -/
def startDiscoveryMonitors (request : Request) (map : List StartedDrivers) (classes : List String)
    (active : List DiscoverDeviceClassContext) : List DiscoverDeviceClassContext × List Effect :=
  let contexts := classes.map (startDiscoveryMonitorForDeviceClass request map)
  (contexts.foldl putActiveDiscovery active, contexts.map .monitor)

def deviceServiceDiscoverStart (discovery : Discovery) (request : Request) :
    Bool × Discovery × List Effect :=
  match request.deviceClasses with
  | none => (false, discovery, [])
  | some deviceClasses =>
      let discovery := { discovery with discoveryTimeoutSeconds := request.timeoutSeconds }
      match newDeviceClassDiscoveries world discovery.activeDiscoveries request.findOrphanedDevices 0
          deviceClasses with
      | none => (false, discovery, [])
      | some [] => (false, discovery, [])
      | some classes =>
          let started := Effect.discoveryStarted
            (classes ++ discovery.activeDiscoveries.map DiscoverDeviceClassContext.deviceClass)
            request.timeoutSeconds request.findOrphanedDevices
          let (map, anyDriverFailed, effects) := startClasses world request.findOrphanedDevices 0 classes []
          if anyDriverFailed then
            (false, discovery,
              started :: effects ++ rollbackFailedDiscovery map request.findOrphanedDevices)
          else
            let (active, monitors) := startDiscoveryMonitors request map classes discovery.activeDiscoveries
            (true, { discovery with activeDiscoveries := active }, started :: effects ++ monitors)

end

end Barton.DeviceService
