/-
This file contains the readiness flags of the subsystem manager and the threads that publish and test them.
The table of subsystems is the one that `subsystemManagerInitialize` has moved to the globals.
-/

import BartonCore.ToMathlib.Threads

namespace Barton.Subsystem

/-- The globals of the subsystem manager. -/
structure Manager where
  /-- the keys of `subsystems` in the order of its iterator -/
  subsystems : List String
  /-- the flag `ready` of each registration -/
  ready : String → Bool
  allDriversStarted : Bool
  /-- the callback `readyForDevicesCB` is not NULL -/
  readyForDevicesCB : Bool
  /-- the number of threads that hold the read lock on `mutex` -/
  readers : Nat
  /-- each invocation of the callback with the readiness of the subsystems and of the drivers -/
  invocations : List (Bool × Bool)

/-- The first session starts without a ready subsystem. -/
def Manager.initial (subsystems : List String) (readyForDevicesCB : Bool) : Manager :=
  ⟨subsystems, fun _ => false, false, readyForDevicesCB, 0, []⟩

/-- The registration of an unknown name is not found. -/
def setSubsystemReadyLocked (manager : Manager) (subsystem : Option String) (isReady : Bool) : Manager :=
  match subsystem with
  | none => manager
  | some name =>
      if name ∈ manager.subsystems then
        { manager with ready := Function.update manager.ready name isReady }
      else manager

/-- A call of the manager is at one of these points. -/
inductive Party where
  /-- `onSubsystemInitialized` before it sets the flag -/
  | onSubsystemInitialized (subsystem : Option String)
  /-- `subsystemManagerAllDriversStarted` before it takes the read lock -/
  | allDriversStarted
  /-- the subsystems learn under the read lock that the drivers are started -/
  | notifyAllDriversStarted
  /-- the read lock is released, and the flag `allDriversStarted` is still to be set -/
  | startDrivers
  /-- the own flag is set, and `subsystemManagerIsReadyForDevices` is still to be called -/
  | published
  /-- the loop of `subsystemManagerIsReadyForDevices`, with the registrations that it has not read -/
  | isReadyForDevices (remaining : List String)
  /-- the test was true -/
  | callback
  | returned
  deriving DecidableEq

/-- The callback is invoked if it is set. -/
def readyForDevices (manager : Manager) : Manager :=
  if manager.readyForDevicesCB then
    { manager with invocations := manager.invocations ++
        [(manager.subsystems.all manager.ready, manager.allDriversStarted)] }
  else manager

/-- Each critical section is one move, and the write lock waits for the readers. -/
def move (manager : Manager) (party : Party) (_ : Unit) : Option (Manager × Party) :=
  match party with
  | .onSubsystemInitialized subsystem => some (setSubsystemReadyLocked manager subsystem true, .published)
  | .allDriversStarted => some ({ manager with readers := manager.readers + 1 }, .notifyAllDriversStarted)
  | .notifyAllDriversStarted => some ({ manager with readers := manager.readers - 1 }, .startDrivers)
  | .startDrivers =>
      if manager.readers = 0 then some ({ manager with allDriversStarted := true }, .published) else none
  | .published =>
      some ({ manager with readers := manager.readers + 1 }, .isReadyForDevices manager.subsystems)
  | .isReadyForDevices (name :: rest) =>
      if manager.ready name then some (manager, .isReadyForDevices rest)
      else some ({ manager with readers := manager.readers - 1 }, .returned)
  | .isReadyForDevices [] =>
      some ({ manager with readers := manager.readers - 1 },
        if manager.allDriversStarted then .callback else .returned)
  | .callback => some (readyForDevices manager, .returned)
  | .returned => none

/-- A run interleaves the calls of the threads. -/
def run (start : Threads.Configuration Manager Party) (schedule : List Nat) :
    Option (Threads.Configuration Manager Party) :=
  Threads.run move start (schedule.map fun thread => (thread, ()))

end Barton.Subsystem
