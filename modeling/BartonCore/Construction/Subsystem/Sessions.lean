/-
This file contains the sessions of the subsystem manager in one process.
-/

import BartonCore.Construction.Subsystem.Manager

namespace Barton.Sessions
open Subsystem

/-- The callback was invoked or the test of the readiness was true. The flag says that
`subsystemManagerAllDriversStarted` was called before in the same session. -/
inductive Observation where
  | invoked (called : Bool)
  | ready (called : Bool)
  deriving DecidableEq

def Observation.called : Observation → Bool
  | .invoked called => called
  | .ready called => called

/-- The globals of the subsystem manager. A NULL table has no subsystems. -/
structure Process where
  manager : Manager
  /-- `subsystems` is not NULL -/
  tableSet : Bool
  subsystemManagerInitialized : Bool
  /-- `subsystemManagerAllDriversStarted` was called in this session -/
  called : Bool
  observations : List Observation

def Process.initial : Process :=
  ⟨.initial [] false, false, false, false, []⟩

/-- A call is at one of these points. -/
inductive Call where
  /-- a notification of a subsystem or of the drivers -/
  | party (party : Party)
  /-- `onSubsystemDeinitialized` before it clears the flag -/
  | onSubsystemDeinitialized (subsystem : Option String)
  /-- with the subsystems that are registered and not disabled -/
  | subsystemManagerInitialize (subsystems : List String) (readyForDevicesCB : Bool)
  /-- the local table is ready -/
  | publish (subsystems : List String) (readyForDevicesCB : Bool)
  /-- the table is global, and the read lock is still to be taken -/
  | initializeSubsystems
  /-- the loop under the read lock, with the subsystems that it has not reached -/
  | initializeSubsystem (remaining : List String)
  | shutdown
  /-- `subsystemManagerIsReadyForDevices` from another module -/
  | isReadyForDevices
  /-- its loop, with the registrations that it has not read -/
  | testSubsystems (remaining : List String)
  | returned
  deriving DecidableEq

section
variable (process : Process)

/-- The new table has only registrations that are not ready. -/
def publish (subsystems : List String) (readyForDevicesCB : Bool) : Process :=
  { process with
    manager := { process.manager with
      subsystems := subsystems
      ready := fun _ => false
      readyForDevicesCB := readyForDevicesCB }
    tableSet := true
    subsystemManagerInitialized := true
    called := false }

/-- The flag `allDriversStarted` stays as it is. -/
def subsystemManagerShutdown : Process :=
  if process.subsystemManagerInitialized then
    { process with
      manager := { process.manager with subsystems := [], readyForDevicesCB := false }
      tableSet := false
      subsystemManagerInitialized := false }
  else process

/-- The move of a notification. The test of the readiness and `subsystemManagerAllDriversStarted` return at once
when the table is NULL. -/
def moveParty (party : Party) : Option (Process × Call) :=
  match party with
  | .allDriversStarted =>
      if process.tableSet then
        (Subsystem.move process.manager party ()).map fun moved =>
          ({ process with manager := moved.1, called := true }, .party moved.2)
      else some (process, .returned)
  | .published =>
      if process.tableSet then
        (Subsystem.move process.manager party ()).map fun moved =>
          ({ process with manager := moved.1 }, .party moved.2)
      else some (process, .returned)
  | .isReadyForDevices [] =>
      (Subsystem.move process.manager party ()).map fun moved =>
        ({ process with
          manager := moved.1
          observations := if process.manager.allDriversStarted then
            process.observations ++ [.ready process.called] else process.observations }, .party moved.2)
  | .callback =>
      (Subsystem.move process.manager party ()).map fun moved =>
        ({ process with
          manager := moved.1
          observations := if process.manager.readyForDevicesCB then
            process.observations ++ [.invoked process.called] else process.observations }, .party moved.2)
  | _ =>
      (Subsystem.move process.manager party ()).map fun moved =>
        ({ process with manager := moved.1 }, .party moved.2)

/-- The read lock is taken. -/
def lockForReading : Process :=
  { process with manager := { process.manager with readers := process.manager.readers + 1 } }

/-- The read lock is released. -/
def unlockForReading : Process :=
  { process with manager := { process.manager with readers := process.manager.readers - 1 } }

/-- Each critical section is one move, and the write lock waits for the readers. -/
def move (call : Call) (_ : Unit) : Option (Process × Call) :=
  match call with
  | .party party => moveParty process party
  | .onSubsystemDeinitialized subsystem =>
      some ({ process with manager := setSubsystemReadyLocked process.manager subsystem false }, .returned)
  | .subsystemManagerInitialize subsystems readyForDevicesCB =>
      if process.manager.readers = 0 then
        if process.subsystemManagerInitialized then some (process, .returned)
        else some ({ process with
            manager := { process.manager with subsystems := [] }
            tableSet := false }, .publish subsystems readyForDevicesCB)
      else none
  | .publish subsystems readyForDevicesCB =>
      if process.manager.readers = 0 then
        some (publish process subsystems readyForDevicesCB, .initializeSubsystems)
      else none
  | .initializeSubsystems =>
      if process.tableSet then
        some (lockForReading process, .initializeSubsystem process.manager.subsystems)
      else some (process, .returned)
  | .initializeSubsystem (name :: rest) =>
      some ({ process with manager := setSubsystemReadyLocked process.manager (some name) false },
        .initializeSubsystem rest)
  | .initializeSubsystem [] => some (unlockForReading process, .returned)
  | .shutdown =>
      if process.manager.readers = 0 then some (subsystemManagerShutdown process, .returned) else none
  | .isReadyForDevices =>
      if process.tableSet then some (lockForReading process, .testSubsystems process.manager.subsystems)
      else some (process, .returned)
  | .testSubsystems (name :: rest) =>
      if process.manager.ready name then some (process, .testSubsystems rest)
      else some (unlockForReading process, .returned)
  | .testSubsystems [] =>
      some ({ unlockForReading process with
        observations := if process.manager.allDriversStarted then
          process.observations ++ [.ready process.called] else process.observations }, .returned)
  | .returned => none

end

/-- A run interleaves the calls of all sessions. -/
def run (start : Threads.Configuration Process Call) (schedule : List Nat) :
    Option (Threads.Configuration Process Call) :=
  Threads.run move start (schedule.map fun thread => (thread, ()))

end Barton.Sessions
