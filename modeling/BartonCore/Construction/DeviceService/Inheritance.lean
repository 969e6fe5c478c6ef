/-
This file contains the reads and the executions of resources, and the mode change of one caller.
A result `none` marks an access through a NULL or dangling pointer, and an inner `none` is a NULL result.
-/

import BartonCore.Construction.DeviceService.UriPatterns

namespace Barton.Inheritance
open Database Resources UriPatterns

/-- This is the bit `RESOURCE_MODE_EXECUTABLE`. -/
def resourceModeExecutable : UInt8 := (1 : UInt8) <<< 2

/-- The read of a driver gets the resource and returns a value on success. -/
abbrev ReadResource := JsonDatabase → DeviceResource → Option (Option (Option String) × JsonDatabase)

/-- The execution of a driver gets the resource and the argument, and it returns a response. -/
abbrev ExecuteResource := JsonDatabase → DeviceResource → Option String → Option (Bool × Option String × JsonDatabase)

/-- These are the functions of a driver that work on one resource. -/
structure ResourceDriver where
  readResource : Option ReadResource
  executeResource : Option ExecuteResource
  subsystemName : Option String

/-- This is `deviceDriverManagerGetDeviceDriver`. -/
abbrev ResourceDrivers := Option String → Option ResourceDriver

section
variable (db : JsonDatabase) (drivers : ResourceDrivers)

/-- This is `getDeviceDriverForUri`. -/
def driverForUri (uri : String) : Option (Option ResourceDriver) :=
  (deviceServiceGetDeviceByUri db uri).map fun device =>
    device.bind fun device => drivers device.managingDeviceDriver

/-- The driver replaces the value of a resource that is never cached. -/
def deviceServiceGetResourceByUri (uri : Option String) : Option (Option DeviceResource × JsonDatabase) :=
  match uri with
  | none => some (none, db)
  | some uri => (deviceServiceIsUriAccessible db (some uri)).bind fun accessible =>
      if accessible then
        (resourceOrInherited db uri).bind fun found =>
          match found with
          | none => some (none, db)
          | some result =>
              if result.cachingPolicy = cachingPolicyNever ∧ result.mode &&& resourceModeReadable ≠ 0 then
                (driverForUri db drivers uri).bind fun driver =>
                  match driver.bind ResourceDriver.readResource with
                  | none => some (none, db)
                  | some readResource => (readResource db result).map fun answer =>
                      (answer.1.map fun value => { result with value }, answer.2)
              else some (some result, db)
      else some (none, db)

/-- The contact date of a driver without a subsystem is updated by another call of `updateResource`. -/
structure Execution where
  result : Bool
  response : Option String
  db : JsonDatabase
  contacted : Option (Option String)

def deviceServiceExecuteResource (uri arg : Option String) : Option Execution :=
  match uri with
  | none => some ⟨false, none, db, none⟩
  | some uri => (deviceServiceIsUriAccessible db (some uri)).bind fun accessible =>
      if accessible then
        (resourceOrInherited db uri).bind fun found =>
          match found with
          | none => some ⟨false, none, db, none⟩
          | some resource =>
              if resource.mode &&& resourceModeExecutable = 0 then some ⟨false, none, db, none⟩
              else (driverForUri db drivers uri).bind fun driver =>
                match driver with
                | none => some ⟨false, none, db, none⟩
                | some driver =>
                    match driver.executeResource with
                    | none => some ⟨false, none, db, none⟩
                    | some executeResource => (executeResource db resource arg).map fun answer =>
                        ⟨answer.1, answer.2.1, answer.2.2,
                          if driver.subsystemName.isNone && answer.1 then some resource.deviceUuid else none⟩
      else some ⟨false, none, db, none⟩

end

/-- A thread has returned when only its result is left. -/
def returned : List Frame → Option Bool
  | [.returned result] => some result
  | _ => none

/-- A thread that moves alone ends with its result. -/
def finish (lib : Library) (outcome : Outcome) : Nat → Service → List Frame → Option (Bool × Service)
  | 0, _, _ => none
  | moves + 1, service, thread =>
      match returned thread with
      | some result => some (result, service)
      | none => (move lib service thread outcome).bind fun moved => finish lib outcome moves moved.1 moved.2

/-- The mode change of one caller returns after at most seven moves. -/
def deviceServiceChangeResourceMode (lib : Library) (service : Service) (uri : Option String) (newMode : UInt8)
    (outcome : Outcome) : Option (Bool × Service) :=
  finish lib outcome 8 service [.changeMode uri newMode]

end Barton.Inheritance
