/-
This file contains the changes of resources by `updateResource` and `deviceServiceChangeResourceMode`.
Each call of the database is one move of a thread.
-/

import BartonCore.ToMathlib.Threads
import BartonCore.Construction.Database.Queries

namespace Barton.Resources
open Database

/-- This is the bit `RESOURCE_MODE_EMIT_EVENTS`. -/
def resourceModeEmitEvents : UInt8 := (1 : UInt8) <<< 5

/-- The arguments of `updateResource`. -/
structure ResourceUpdate where
  deviceUuid : Option String
  endpointId : Option String
  resourceId : Option String
  newValue : Option String
  metadata : Option Json

/-- The arguments of `sendResourceUpdatedEvent`. -/
structure ResourceUpdated where
  resource : DeviceResource
  metadata : Option Json

/-- A save changes the value or the mode of a resource on purpose. -/
inductive Change where
  | value (newValue : Option String)
  | mode (mode : UInt8)
  deriving DecidableEq

/-- A saved change with the addresses of the resource that it was written to. -/
structure Save where
  target : Address × Address
  change : Change
  deriving DecidableEq

/-- The database with the saved changes and the events so far. -/
structure Service where
  db : JsonDatabase
  saves : List Save
  events : List ResourceUpdated

/-- A frame is the rest of a call between two calls of the database. -/
inductive Frame where
  | update (call : ResourceUpdate)
  | store (call : ResourceUpdate) (resource : DeviceResource)
  | changeMode (uri : Option String) (newMode : UInt8)
  | findResource (uri : String) (newMode : UInt8)
  | findEndpoint (uri : String) (newMode : UInt8)
  | findDevice (uri : String) (endpoint : DeviceEndpoint) (newMode : UInt8)
  | findInherited (altUri : String) (newMode : UInt8)
  | storeMode (resource : DeviceResource) (newMode : UInt8)
  | send (event : ResourceUpdated)
  | returned (result : Bool)

/-- The clock and the outcome of the storage during one move. -/
structure Outcome where
  now : UInt64
  stored : Bool

/-- The update of the contact date starts another `updateResource` call. -/
def updateDeviceDateLastContacted (deviceUuid : Option String) (now : UInt64) : ResourceUpdate :=
  ⟨deviceUuid, none, some "dateLastContacted", some (toString now.toNat), none⟩

/-- The first part of `updateResource` reads a copy of the resource. -/
def updateResource (lib : Library) (db : JsonDatabase) (call : ResourceUpdate) (now : UInt64) :
    Option (List Frame) :=
  match call.deviceUuid, call.resourceId with
  | some _, some _ =>
      (jsonDatabaseGetResourceByUri db
        (resourceUriCreate lib call.deviceUuid call.endpointId call.resourceId)).map fun found =>
        match found with
        | none => []
        | some resource =>
            if resource.cachingPolicy = cachingPolicyNever ∧ resource.mode &&& resourceModeEmitEvents ≠ 0 then
              [.update (updateDeviceDateLastContacted call.deviceUuid now),
                .send ⟨{ resource with value := call.newValue }, call.metadata⟩]
            else [.store call resource]
  | _, _ => some []

/-- A saved change is recorded when the URI of the copy still locates a resource. -/
def Service.record (service : Service) (db : JsonDatabase) (resource : DeviceResource)
    (change : Change) : Service :=
  { service with
    db := db
    saves := service.saves ++ (service.db.locateResource resource.uri).toList.map (⟨·, change⟩) }

/-- The copy that `updateResource` saves. -/
def updatedCopy (call : ResourceUpdate) (resource : DeviceResource) (now : UInt64) : DeviceResource :=
  { resource with value := call.newValue, dateOfLastSyncMillis := now }

/-- The second part of `updateResource` saves the whole copy when its value differs. -/
def storeValue (lib : Library) (service : Service) (call : ResourceUpdate) (resource : DeviceResource)
    (outcome : Outcome) : Option (Service × List Frame) :=
  if resource.value = call.newValue then
    (jsonDatabaseUpdateDateOfLastSyncMillis service.db resource outcome.now).map fun saved =>
      ({ service with db := saved.2 }, [])
  else
    let copy := updatedCopy call resource outcome.now
    (jsonDatabaseSaveResource lib service.db copy outcome.stored).map fun saved =>
      (service.record saved.2 copy (.value call.newValue),
        if copy.mode &&& resourceModeEmitEvents = 0 then [] else [.send ⟨copy, call.metadata⟩])

/-- The sensitive bit of the copy is kept. -/
def modeToStore (resource : DeviceResource) (newMode : UInt8) : UInt8 :=
  if resource.mode &&& resourceModeSensitive ≠ 0 ∧ newMode &&& resourceModeSensitive = 0 then
    newMode ||| resourceModeSensitive
  else newMode

/-- The copy that `deviceServiceChangeResourceMode` saves. -/
def changedCopy (resource : DeviceResource) (newMode : UInt8) : DeviceResource :=
  { resource with mode := modeToStore resource newMode }

/-- The last part of `deviceServiceChangeResourceMode` saves the whole copy and drops the result. -/
def storeMode (lib : Library) (service : Service) (resource : DeviceResource) (newMode : UInt8)
    (outcome : Outcome) : Option (Service × List Frame) :=
  let copy := changedCopy resource newMode
  (jsonDatabaseSaveResource lib service.db copy outcome.stored).map fun saved =>
    (service.record saved.2 copy (.mode copy.mode), [.send ⟨copy, none⟩, .returned true])

/-- The text `uri + strlen(endpoint->uri)` behind the URI of the device, which faults past the end. -/
def inheritedUri (uri : String) (endpoint : DeviceEndpoint) (device : DeviceRecord) : Option String := do
  let endpointUri ← endpoint.uri
  let deviceUri ← device.uri
  if uri.length < endpointUri.length then none
  else return deviceUri ++ String.ofList (uri.toList.drop endpointUri.length)

/-- The parts of `deviceServiceChangeResourceMode` before its save only read the database. -/
def findResource (db : JsonDatabase) : Frame → Option (List Frame)
  | .changeMode none _ => some [.returned false]
  | .changeMode (some uri) newMode => (jsonDatabaseIsUriAccessible db uri).map fun accessible =>
      if accessible then [.findResource uri newMode] else [.returned false]
  | .findResource uri newMode => (jsonDatabaseGetResourceByUri db uri).map fun found =>
      match found with
      | some resource => [.storeMode resource newMode]
      | none => [.findEndpoint uri newMode]
  | .findEndpoint uri newMode => (jsonDatabaseGetEndpointByUri db uri).map fun found =>
      match found with
      | some endpoint => [.findDevice uri endpoint newMode]
      | none => [.returned false]
  | .findDevice uri endpoint newMode =>
      match jsonDatabaseGetDeviceById db endpoint.deviceUuid with
      | some device => (inheritedUri uri endpoint device).map fun altUri => [.findInherited altUri newMode]
      | none => some [.returned false]
  | .findInherited altUri newMode => (jsonDatabaseGetResourceByUri db altUri).map fun found =>
      match found with
      | some resource => [.storeMode resource newMode]
      | none => [.returned false]
  | _ => none

/-- The frame on top of a thread makes one call of the database or sends one event. -/
def frameMove (lib : Library) (service : Service) (frame : Frame) (outcome : Outcome) :
    Option (Service × List Frame) :=
  match frame with
  | .update call => (updateResource lib service.db call outcome.now).map fun frames => (service, frames)
  | .store call resource => storeValue lib service call resource outcome
  | .storeMode resource newMode => storeMode lib service resource newMode outcome
  | .send event => some ({ service with events := service.events ++ [event] }, [])
  | .returned _ => none
  | frame => (findResource service.db frame).map fun frames => (service, frames)

/-- A thread is a stack of frames. -/
def move (lib : Library) (service : Service) (thread : List Frame) (outcome : Outcome) :
    Option (Service × List Frame) :=
  match thread with
  | [] => none
  | frame :: rest => (frameMove lib service frame outcome).map fun moved => (moved.1, moved.2 ++ rest)

/-- A run interleaves the calls of the threads. -/
def run (lib : Library) (start : Threads.Configuration Service (List Frame))
    (schedule : List (Nat × Outcome)) : Option (Threads.Configuration Service (List Frame)) :=
  Threads.run (move lib) start schedule

end Barton.Resources
