/-
This file contains the devices of an SBMD driver and the registration of their resources.
-/

import BartonCore.Construction.DeviceService.Inheritance
import BartonCore.Construction.Sbmd.Invocations
import BartonCore.Construction.Sbmd.Prerequisites

namespace Barton.Registration
open Database Endpoints Invocations
open Inheritance (resourceModeExecutable)
open PersistentData (ResultOp)
open Resources (resourceModeEmitEvents)
open UriPatterns (resourceModeWriteable)

section Specs

/-- A handler is a function of the script with its declared supplements. -/
structure SbmdHandler where
  function : Nat
  supplements : SbmdSupplements

structure SbmdResource extends Prerequisites.SbmdResource where
  id : String
  type : String
  modes : List String
  optional : Bool
  seed : Option SbmdHandler
  read : Option SbmdHandler
  execute : Option SbmdHandler

structure SbmdEndpoint where
  id : String
  profile : String
  profileVersion : UInt32
  resources : List SbmdResource

/-- This is the part of `SbmdDriver` that decides the resources of its devices. The loader reads the endpoints from the
keys of an object, so that their ids are distinct. -/
structure SbmdDriver where
  deviceTypes : List UInt16
  endpoints : List SbmdEndpoint
  activated : Bool
  distinct : (endpoints.map SbmdEndpoint.id).Nodup

/-- The set of skipped resources has this key for a resource. -/
def resourceKey (endpointId resourceId : String) : String := endpointId ++ ":" ++ resourceId

end Specs

section Modes

/-- This is the bit `RESOURCE_MODE_DYNAMIC_CAPABLE`. -/
def resourceModeDynamicCapable : UInt8 := (1 : UInt8) <<< 3

/-- This is the bit `RESOURCE_MODE_DYNAMIC`. -/
def resourceModeDynamic : UInt8 := (1 : UInt8) <<< 4

/-- This is one turn of the loop of `ConvertModesToBitmask`. -/
def convertMode (bitmask : UInt8) (mode : String) : Option UInt8 :=
  if mode = "read" then some (bitmask ||| resourceModeReadable)
  else if mode = "write" then some (bitmask ||| resourceModeWriteable)
  else if mode = "execute" then some (bitmask ||| resourceModeExecutable)
  else if mode = "dynamic" ∨ mode = "emitEvents" then some bitmask
  else if mode = "static" then some (bitmask &&& ~~~(resourceModeDynamic ||| resourceModeDynamicCapable))
  else if mode = "noEvents" then some (bitmask &&& ~~~resourceModeEmitEvents)
  else if mode = "lazySaveNext" then some (bitmask ||| resourceModeLazySaveNext)
  else if mode = "sensitive" then some (bitmask ||| resourceModeSensitive)
  else if mode = "volatile" then some bitmask
  else none

def convertModesToBitmask (modes : List String) : Option UInt8 :=
  modes.foldlM convertMode (resourceModeDynamic ||| resourceModeDynamicCapable ||| resourceModeEmitEvents)

end Modes

section Devices

/-- The driver keeps its devices and the keys of the optional resources that a device does not get. -/
structure Devices where
  devices : String → Option MatterDevice
  skippedOptionalResources : String → Option (List String)

def Devices.initial : Devices := ⟨fun _ => none, fun _ => none⟩

/-- The result is false if a required resource does not meet its prerequisites. -/
def checkResource (device : MatterDevice) (endpointId : String) (resource : SbmdResource)
    (skipped : Option (List String)) : Bool × Option (List String) :=
  if Prerequisites.checkPrerequisites resource.toSbmdResource device then (true, skipped)
  else if resource.optional then (true, some ((skipped.getD []).insert (resourceKey endpointId resource.id)))
  else (false, skipped)

/-- The loop stops at the first required resource without its prerequisites. -/
def checkResources (device : MatterDevice) (endpointId : String) :
    List SbmdResource → Option (List String) → Bool × Option (List String)
  | [], skipped => (true, skipped)
  | resource :: rest, skipped =>
      let (met, skipped) := checkResource device endpointId resource skipped
      if met then checkResources device endpointId rest skipped else (false, skipped)

def checkEndpoints (device : MatterDevice) : List SbmdEndpoint → Option (List String) → Bool × Option (List String)
  | [], skipped => (true, skipped)
  | endpoint :: rest, skipped =>
      let (met, skipped) := checkResources device endpoint.id endpoint.resources skipped
      if met then checkEndpoints device rest skipped else (false, skipped)

variable (driver : SbmdDriver)

/-- A device that is already there stays, and the new one is dropped. -/
def addDevice (uuid : String) (device : MatterDevice) (state : Devices) : Bool × Devices :=
  let (resolved, device) := device.resolveEndpointMap driver.deviceTypes
  if resolved then
    let (met, skipped) := checkEndpoints device driver.endpoints (state.skippedOptionalResources uuid)
    let checked := { state with
      skippedOptionalResources := Function.update state.skippedOptionalResources uuid skipped }
    if met then
      match state.devices uuid with
      | some _ => (false, checked)
      | none => (true, { checked with devices := Function.update state.devices uuid (some device) })
    else (false, checked)
  else (false, state)

/-- The cache is absent if it could not be started. -/
def addDeviceIfRequired (uuid : String) (cache : Option DeviceDataCache) (state : Devices) : Bool × Devices :=
  match state.devices uuid with
  | some _ => (true, state)
  | none =>
      match cache with
      | none => (false, state)
      | some cache => addDevice driver uuid ⟨some cache, ∅⟩ state

def doConfigureDevice (uuid : String) (state : Devices) : Bool × Devices :=
  match state.devices uuid with
  | none => (false, state)
  | some device =>
      let (resolved, device) := device.resolveEndpointMap driver.deviceTypes
      let resolvedState := { state with devices := Function.update state.devices uuid (some device) }
      if resolved then
        let (met, skipped) := checkEndpoints device driver.endpoints none
        (met, { resolvedState with
          skippedOptionalResources := Function.update state.skippedOptionalResources uuid skipped })
      else (false, resolvedState)

/-- The conditions of a configuration: the cache of a new device, a connection, and the success of the writes that go
with it. -/
structure Connection where
  cache : Option DeviceDataCache
  connected : Bool
  acknowledged : Bool

def configureDevice (uuid : String) (connection : Connection) (state : Devices) : Bool × Devices :=
  let (added, state) := addDeviceIfRequired driver uuid connection.cache state
  if added && connection.connected then
    let (configured, state) := doConfigureDevice driver uuid state
    (configured && connection.acknowledged, state)
  else (false, state)

/-- These are the events in the life of the devices. -/
inductive Step where
  /-- the commissioning has finished -/
  | add (uuid : String) (device : MatterDevice)
  | configure (uuid : String) (connection : Connection)
  | synchronize (uuid : String) (cache : Option DeviceDataCache)
  /-- a report of the device has changed the cached data -/
  | report (uuid : String) (cache : DeviceDataCache)
  | remove (uuid : String)
  | shutdown

def step (state : Devices) : Step → Devices
  | .add uuid device => (addDevice driver uuid device state).2
  | .configure uuid connection => (configureDevice driver uuid connection state).2
  | .synchronize uuid cache => (addDeviceIfRequired driver uuid cache state).2
  | .report uuid cache =>
      { state with
        devices := Function.update state.devices uuid <| (state.devices uuid).map fun device =>
          { device with deviceDataCache := some cache } }
  | .remove uuid => { state with devices := Function.update state.devices uuid none }
  | .shutdown => { state with devices := fun _ => none }

def run (state : Devices) (steps : List Step) : Devices := steps.foldl (step driver) state

end Devices

section Helpers

def createEndpoint (deviceUuid id profile : String) (enabled : Bool) : DeviceEndpoint where
  id := some id
  uri := none
  profile := some profile
  profileVersion := 0
  deviceUuid := some deviceUuid
  enabled := enabled
  resources := []
  metadata := []

/-- This is `createDeviceResourceOnList` without the list. -/
def createDeviceResource (endpointId : Option String) (resourceId : String) (deviceUuid value : Option String)
    (type : String) (mode : UInt8) (cachingPolicy : Int32) : Option DeviceResource :=
  if mode = 0 then none
  else
    some {
      id := some resourceId
      uri := none
      endpointId := endpointId
      deviceUuid := deviceUuid
      value := value
      type := some type
      mode := if mode &&& resourceModeDynamic ≠ 0 then mode ||| resourceModeDynamicCapable else mode
      cachingPolicy := cachingPolicy
      dateOfLastSyncMillis := 0 }

def createEndpointResource (endpoint : DeviceEndpoint) (resourceId : String) (value : Option String) (type : String)
    (mode : UInt8) (cachingPolicy : Int32) : Option DeviceEndpoint :=
  (createDeviceResource endpoint.id resourceId endpoint.deviceUuid value type mode cachingPolicy).map fun resource =>
    { endpoint with resources := endpoint.resources ++ [resource] }

end Helpers

section Resources
variable (environment : Environment) (driver : SbmdDriver) (uuid : String) (prefetched : Bool)

/-- This is the value of `CACHING_POLICY_ALWAYS`. -/
def cachingPolicyAlways : Int32 := 1

/-- The first update of the resource counts, for whatever endpoint it is. -/
def updatedValue (resourceId : String) : List ResultOp → String
  | [] => ""
  | .updateResource _ resource value _ :: rest => if resource = resourceId then value else updatedValue resourceId rest
  | _ :: rest => updatedValue resourceId rest

def seedInvocation (endpointId resourceId : String) (seed : SbmdHandler) : Invocation where
  handler := seed.function
  deviceUuid := uuid
  supplements := seed.supplements
  prefetched := prefetched
  args := buildResourceArgs ⟨uuid, endpointId, []⟩ resourceId none

def invokeSeedHandler (endpointId : String) (resource : SbmdResource) (world : World) : World × String :=
  match resource.seed with
  | none => (world, "")
  | some seed =>
      if driver.activated then
        let (world, result) :=
          invokeHandler environment (seedInvocation uuid prefetched endpointId resource.id seed) world
        match result with
        | none => (world, "")
        | some parsed => (world, updatedValue resource.id parsed.ops)
      else (world, "")

/-- This is the state of the loops. An endpoint that has been created is known by its position in the device. -/
structure Registering where
  result : Bool
  device : DeviceRecord
  icEndpoints : String → Option Nat
  world : World

/-- The first resource of an endpoint creates it. -/
def provideEndpoint (endpoint : SbmdEndpoint) (registering : Registering) : Registering × Nat :=
  match registering.icEndpoints endpoint.id with
  | some position => (registering, position)
  | none =>
      let created := { createEndpoint uuid endpoint.id endpoint.profile true with
        profileVersion := endpoint.profileVersion.toUInt8 }
      let position := registering.device.endpoints.length
      ({ registering with
        device := { registering.device with endpoints := registering.device.endpoints ++ [created] }
        icEndpoints := Function.update registering.icEndpoints endpoint.id (some position) }, position)

/-- This is one turn of the loops of `DoRegisterDriverResources`. -/
def registerResource (skipped : Option (List String)) (endpoint : SbmdEndpoint) (registering : Registering)
    (resource : SbmdResource) : Registering :=
  if (skipped.getD []).contains (resourceKey endpoint.id resource.id) then registering
  else
    let (provided, position) := provideEndpoint uuid endpoint registering
    match convertModesToBitmask resource.modes with
    | none => { provided with result := false }
    | some bitmask =>
        let resourceMode := if resource.execute.isSome then bitmask ||| resourceModeExecutable else bitmask
        let isVolatile := resource.modes.contains "volatile"
        let cachingPolicy := if resource.read.isSome || isVolatile then cachingPolicyNever else cachingPolicyAlways
        let (world, seedValue) := invokeSeedHandler environment driver uuid prefetched endpoint.id resource provided.world
        let initialValue := if seedValue = "" then none else some seedValue
        match provided.device.endpoints[position]?.bind fun ep =>
            createEndpointResource ep resource.id initialValue resource.type resourceMode cachingPolicy with
        | none => { provided with result := false, world := world }
        | some ep =>
            { provided with
              device := { provided.device with endpoints := provided.device.endpoints.set position ep }
              world := world }

/-- A device without a UUID faults. -/
def doRegisterDriverResources (state : Devices) (device : DeviceRecord) (world : World) : Option Registering :=
  device.uuid.map fun uuid =>
    driver.endpoints.foldl (fun registering endpoint =>
      endpoint.resources.foldl
        (registerResource environment driver uuid (state.devices uuid).isSome (state.skippedOptionalResources uuid) endpoint)
        registering)
      ⟨true, device, fun _ => none, world⟩

end Resources
end Barton.Registration
