/-
This file contains the invocation of handlers: the supplements that a handler gets, its operations, and the dispatch
of device reports. Texts have no null character.
-/

import BartonCore.Construction.Sbmd.Dispatch
import BartonCore.Construction.Sbmd.Results
import BartonCore.ToMathlib.Expiry

namespace Barton.Invocations
open Results
open PersistentData (ResultOp FetchedSupplement populate)
open Dispatch (DispatchEntry Kind SbmdRegistration)

section TransientStore

/-- A key belongs to a device, so the map of maps is one map. The clock counts nanoseconds. -/
abbrev TransientStore := Expiry.Store (String × String) String Nat

def setTransientData (deviceUuid key value : String) (ttlSecs : UInt32) (now : Nat) :
    TransientStore → TransientStore :=
  Expiry.write (deviceUuid, key) ⟨value, now + ttlSecs.toNat * 1000000000⟩

def getTransientData (deviceUuid key : String) (now : Nat) : TransientStore → Option String × TransientStore :=
  Expiry.read (deviceUuid, key) now

end TransientStore

section Supplements

/-- The categories of supplements. -/
inductive Category where
  | attributes
  | resources
  | persistentData
  | transientData
  deriving DecidableEq

/-- This is the key of the category in the wire contract. -/
def Category.key : Category → String
  | .attributes => "attributes"
  | .resources => "resources"
  | .persistentData => "persistentData"
  | .transientData => "transientData"

/-- This is `SbmdSupplements`. -/
abbrev SbmdSupplements := Category → List String

/-- This is `FetchedSupplements`. -/
abbrev FetchedSupplements := Category → List FetchedSupplement

/-- This is the assignment of a property of an object. -/
def setProperty (name : String) (value : Value) : List (String × Value) → List (String × Value)
  | [] => [(name, value)]
  | (other, held) :: rest =>
      if other = name then (name, value) :: rest else (other, held) :: setProperty name value rest

/-- A declared key is a text or `null`. -/
def supplementValue (value : Option String) : Value :=
  match value with
  | some text => .string (Tlv.units text)
  | none => .null

/-- These are the properties of a category after its declared keys are set. -/
def populated (declaredKeys : List String) (fetched : List FetchedSupplement) : List (String × Value) :=
  declaredKeys.foldl (fun properties key => setProperty key (supplementValue (populate fetched key)) properties) []

/-- A category without declared keys is left out. -/
def addCategory (declared : SbmdSupplements) (fetched : FetchedSupplements) (supplements : List (String × Value))
    (category : Category) : List (String × Value) :=
  if (declared category).isEmpty then supplements
  else setProperty category.key (.object (populated (declared category) (fetched category))) supplements

/-- This is `AddSupplements`. -/
def addSupplements (declared : SbmdSupplements) (fetched : FetchedSupplements) (args : List (String × Value)) :
    List (String × Value) :=
  let categories : List Category := [.attributes, .resources, .persistentData, .transientData]
  if categories.all fun category => (declared category).isEmpty then args
  else setProperty "supplements" (.object (categories.foldl (addCategory declared fetched) [])) args

end Supplements

section Arguments

structure HandlerContext where
  deviceUuid : String
  endpointId : String
  clusterFeatureMaps : List (UInt32 × UInt32)

/-- A number of the driver. -/
def Value.uint32 (value : UInt32) : Value := .whole value.toNat

def buildBaseArgs (hctx : HandlerContext) : List (String × Value) :=
  [("deviceUuid", .string (Tlv.units hctx.deviceUuid)), ("endpointId", .string (Tlv.units hctx.endpointId)),
    ("clusterFeatureMaps", .object (hctx.clusterFeatureMaps.foldl
      (fun maps entry => setProperty (toString entry.1) (Value.uint32 entry.2) maps) []))]

/-- The three triggers name an element of a cluster. An empty payload is left out. -/
def buildTriggerArgs (triggerKey idKey : String) (hctx : HandlerContext) (clusterId elementId : UInt32)
    (tlvBase64 : String) : List (String × Value) :=
  setProperty triggerKey (.object ([("clusterId", Value.uint32 clusterId), (idKey, Value.uint32 elementId)] ++
    if tlvBase64 = "" then [] else [("tlvBase64", .string (Tlv.units tlvBase64))])) (buildBaseArgs hctx)

def buildAttributeArgs := buildTriggerArgs "attribute" "attributeId"

def buildEventArgs := buildTriggerArgs "event" "eventId"

def buildCommandArgs := buildTriggerArgs "command" "commandId"

def buildResourceArgs (hctx : HandlerContext) (resourceId : String) (input : Option String) : List (String × Value) :=
  setProperty "resource" (.object [("resourceId", .string (Tlv.units resourceId)), ("input", supplementValue input)])
    (buildBaseArgs hctx)

end Arguments

section Runs

/-- The driver calls a function of the script with these arguments. -/
structure Invocation where
  handler : Nat
  deviceUuid : String
  supplements : SbmdSupplements
  /-- the device is known, so that the supplements are fetched -/
  prefetched : Bool
  /-- the arguments without supplements -/
  args : List (String × Value)

/-- The effects of an invocation. -/
inductive Effect where
  /-- `GetTransientData` returned a value -/
  | fetched (deviceUuid key : String) (now : Nat) (value : Option String)
  | invoked (handler : Nat) (args : Value)
  | stored (deviceUuid key value : String) (ttlSecs : UInt32) (now : Nat)
  /-- an operation on the device service, or a log message -/
  | executed (deviceUuid : String) (op : ResultOp)

/-- The other components answer at the given point of the run. -/
structure Environment where
  engine : Engine
  /-- the readings of the clock in order -/
  clock : Nat → Nat
  /-- the value that an invocation returns, or none if it throws or runs out of time -/
  script : Nat → Nat → Value → Option Value
  /-- the fetchers for attributes, resources and persistent data -/
  fetcher : Nat → Category → String → Option String

structure World where
  store : TransientStore
  /-- the number of clock readings so far -/
  readings : Nat
  /-- the number of invocations so far -/
  invocations : Nat
  log : List Effect

def World.initial : World := ⟨fun _ => none, 0, 0, []⟩

variable (environment : Environment)

/-- A transient fetch reads the clock and the store. -/
def fetchTransient (deviceUuid : String) (fetched : World × List FetchedSupplement) (key : String) :
    World × List FetchedSupplement :=
  let world := fetched.1
  let now := environment.clock world.readings
  let (value, store) := getTransientData deviceUuid key now world.store
  ({ world with
      store := store
      readings := world.readings + 1
      log := world.log ++ [.fetched deviceUuid key now value] },
    fetched.2 ++ [⟨key, value⟩])

/-- This is `PrefetchSupplements`. -/
def prefetchSupplements (deviceUuid : String) (supplements : SbmdSupplements) (world : World) :
    World × FetchedSupplements :=
  let transient := (supplements .transientData).foldl (fetchTransient environment deviceUuid) (world, [])
  (transient.1, fun category =>
    if category = .transientData then transient.2
    else (supplements category).map fun key => ⟨key, environment.fetcher world.invocations category key⟩)

/-- This is one turn of the loop of `ExecuteOps`. -/
def executeOp (deviceUuid : String) (world : World) : ResultOp → World
  | .setTransientData key value ttlSecs =>
      let now := environment.clock world.readings
      { world with
        store := setTransientData deviceUuid key value ttlSecs now world.store
        readings := world.readings + 1
        log := world.log ++ [.stored deviceUuid key value ttlSecs now] }
  | op => { world with log := world.log ++ [.executed deviceUuid op] }

/-- This is `ExecuteOps`. -/
def executeOps (deviceUuid : String) (ops : List ResultOp) (world : World) : World :=
  ops.foldl (executeOp environment deviceUuid) world

/-- A handler gets its supplements and is called, and the operations of its result are executed. A handler without a
result has no operations. -/
def invokeHandler (invocation : Invocation) (world : World) : World × Option ParsedResult :=
  let (world, fetched) :=
    if invocation.prefetched then
      prefetchSupplements environment invocation.deviceUuid invocation.supplements world
    else (world, fun _ => [])
  let args := Value.object (addSupplements invocation.supplements fetched invocation.args)
  let result := (environment.script world.invocations invocation.handler args).bind (parse environment.engine)
  let called := { world with
    invocations := world.invocations + 1
    log := world.log ++ [.invoked invocation.handler args] }
  match result with
  | none => (called, none)
  | some parsed => (executeOps environment invocation.deviceUuid parsed.ops called, some parsed)

/-- The invocations follow each other on the Matter thread. -/
def invokeAll (invocations : List Invocation) (world : World) : World :=
  invocations.foldl (fun world invocation => (invokeHandler environment invocation world).1) world

end Runs

section Reports

/-- A loaded driver has tables of handlers, each with its function and its supplements. -/
structure SbmdDriver where
  registration : SbmdRegistration
  functions : Kind → Nat → Nat
  supplements : Kind → Nat → SbmdSupplements
  activated : Bool

/-- A device reports an attribute, an event or a command. The payload is missing if it could not be encoded. -/
structure Report where
  kind : Kind
  deviceId : String
  endpointId : UInt16
  clusterId : UInt32
  elementId : UInt32
  payload : Option String
  /-- the cached feature maps of a known device -/
  device : Option (List (UInt32 × UInt32))

/-- An attribute or event with an empty payload is ignored. -/
def Report.tlvBase64 (report : Report) : Option String :=
  match report.kind with
  | .commands => report.payload
  | _ => report.payload.filter fun text => text ≠ ""

def Report.context (report : Report) : HandlerContext where
  deviceUuid := report.deviceId
  endpointId := toString report.endpointId
  clusterFeatureMaps := report.device.getD []

def Report.buildArgs (report : Report) (tlvBase64 : String) : List (String × Value) :=
  match report.kind with
  | .attributes => buildAttributeArgs report.context report.clusterId report.elementId tlvBase64
  | .events => buildEventArgs report.context report.clusterId report.elementId tlvBase64
  | .commands => buildCommandArgs report.context report.clusterId report.elementId tlvBase64

/-- The table of the driver selects the entries. -/
def matchingEntries (driver : SbmdDriver) (report : Report) : List DispatchEntry :=
  Dispatch.lookup (Dispatch.activate driver.registration report.kind) report.clusterId.toBitVec
    report.elementId.toBitVec

/-- This is one turn of the loop of `DispatchToHandlers`. -/
def entryInvocation (driver : SbmdDriver) (report : Report) (tlvBase64 : String) (entry : DispatchEntry) :
    Invocation where
  handler := driver.functions report.kind entry.handler
  deviceUuid := report.deviceId
  supplements := driver.supplements report.kind entry.handler
  prefetched := report.device.isSome
  args := report.buildArgs tlvBase64

/-- These are the invocations of `HandleAttributeReport`, `HandleEvent` and `HandleCommand`. -/
def reportInvocations (driver : SbmdDriver) (report : Report) : List Invocation :=
  if driver.activated then
    match report.tlvBase64 with
    | none => []
    | some tlvBase64 => (matchingEntries driver report).map (entryInvocation driver report tlvBase64)
  else []

/-- A report executes only operations. Every terminal is ignored. -/
def handleReport (environment : Environment) (driver : SbmdDriver) (world : World) (report : Report) : World :=
  invokeAll environment (reportInvocations driver report) world

end Reports
end Barton.Invocations
