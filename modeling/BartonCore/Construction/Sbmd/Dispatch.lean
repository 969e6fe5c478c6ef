/-
This file contains how a driver registration is read, and the dispatch tables of its handlers. A name of an alias is
kept as the property key of its text.
-/

import BartonCore.Construction.Tlv.Value
import BartonCore.ToMathlib.Buckets
import Mathlib.Data.List.Sort

namespace Barton.Dispatch
open Tlv Buckets

section Properties

def named (name : String) : PropertyKey := .name (units name)

/-- This is `JS_GetPropertyStr`. -/
def getProperty (key : PropertyKey) : JsValue → JsValue
  | .object properties => (ownProperty key properties).getD .undefined
  | .array items => element items.length fun index => items[index]?
  | .bytes content => element content.length fun index => content[index]?.map fun byte => .whole byte.toNat
  | .string text => element text.length fun index => text[index]?.map fun unit => .string [unit]
  | _ => .undefined
where
  element (length : Nat) (read : Nat → Option JsValue) : JsValue :=
    match key with
    | .index index => (read index).getD .undefined
    | .name name => if .name name = named "length" then .whole length else .undefined

/-- This is `Object.keys`. -/
def getObjectKeys : JsValue → List PropertyKey
  | .object properties => properties.map Prod.fst
  | .array items => (List.range items.length).map .index
  | .bytes content => (List.range content.length).map .index
  | .string text => (List.range text.length).map .index
  | _ => []

/-- This is `JS_IsUndefined(value) || JS_IsNull(value)`. -/
def isAbsent : JsValue → Bool
  | .undefined => true
  | .null => true
  | _ => false

variable (toNumber : JsValue → JsNumber) (toName : JsValue → Option PropertyKey)

/-- The parameter is the language conversion of strings and objects. -/
def toUint32 : JsValue → BitVec 32
  | .undefined => 0
  | .null => 0
  | .boolean value => if value then 1 else 0
  | .number value => value.toInt32
  | value => (toNumber value).toInt32

def getUint32Prop (value : JsValue) (name : String) (defaultValue : BitVec 32) : BitVec 32 :=
  let held := getProperty (named name) value
  if isAbsent held then defaultValue else toUint32 toNumber held

def getOptUint32Prop (value : JsValue) (name : String) : Option (BitVec 32) :=
  let held := getProperty (named name) value
  if isAbsent held then none else some (toUint32 toNumber held)

def getArrayLength (value : JsValue) : Nat :=
  match getProperty (named "length") value with
  | .undefined => 0
  | held => (toUint32 toNumber held).toNat

/-- The second parameter is the language conversion of an element to text. -/
def getStringArray (value : JsValue) : List PropertyKey :=
  (List.range (getArrayLength toNumber value)).filterMap fun index => toName (getProperty (.index index) value)

/-- A text ends before its first null character. -/
def PropertyKey.isEmpty : PropertyKey → Bool
  | .index _ => false
  | .name text => text.headD 0 = 0

/-- The field of a registration is not the empty text. -/
def hasText (value : JsValue) : Bool := !isAbsent value && (toName value).any fun text => !PropertyKey.isEmpty text

end Properties

section Registration

structure SbmdAlias where
  clusterId : BitVec 32
  attributeId : Option (BitVec 32)
  eventId : Option (BitVec 32)
  commandId : Option (BitVec 32)
  deriving DecidableEq

structure SbmdDeviceHandler where
  name : PropertyKey
  aliases : List PropertyKey
  deriving DecidableEq

/-- The aliases of a registration by their names. -/
abbrev Aliases := PropertyKey → Option SbmdAlias

structure SbmdRegistration where
  aliases : Aliases
  attributeHandlers : List SbmdDeviceHandler
  eventHandlers : List SbmdDeviceHandler
  commandHandlers : List SbmdDeviceHandler

variable (toNumber : JsValue → JsNumber) (toName : JsValue → Option PropertyKey)

def extractAlias (aliasVal : JsValue) : SbmdAlias where
  clusterId := getUint32Prop toNumber aliasVal "clusterId" 0
  attributeId := getOptUint32Prop toNumber aliasVal "attributeId"
  eventId := getOptUint32Prop toNumber aliasVal "eventId"
  commandId := getOptUint32Prop toNumber aliasVal "commandId"

def extractAliases (aliasesObj : JsValue) : Aliases :=
  (getObjectKeys aliasesObj).foldl (fun aliases name =>
    let aliasVal := getProperty name aliasesObj
    if isAbsent aliasVal then aliases
    else Function.update aliases name (some (extractAlias toNumber aliasVal))) fun _ => none

/-- A handler without a function fails the registration. -/
def extractDeviceHandlers (handlersObj : JsValue) : List PropertyKey → Option (List SbmdDeviceHandler)
  | [] => some []
  | name :: rest =>
      let handlerObj := getProperty name handlersObj
      if isAbsent handlerObj then extractDeviceHandlers handlersObj rest
      else
        match getProperty (named "handler") handlerObj with
        | .function =>
            let aliasesVal := getProperty (named "aliases") handlerObj
            let aliases := if isAbsent aliasesVal then [] else getStringArray toNumber toName aliasesVal
            (extractDeviceHandlers handlersObj rest).map fun handlers => ⟨name, aliases⟩ :: handlers
        | _ => none

def extractHandlers (registration : JsValue) (name : String) : Option (List SbmdDeviceHandler) :=
  let handlersObj := getProperty (named name) registration
  if isAbsent handlersObj then some []
  else extractDeviceHandlers toNumber toName handlersObj (getObjectKeys handlersObj)

/-- These are the fields that `ExtractMetadata` requires. -/
def hasMetadata (registration : JsValue) : Bool :=
  hasText toName (getProperty (named "name") registration) &&
    hasText toName (getProperty (named "schemaVersion") registration)

/-- The parts of the registration that are dispatched. -/
def extractRegistration (registration : JsValue) : Option SbmdRegistration := do
  guard (hasMetadata toName registration)
  let aliasesVal := getProperty (named "aliases") registration
  let aliases := if isAbsent aliasesVal then fun _ => none else extractAliases toNumber aliasesVal
  let attributeHandlers ← extractHandlers toNumber toName registration "attributeHandlers"
  let eventHandlers ← extractHandlers toNumber toName registration "eventHandlers"
  let commandHandlers ← extractHandlers toNumber toName registration "commandHandlers"
  return ⟨aliases, attributeHandlers, eventHandlers, commandHandlers⟩

end Registration

section Table

inductive HandlerPriority where
  | single
  | multi
  | wildcard
  deriving DecidableEq

/-- The order of the priorities. -/
def HandlerPriority.rank : HandlerPriority → Nat
  | .single => 0
  | .multi => 1
  | .wildcard => 2

/-- An entry points to a handler by its index. -/
structure DispatchEntry where
  handler : Nat
  priority : HandlerPriority
  deriving DecidableEq

structure DispatchKey where
  clusterId : BitVec 32
  elementId : BitVec 32
  deriving DecidableEq

structure SbmdDispatchTable where
  specificTable : List (DispatchKey × List DispatchEntry)
  wildcardTable : List (BitVec 32 × List DispatchEntry)
  deriving DecidableEq

def SbmdDispatchTable.empty : SbmdDispatchTable := ⟨[], []⟩

/-- The element id is whichever id is set. -/
def SbmdAlias.elementId (entry : SbmdAlias) : Option (BitVec 32) :=
  entry.attributeId.or (entry.eventId.or entry.commandId)

def SbmdDeviceHandler.priority (handler : SbmdDeviceHandler) : HandlerPriority :=
  if handler.aliases.length = 1 then .single else .multi

/-- An alias that names no element goes to the wildcards of its cluster, and an unknown alias is skipped. -/
def fileAlias (aliases : Aliases) (entry : DispatchEntry) (table : SbmdDispatchTable) (aliasName : PropertyKey) :
    SbmdDispatchTable :=
  match aliases aliasName with
  | none => table
  | some found =>
      match found.elementId with
      | none => { table with
          wildcardTable := pushBack found.clusterId ⟨entry.handler, .wildcard⟩ table.wildcardTable }
      | some elementId => { table with
          specificTable := pushBack ⟨found.clusterId, elementId⟩ entry table.specificTable }

def fileHandler (aliases : Aliases) (table : SbmdDispatchTable) (indexed : SbmdDeviceHandler × Nat) :
    SbmdDispatchTable :=
  indexed.1.aliases.foldl (fileAlias aliases ⟨indexed.2, indexed.1.priority⟩) table

/-- The sort keeps the order of entries of one priority. -/
def sortEntries (entries : List DispatchEntry) : List DispatchEntry :=
  entries.insertionSort fun first second => first.priority.rank ≤ second.priority.rank

def build (aliases : Aliases) (handlers : List SbmdDeviceHandler) : SbmdDispatchTable :=
  let table := handlers.zipIdx.foldl (fileHandler aliases) .empty
  { table with specificTable := mapBuckets sortEntries table.specificTable }

def lookup (table : SbmdDispatchTable) (clusterId elementId : BitVec 32) : List DispatchEntry :=
  bucket ⟨clusterId, elementId⟩ table.specificTable ++ bucket clusterId table.wildcardTable

def getRegisteredClusterIds (table : SbmdDispatchTable) : Finset (BitVec 32) :=
  (table.specificTable.map fun entry => entry.1.clusterId).toFinset ∪ (table.wildcardTable.map Prod.fst).toFinset

end Table

/-- A driver has a table for attributes, one for events and one for commands. -/
inductive Kind where
  | attributes
  | events
  | commands
  deriving DecidableEq

def SbmdRegistration.handlers (registration : SbmdRegistration) : Kind → List SbmdDeviceHandler
  | .attributes => registration.attributeHandlers
  | .events => registration.eventHandlers
  | .commands => registration.commandHandlers

/-- The tables are built when the driver is activated. -/
def activate (registration : SbmdRegistration) (kind : Kind) : SbmdDispatchTable :=
  build registration.aliases (registration.handlers kind)

end Barton.Dispatch
