/-
This file contains the result builder of the handlers, and how the driver parses a result.
-/

import BartonCore.Construction.Sbmd.PersistentData
import BartonCore.Construction.Sbmd.Script
import BartonCore.Construction.Tlv.Value

namespace Barton.Results
open Tlv (JsNumber JsString units)
open PersistentData (ResultOp)
open Sbmd (Callbacks CommandData AttributeData Terminal)

section Values

/-- A function is known by its handle. An object lists its own properties by their names. -/
inductive Value where
  | undefined
  | null
  | boolean (value : Bool)
  | number (value : JsNumber)
  | string (text : JsString)
  | function (handle : Nat)
  | array (items : List Value)
  | object (properties : List (String × Value))

/-- The conversions of the language, and the handle of a value that is rooted. -/
structure Engine where
  /-- `JS_ToCString` with the copy to a `std::string`, which fails for a conversion that throws -/
  toCString : Value → Option String
  /-- a text without a null character is its own copy -/
  toCString_units : ∀ text : String, Char.ofNat 0 ∉ text.toList → toCString (.string (units text)) = some text
  /-- `JS_ToUint32` of a string, a function, an array or an object -/
  toNumber : Value → JsNumber
  /-- `JSON.stringify`, which throws or returns a string or `undefined` -/
  stringify : Value → Except JsString Value
  /-- the message of an access to a property of `null` -/
  nullError : JsString
  /-- the value that a `SafeJSValue` holds -/
  root : Value → Nat

/-- This is the test `value === undefined`. -/
def Value.isUndefined : Value → Bool
  | .undefined => true
  | _ => false

/-- This is the test `value === undefined || value === null`. -/
def Value.isAbsent : Value → Bool
  | .undefined => true
  | .null => true
  | _ => false

/-- A fraction is true unless it holds no number. -/
def truthyNumber : JsNumber → Bool
  | .integral (.finite value) => value ≠ 0
  | .integral (.infinite _) => true
  | .fraction bits => Tlv.exponent bits ≠ 2047

/-- This is the condition of an `if` or of the operator `||`. -/
def Value.truthy : Value → Bool
  | .undefined => false
  | .null => false
  | .boolean value => value
  | .number value => truthyNumber value
  | .string text => text ≠ []
  | _ => true

/-- This is the value of an own property. -/
def lookUp (name : String) : List (String × Value) → Value
  | [] => .undefined
  | (other, value) :: rest => if other = name then value else lookUp name rest

/-- This is the number of a list length. -/
def Value.whole (value : Nat) : Value := .number (.integral (.finite value))

/-- This is `JS_GetPropertyStr` for a value other than `undefined` and `null`. -/
def property (name : String) : Value → Value
  | .object properties => lookUp name properties
  | .array items => if name = "length" then .whole items.length else .undefined
  | .string text => if name = "length" then .whole text.length else .undefined
  | _ => .undefined

/-- This is `JS_GetPropertyUint32`. -/
def propertyAt (index : Nat) : Value → Value
  | .object properties => lookUp (toString index) properties
  | .array items => items[index]?.getD .undefined
  | .string text => (text[index]?.map fun unit => .string [unit]).getD .undefined
  | _ => .undefined

end Values

section Builder

/-- A result of the script refers to the operations of its builder. -/
structure ResultBuilder where
  ops : List Value
  terminal : Value
  sealed : Bool

/-- This is `Sbmd.result()`. -/
def ResultBuilder.new : ResultBuilder := ⟨[], .null, false⟩

/-- A handler can return the builder in place of a result. -/
def ResultBuilder.value (builder : ResultBuilder) : Value :=
  .object [("_ops", .array builder.ops), ("_terminal", builder.terminal), ("_sealed", .boolean builder.sealed)]

/-- The builder throws this message when it is sealed. -/
def sealedMessage : JsString := units "Cannot add operations after a terminal"

/-- A method returns the builder or the terminal of a result, or it throws. -/
inductive Outcome where
  | builder
  | result (terminal : Value)
  | threw (message : JsString)

namespace ResultBuilder

/-- This is `_addOp`. -/
def addOp (builder : ResultBuilder) (op : List (String × Value)) : ResultBuilder × Outcome :=
  if builder.sealed then (builder, .threw sealedMessage)
  else ({ builder with ops := builder.ops ++ [.object op] }, .builder)

/-- This is `_setTerminal`. -/
def setTerminal (builder : ResultBuilder) (terminal : List (String × Value)) : ResultBuilder × Outcome :=
  if builder.sealed then (builder, .threw sealedMessage)
  else ({ builder with terminal := .object terminal, sealed := true }, .result (.object terminal))

end ResultBuilder

/-- The driver reads a result after the handler has returned. Its operations are those of the builder then. -/
def ResultBuilder.read (builder : ResultBuilder) (terminal : Value) : Value :=
  .object [("ops", .array builder.ops), ("terminal", terminal)]

/-- The methods of a builder. An argument that is left out is `undefined`. -/
inductive Call where
  | log (message : Value)
  | success (value : Value)
  | error (message : Value)
  | updateResource (a b c d : Value)
  | setMetadata (name value : Value)
  | setPersistentData (key value : Value)
  | setTransientData (key value ttlSecs : Value)
  | sendCommand (clusterId commandId tlvBase64 options : Value)
  | writeAttribute (clusterId attributeId tlvBase64 options : Value)
  | requestCommand (clusterId commandId payload options : Value)
  | readAttribute (clusterId attributeId options : Value)

/-- The name of an operation is a string of the script. -/
def opName (name : String) : String × Value := ("op", .string (units name))

/-- These are the properties of the options that have one of the names and are not `undefined`. -/
def copyDefined (names : List String) (options : Value) : List (String × Value) :=
  (names.map fun name => (name, property name options)).filter fun entry => !entry.2.isUndefined

/-- A property is set when its value is not `undefined`. -/
def defined (name : String) (value : Value) : List (String × Value) :=
  if value.isUndefined then [] else [(name, value)]

namespace ResultBuilder
variable (engine : Engine) (builder : ResultBuilder)

def updateResource (a b c d : Value) : ResultBuilder × Outcome :=
  if c.isUndefined then builder.addOp [opName "updateResource", ("resource", a), ("value", b)]
  else
    let op := [opName "updateResource", ("endpoint", a), ("resource", b), ("value", c)]
    if d.isUndefined then builder.addOp op
    else
      match engine.stringify d with
      | .error message => (builder, .threw message)
      | .ok metadata => builder.addOp (op ++ [("metadata", metadata)])

def sendCommand (clusterId commandId tlvBase64 options : Value) : ResultBuilder × Outcome :=
  builder.setTerminal ([opName "sendCommand", ("clusterId", clusterId), ("commandId", commandId)] ++
    defined "tlvBase64" tlvBase64 ++ defined "options" options)

def writeAttribute (clusterId attributeId tlvBase64 options : Value) : ResultBuilder × Outcome :=
  builder.setTerminal ([opName "writeAttribute", ("clusterId", clusterId), ("attributeId", attributeId),
    ("tlvBase64", tlvBase64)] ++ defined "options" options)

/-- A payload without options takes the place of the options, and then there is no payload. -/
def requestCommand (clusterId commandId payload options : Value) : ResultBuilder × Outcome :=
  let opts := if options.truthy then options else payload
  let tlv := if options.truthy then payload else .undefined
  let deferred := if opts.isAbsent then [] else
    copyDefined ["responseCommandId", "onResponse", "onError", "timeoutMs", "context"] opts
  let cmdOpts := if opts.isAbsent then [] else copyDefined ["endpointId", "timedInvokeTimeoutMs"] opts
  builder.setTerminal ([opName "requestCommand", ("clusterId", clusterId), ("commandId", commandId),
    ("deferred", .object deferred)] ++ (if tlv.isAbsent then [] else [("tlvBase64", tlv)]) ++
    (if cmdOpts.isEmpty then [] else [("options", .object cmdOpts)]))

/-- The options `null` have no properties to read. -/
def readAttribute (clusterId attributeId options : Value) : ResultBuilder × Outcome :=
  match options with
  | .null => (builder, .threw engine.nullError)
  | options =>
      let deferred := copyDefined ["onResponse", "onError", "timeoutMs", "context"] options
      let cmdOpts := copyDefined ["endpointId"] options
      builder.setTerminal ([opName "readAttribute", ("clusterId", clusterId), ("attributeId", attributeId),
        ("deferred", .object deferred)] ++ (if cmdOpts.isEmpty then [] else [("options", .object cmdOpts)]))

end ResultBuilder

variable (engine : Engine)

/-- This is the method call on a builder. -/
def Call.perform (builder : ResultBuilder) : Call → ResultBuilder × Outcome
  | .log message => builder.addOp [opName "log", ("message", message)]
  | .success value => builder.setTerminal (opName "success" :: defined "value" value)
  | .error message => builder.setTerminal [opName "error", ("message", message)]
  | .updateResource a b c d => builder.updateResource engine a b c d
  | .setMetadata name value => builder.addOp [opName "setMetadata", ("name", name), ("value", value)]
  | .setPersistentData key value => builder.addOp [opName "setPersistentData", ("key", key), ("value", value)]
  | .setTransientData key value ttlSecs =>
      builder.addOp [opName "setTransientData", ("key", key), ("value", value), ("ttlSecs", ttlSecs)]
  | .sendCommand clusterId commandId tlvBase64 options =>
      builder.sendCommand clusterId commandId tlvBase64 options
  | .writeAttribute clusterId attributeId tlvBase64 options =>
      builder.writeAttribute clusterId attributeId tlvBase64 options
  | .requestCommand clusterId commandId payload options =>
      builder.requestCommand clusterId commandId payload options
  | .readAttribute clusterId attributeId options => builder.readAttribute engine clusterId attributeId options

/-- The script calls the methods in order and catches what they throw. -/
def performAll (builder : ResultBuilder) : List Call → ResultBuilder × List Outcome
  | [] => (builder, [])
  | call :: rest =>
      let performed := call.perform engine builder
      let later := performAll performed.1 rest
      (later.1, performed.2 :: later.2)

end Builder

section Parse
variable (engine : Engine)

/-- An absent value is the empty text. -/
def Engine.text (value : Value) : String :=
  if value.isAbsent then "" else (engine.toCString value).getD ""

/-- This is `JS_ToUint32` of a value that is not absent. -/
def Engine.toUint32 : Value → UInt32
  | .boolean value => if value then 1 else 0
  | .number value => UInt32.ofBitVec value.toInt32
  | value => UInt32.ofBitVec (engine.toNumber value).toInt32

/-- The result is the default for an absent value. -/
def Engine.uint32 (defaultValue : UInt32) (value : Value) : UInt32 :=
  if value.isAbsent then defaultValue else engine.toUint32 value

/-- An absent value is no number. -/
def Engine.optUint32 (value : Value) : Option UInt32 :=
  if value.isAbsent then none else some (engine.toUint32 value)

def getStringProp (value : Value) (name : String) : String := engine.text (property name value)

def getUint32Prop (value : Value) (name : String) (defaultValue : UInt32) : UInt32 :=
  engine.uint32 defaultValue (property name value)

def getOptUint32Prop (value : Value) (name : String) : Option UInt32 := engine.optUint32 (property name value)

/-- The upper bits are dropped. -/
def getOptUint16Prop (value : Value) (name : String) : Option UInt16 :=
  (getOptUint32Prop engine value name).map UInt32.toUInt16

def getArrayLength (value : Value) : Nat :=
  let length := property "length" value
  if length.isUndefined then 0 else (engine.uint32 0 length).toNat

def hasProperty (value : Value) (name : String) : Bool := !(property name value).isUndefined

/-- A `SafeJSValue` without a value is an absent callback. -/
def getRooted (value : Value) (name : String) : Option Nat :=
  if hasProperty value name then some (engine.root (property name value)) else none

/-- The optional text of a property that is there. -/
def getOptStringProp (value : Value) (name : String) : Option String :=
  if hasProperty value name then some (getStringProp engine value name) else none

/-- This is `ParseOp`. -/
def parseOp (opVal : Value) : Option ResultOp :=
  let opType := getStringProp engine opVal "op"
  if opType = "updateResource" then
    some (.updateResource (getOptStringProp engine opVal "endpoint") (getStringProp engine opVal "resource")
      (getStringProp engine opVal "value") (getOptStringProp engine opVal "metadata"))
  else if opType = "setMetadata" then
    some (.setMetadata (getStringProp engine opVal "name") (getStringProp engine opVal "value"))
  else if opType = "setPersistentData" then
    some (.setPersistentData (getStringProp engine opVal "key") (getStringProp engine opVal "value"))
  else if opType = "setTransientData" then
    some (.setTransientData (getStringProp engine opVal "key") (getStringProp engine opVal "value")
      (getUint32Prop engine opVal "ttlSecs" 0))
  else if opType = "log" then some (.log (getStringProp engine opVal "message"))
  else none

/-- The callbacks of a deferred terminal are empty when the object is absent. -/
def parseCallbacks (deferred : Value) : Callbacks :=
  if deferred.isAbsent then ⟨none, none, none⟩
  else ⟨getRooted engine deferred "onResponse", getRooted engine deferred "onError",
    getRooted engine deferred "context"⟩

/-- A property of an object that may be absent. -/
def ofOptional {Result : Type} (absent : Result) (read : Value → Result) (value : Value) : Result :=
  if value.isAbsent then absent else read value

/-- These fields are common to the two commands. -/
def parseCommand (termVal : Value) : CommandData :=
  let opts := property "options" termVal
  { clusterId := getUint32Prop engine termVal "clusterId" 0
    commandId := getUint32Prop engine termVal "commandId" 0
    tlvBase64 := getStringProp engine termVal "tlvBase64"
    endpointId := ofOptional none (getOptUint32Prop engine · "endpointId") opts
    timedInvokeTimeoutMs := ofOptional none (getOptUint16Prop engine · "timedInvokeTimeoutMs") opts }

/-- These fields are common to the two attribute terminals. -/
def parseAttribute (termVal : Value) : AttributeData :=
  { clusterId := getUint32Prop engine termVal "clusterId" 0
    attributeId := getUint32Prop engine termVal "attributeId" 0
    endpointId := ofOptional none (getOptUint32Prop engine · "endpointId") (property "options" termVal) }

/-- This is `ParseTerminal`. -/
def parseTerminal (termVal : Value) : Option Terminal :=
  let opType := getStringProp engine termVal "op"
  let deferred := property "deferred" termVal
  if opType = "success" then some (.success (getStringProp engine termVal "value"))
  else if opType = "error" then some (.error (getStringProp engine termVal "message"))
  else if opType = "sendCommand" then
    some (.sendCommand (parseCommand engine termVal)
      (ofOptional "" (getStringProp engine · "successValue") (property "options" termVal)))
  else if opType = "writeAttribute" then
    some (.writeAttribute (parseAttribute engine termVal) (getStringProp engine termVal "tlvBase64"))
  else if opType = "requestCommand" then
    some (.requestCommand (parseCommand engine termVal)
      (ofOptional 0 (getUint32Prop engine · "responseCommandId" 0) deferred) (parseCallbacks engine deferred)
      (ofOptional none (getOptUint32Prop engine · "timeoutMs") deferred))
  else if opType = "readAttribute" then
    some (.readAttribute (parseAttribute engine termVal) (parseCallbacks engine deferred)
      (ofOptional none (getOptUint32Prop engine · "timeoutMs") deferred))
  else none

structure ParsedResult where
  ops : List ResultOp
  terminal : Terminal
  deriving DecidableEq

/-- This is `Parse`. An operation that cannot be parsed is skipped. -/
def parse (resultVal : Value) : Option ParsedResult :=
  if resultVal.isAbsent then none
  else
    let opsVal := property "ops" resultVal
    if opsVal.isAbsent then none
    else
      let termVal := property "terminal" resultVal
      if termVal.isAbsent then none
      else
        let ops := (List.range (getArrayLength engine opsVal)).filterMap fun index =>
          parseOp engine (propertyAt index opsVal)
        (parseTerminal engine termVal).map fun terminal => ⟨ops, terminal⟩

end Parse
end Barton.Results
