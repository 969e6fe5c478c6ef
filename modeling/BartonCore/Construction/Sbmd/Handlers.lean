/-
This file contains how the handlers of a driver script are written: the conversions of the language, the calls of the
result builder, and the registration of the handlers.
-/

import BartonCore.Construction.Sbmd.Invocations
import BartonCore.Construction.Tlv.Encode
import BartonCore.Construction.Tlv.Reader

namespace Barton.Handlers
open Dispatch (SbmdRegistration named)
open Invocations (SbmdDriver)
open Results
open Tlv (Failure Inherited JsNumber JsString JsValue PropertyKey units)

section Language

/-- These are the conversions of the language. -/
structure Language where
  /-- `ToNumber` -/
  toNumber : JsValue → JsNumber
  /-- `ToString` -/
  toText : JsValue → Except Failure JsString
  /-- a whole number below `1e21` has its decimal digits -/
  toText_whole : ∀ number : ℤ, |number| < 10 ^ 21 → toText (.whole number) = .ok (units (toString number))
  /-- the properties that an object inherits -/
  inherited : PropertyKey → Inherited
  /-- no object inherits an index -/
  inherited_index : ∀ index, inherited (.index index) = .nothing
  /-- an inherited method as a value -/
  method : PropertyKey → Nat
  /-- the properties that an array inherits -/
  arrayInherited : PropertyKey → Value

variable (language : Language)

/-- The text of an array index is the index. -/
def keyOfText (text : JsString) : PropertyKey :=
  let index := Tlv.digits 0 text
  if units (toString index) = text ∧ index < 4294967295 then .index index else .name text

/-- The key of the access `object[value]`. -/
def Language.propertyKey : JsValue → Except Failure PropertyKey
  | .string text => .ok (keyOfText text)
  | value => (language.toText value).map keyOfText

def Language.number : JsValue → JsNumber
  | .number value => value
  | value => language.toNumber value

/-- This is the test `value < 0`. -/
def isNegative : JsNumber → Bool
  | .integral (.finite value) => value < 0
  | .integral (.infinite negative) => negative
  | .fraction bits => bits.msb && Tlv.exponent bits ≠ 2047

/-- This is `Math.abs`. -/
def abs : JsNumber → JsNumber
  | .integral (.finite value) => .integral (.finite |value|)
  | .integral (.infinite _) => .integral (.infinite false)
  | .fraction bits => .fraction (bits &&& 0x7fffffffffffffff)

/-- An object literal with texts as values is read at a key. -/
def Language.objectProperty (properties : List (PropertyKey × String)) (key : PropertyKey) : Value :=
  match properties.lookup key with
  | some text => .string (units text)
  | none =>
      match language.inherited key with
      | .nothing => .undefined
      | .method => .function (language.method key)
      | .prototype => .object []

/-- An array literal of texts is read at a key. -/
def Language.arrayProperty (items : List String) (key : PropertyKey) : Value :=
  match key with
  | .index index => (items[index]?.map fun text => .string (units text)).getD .undefined
  | .name name => if name = units "length" then .whole items.length else language.arrayInherited (.name name)

/-- This is `Sbmd.Tlv.encode` without a base. -/
def Language.encode (value : JsValue) (type : String) : Except Failure (Option JsString) :=
  Tlv.encode language.toNumber language.toText language.inherited value (some type) .undefined

end Language

section Calls

/-- A handler returns what its last call of the builder returns. -/
abbrev Handled := Except Failure (List Call)

def rejected (message : JsString) : List Call := [.error (.string message)]

/-- The argument `null` becomes a terminal without a payload. -/
def written (clusterId attributeId : Nat) (tlvBase64 : Option JsString) : List Call :=
  [.writeAttribute (.whole clusterId) (.whole attributeId) ((tlvBase64.map Value.string).getD .null) .undefined]

def updated (endpointId : Value) (resource : String) (value : Value) : List Call :=
  [.updateResource endpointId (.string (units resource)) value .undefined, .success .undefined]

/-- The reports differ in what they do with the decoded value and with a missing one. -/
def handleDecoded (missing : List Call) (handle : JsValue → Handled) (tlvBase64 : Option JsString) : Handled := do
  match ← Tlv.decode tlvBase64 with
  | .null => return missing
  | value => handle value

variable (engine : Engine)

/-- The calls of a handler follow each other on its builder, and an exception ends them. -/
def returned (builder : ResultBuilder) : List Call → Option Value
  | [] => some builder.value
  | call :: rest =>
      match call.perform engine builder with
      | (_, .threw _) => none
      | (builder, .builder) => returned builder rest
      | (builder, .result terminal) => some (builder.read terminal)

end Calls

section Scripts

/-- A script names the attributes of its device by aliases, and each handler of reports has one alias. -/
structure Script where
  aliases : List (String × Nat × Nat)
  attributeHandlers : List (String × String)
  /-- the functions of these handlers get the endpoint and the payload -/
  functions : List (Value → Option JsString → Handled)
  /-- the functions of the resources that can be written -/
  writes : List (String × (JsString → Handled))

def registration (aliases : List (String × Nat × Nat)) (attributeHandlers : List (String × String)) :
    SbmdRegistration where
  aliases := fun name => (aliases.find? fun entry => named entry.1 = name).map fun entry =>
    ⟨BitVec.ofNat 32 entry.2.1, some (BitVec.ofNat 32 entry.2.2), none, none⟩
  attributeHandlers := attributeHandlers.map fun entry => ⟨named entry.1, [named entry.2]⟩
  eventHandlers := []
  commandHandlers := []

variable (script : Script)

/-- This is the driver that is loaded from the script. -/
def Script.driver : SbmdDriver where
  registration := registration script.aliases script.attributeHandlers
  functions := fun _ handler => handler
  supplements := fun _ _ _ => []
  activated := true

/-- A missing property is `undefined`. -/
def textOf : Value → Option JsString
  | .string text => some text
  | _ => none

/-- This is the value of a call, or none if it throws. -/
def Script.value (engine : Engine) : Handled → Option Value
  | .error _ => none
  | .ok calls => returned engine .new calls

/-- A function of the script is called for a report. -/
def Script.report (engine : Engine) (handler : Nat) (args : Value) : Option Value :=
  script.functions[handler]?.bind fun function =>
    Script.value engine
      (function (property "endpointId" args) (textOf (property "tlvBase64" (property "attribute" args))))

/-- A function of the script is called for the write of a resource. -/
def Script.write (engine : Engine) (resource : String) (args : Value) : Option Value :=
  (script.writes.lookup resource).bind fun function =>
    (textOf (property "input" (property "resource" args))).bind fun input => Script.value engine (function input)

end Scripts
end Barton.Handlers
