import BartonCore.Construction.Sbmd.Results
import BartonCore.Proof.Tlv.Unicode
import Mathlib.Data.List.TakeWhile

namespace Barton.Results
open Tlv (JsNumber JsString units)
open PersistentData (ResultOp)
open Sbmd (Callbacks CommandData AttributeData Terminal)

section Meaning
variable (engine : Engine)

/-- A missing argument leaves the field empty. -/
def Engine.optText (value : Value) : Option String :=
  if value.isUndefined then none else some (engine.text value)

def Engine.callback (value : Value) : Option Nat :=
  if value.isUndefined then none else some (engine.root value)

def Engine.optUint16 (value : Value) : Option UInt16 := (engine.optUint32 value).map UInt32.toUInt16

/-- The options name the callbacks of a deferred terminal. -/
def Engine.callbacks (options : Value) : Callbacks :=
  ⟨engine.callback (property "onResponse" options), engine.callback (property "onError" options),
    engine.callback (property "context" options)⟩

def Engine.command (clusterId commandId tlvBase64 options : Value) : CommandData where
  clusterId := engine.uint32 0 clusterId
  commandId := engine.uint32 0 commandId
  tlvBase64 := engine.text tlvBase64
  endpointId := engine.optUint32 (property "endpointId" options)
  timedInvokeTimeoutMs := engine.optUint16 (property "timedInvokeTimeoutMs" options)

def Engine.attribute (clusterId attributeId options : Value) : AttributeData where
  clusterId := engine.uint32 0 clusterId
  attributeId := engine.uint32 0 attributeId
  endpointId := engine.optUint32 (property "endpointId" options)

/-- This is the operation that a call asks for. Metadata without a text is no operation. -/
def Call.resultOp : Call → Option ResultOp
  | .log message => some (.log (engine.text message))
  | .updateResource a b .undefined _ => some (.updateResource none (engine.text a) (engine.text b) none)
  | .updateResource a b c .undefined =>
      some (.updateResource (engine.optText a) (engine.text b) (engine.text c) none)
  | .updateResource a b c d =>
      match engine.stringify d with
      | .error _ => none
      | .ok metadata => some (.updateResource (engine.optText a) (engine.text b) (engine.text c)
          (engine.optText metadata))
  | .setMetadata name value => some (.setMetadata (engine.text name) (engine.text value))
  | .setPersistentData key value => some (.setPersistentData (engine.text key) (engine.text value))
  | .setTransientData key value ttlSecs =>
      some (.setTransientData (engine.text key) (engine.text value) (engine.uint32 0 ttlSecs))
  | _ => none

/-- This is the terminal that a call asks for. -/
def Call.closing : Call → Option Terminal
  | .success value => some (.success (engine.text value))
  | .error message => some (.error (engine.text message))
  | .sendCommand clusterId commandId tlvBase64 options =>
      some (.sendCommand (engine.command clusterId commandId tlvBase64 options)
        (engine.text (property "successValue" options)))
  | .writeAttribute clusterId attributeId tlvBase64 options =>
      some (.writeAttribute (engine.attribute clusterId attributeId options) (engine.text tlvBase64))
  | .requestCommand clusterId commandId payload options =>
      if options.truthy then
        some (.requestCommand (engine.command clusterId commandId payload options)
          (engine.uint32 0 (property "responseCommandId" options)) (engine.callbacks options)
          (engine.optUint32 (property "timeoutMs" options)))
      else
        some (.requestCommand (engine.command clusterId commandId .undefined payload)
          (engine.uint32 0 (property "responseCommandId" payload)) (engine.callbacks payload)
          (engine.optUint32 (property "timeoutMs" payload)))
  | .readAttribute _ _ .null => none
  | .readAttribute clusterId attributeId options =>
      some (.readAttribute (engine.attribute clusterId attributeId options) (engine.callbacks options)
        (engine.optUint32 (property "timeoutMs" options)))
  | _ => none

/-- A script asks for the operations before its first terminal, and for this terminal. -/
def expected : List Call → Option ParsedResult
  | [] => none
  | call :: rest =>
      match call.closing engine with
      | some terminal => some ⟨[], terminal⟩
      | none => (expected rest).map fun result => { result with ops := (call.resultOp engine).toList ++ result.ops }

/-- The terminal of a result that a call has returned. -/
def Outcome.terminal : Outcome → Option Value
  | .result terminal => some terminal
  | _ => none

def Outcome.Thrown (outcome : Outcome) : Prop := ∃ message, outcome = .threw message

end Meaning

section Properties

@[simp] theorem property_object (name : String) (properties : List (String × Value)) :
    property name (.object properties) = lookUp name properties := rfl

@[simp] theorem lookUp_nil (name : String) : lookUp name [] = .undefined := rfl

@[simp] theorem lookUp_cons (name other : String) (value : Value) (rest : List (String × Value)) :
    lookUp name ((other, value) :: rest) = if other = name then value else lookUp name rest := rfl

theorem eq_undefined {value : Value} (missing : value.isUndefined = true) : value = .undefined := by
  cases value with
  | undefined => rfl
  | _ => cases missing

@[simp] theorem lookUp_defined (name other : String) (value : Value) (rest : List (String × Value)) :
    lookUp name (defined other value ++ rest) =
      if other = name ∧ value.isUndefined = false then value else lookUp name rest := by
  unfold defined
  cases value.isUndefined with
  | true => simp
  | false => simp

theorem copyDefined_cons (name : String) (names : List String) (options : Value) :
    copyDefined (name :: names) options = defined name (property name options) ++ copyDefined names options := by
  unfold copyDefined defined
  rw [List.map_cons, List.filter_cons]
  cases (property name options).isUndefined with
  | true => simp
  | false => simp

/-- The copied properties have the values of the options, and the others are `undefined`. -/
@[simp] theorem lookUp_copyDefined (name : String) (names : List String) (options : Value) :
    lookUp name (copyDefined names options) = if name ∈ names then property name options else .undefined := by
  induction names with
  | nil => rfl
  | cons head rest ih =>
      rw [copyDefined_cons, lookUp_defined, ih]
      by_cases same : head = name
      · subst same
        cases missing : (property head options).isUndefined with
        | true => simp [eq_undefined missing]
        | false => simp
      · simp [same, Ne.symm same]

end Properties

section Plain

/-- The text of UTF-8 bytes up to the first null character. -/
def cString (bytes : List UInt8) : Option String :=
  bytes.toByteArray.utf8Decode?.map fun characters =>
    String.ofList (characters.toList.takeWhile fun character => character ≠ Char.ofNat 0)

theorem cString_units (text : String) (plain : Char.ofNat 0 ∉ text.toList) :
    cString (Tlv.Utf8.encode (units text)) = some text := by
  unfold cString units
  rw [Tlv.Utf8.encode_characters]
  change (ByteArray.utf8Decode? (List.utf8Encode text.toList)).map _ = _
  have whole : text.toList.takeWhile (fun character => character ≠ Char.ofNat 0) = text.toList := by
    rw [List.takeWhile_eq_self_iff]
    exact fun character member => decide_eq_true (ne_of_mem_of_not_mem member plain)
  rw [List.utf8Decode?_utf8Encode, Option.map_some, whole, String.ofList_toList]

/-- An engine that converts strings, booleans and whole numbers. -/
def Engine.plain : Engine where
  toCString
    | .undefined => some "undefined"
    | .null => some "null"
    | .boolean value => some (if value then "true" else "false")
    | .number (.integral (.finite value)) => some (toString value)
    | .string text => cString (Tlv.Utf8.encode text)
    | _ => none
  toCString_units := cString_units
  toNumber _ := .fraction 0x7ff8000000000000
  stringify _ := .ok .undefined
  nullError := units "cannot read property of null"
  root
    | .function handle => handle
    | _ => 0

theorem Engine.text_units (engine : Engine) (text : String) (plain : Char.ofNat 0 ∉ text.toList) :
    engine.text (.string (units text)) = text := by
  unfold Engine.text
  change (engine.toCString (.string (units text))).getD "" = text
  rw [engine.toCString_units text plain, Option.getD_some]

end Plain

section Fields
variable (engine : Engine)

/-- An operation is recognised by its name. -/
theorem getStringProp_opName {name : String} (rest : List (String × Value))
    (plain : Char.ofNat 0 ∉ name.toList) : getStringProp engine (.object (opName name :: rest)) "op" = name := by
  unfold getStringProp opName
  rw [property_object, lookUp_cons, if_pos rfl, engine.text_units name plain]

/-- The text of a property that is there. -/
theorem getOptStringProp_eq (object : Value) (name : String) :
    getOptStringProp engine object name = engine.optText (property name object) := by
  unfold getOptStringProp hasProperty Engine.optText getStringProp
  cases (property name object).isUndefined with
  | true => rfl
  | false => rfl

theorem getRooted_eq (object : Value) (name : String) :
    getRooted engine object name = engine.callback (property name object) := by
  unfold getRooted hasProperty Engine.callback
  cases (property name object).isUndefined with
  | true => rfl
  | false => rfl

/-- An absent object has no properties. -/
theorem property_of_isAbsent {value : Value} (absent : value.isAbsent = true) (name : String) :
    property name value = .undefined := by
  cases value with
  | undefined => rfl
  | null => rfl
  | _ => cases absent

/-- The reader of an optional object reads `undefined` when the object is absent. -/
theorem ofOptional_eq {Result : Type} {absent : Result} {read : Value → Result} (name : String)
    (field : Value → Result) (reads : ∀ value, read value = field (property name value))
    (missing : field .undefined = absent) (value : Value) :
    ofOptional absent read value = field (property name value) := by
  unfold ofOptional
  cases gone : value.isAbsent with
  | true => rw [property_of_isAbsent gone, missing]; rfl
  | false => exact reads value

theorem parseCallbacks_eq (deferred : Value) : parseCallbacks engine deferred = engine.callbacks deferred := by
  unfold parseCallbacks Engine.callbacks
  cases gone : deferred.isAbsent with
  | true => simp only [property_of_isAbsent gone]; rfl
  | false => simp only [getRooted_eq, Bool.false_eq_true, if_false]

/-- The command reads its options from the object that the terminal holds. -/
theorem parseCommand_eq (object : Value) :
    parseCommand engine object = engine.command (property "clusterId" object) (property "commandId" object)
      (property "tlvBase64" object) (property "options" object) := by
  unfold parseCommand Engine.command
  simp only [getUint32Prop, getStringProp]
  congr 1
  · exact ofOptional_eq "endpointId" engine.optUint32 (fun _ => rfl) rfl _
  · exact ofOptional_eq "timedInvokeTimeoutMs" engine.optUint16 (fun _ => rfl) rfl _

theorem parseAttribute_eq (object : Value) :
    parseAttribute engine object = engine.attribute (property "clusterId" object) (property "attributeId" object)
      (property "options" object) := by
  unfold parseAttribute Engine.attribute
  simp only [getUint32Prop]
  congr 1
  exact ofOptional_eq "endpointId" engine.optUint32 (fun _ => rfl) rfl _

theorem parseOp_updateResource (rest : List (String × Value)) :
    parseOp engine (.object (opName "updateResource" :: rest)) =
      some (.updateResource (engine.optText (lookUp "endpoint" rest)) (engine.text (lookUp "resource" rest))
        (engine.text (lookUp "value" rest)) (engine.optText (lookUp "metadata" rest))) := by
  have named := getStringProp_opName engine rest (show Char.ofNat 0 ∉ "updateResource".toList by decide)
  unfold parseOp
  simp only [named, if_true, getOptStringProp_eq]
  rfl

theorem parseTerminal_requestCommand (rest : List (String × Value)) :
    parseTerminal engine (.object (opName "requestCommand" :: rest)) =
      some (.requestCommand (engine.command (lookUp "clusterId" rest) (lookUp "commandId" rest)
          (lookUp "tlvBase64" rest) (lookUp "options" rest))
        (engine.uint32 0 (property "responseCommandId" (lookUp "deferred" rest)))
        (engine.callbacks (lookUp "deferred" rest))
        (engine.optUint32 (property "timeoutMs" (lookUp "deferred" rest)))) := by
  have named := getStringProp_opName engine rest (show Char.ofNat 0 ∉ "requestCommand".toList by decide)
  have timeout := ofOptional_eq "timeoutMs" engine.optUint32
    (fun value => (rfl : getOptUint32Prop engine value "timeoutMs" = _)) rfl (lookUp "deferred" rest)
  have response := ofOptional_eq "responseCommandId" (engine.uint32 0)
    (fun value => (rfl : getUint32Prop engine value "responseCommandId" 0 = _)) rfl (lookUp "deferred" rest)
  unfold parseTerminal
  simp only [named, parseCommand_eq, parseCallbacks_eq]
  exact congrArg some (congrArg₂ (Terminal.requestCommand _ · _ ·) response timeout)

theorem parseTerminal_readAttribute (rest : List (String × Value)) :
    parseTerminal engine (.object (opName "readAttribute" :: rest)) =
      some (.readAttribute (engine.attribute (lookUp "clusterId" rest) (lookUp "attributeId" rest)
          (lookUp "options" rest))
        (engine.callbacks (lookUp "deferred" rest))
        (engine.optUint32 (property "timeoutMs" (lookUp "deferred" rest)))) := by
  have named := getStringProp_opName engine rest (show Char.ofNat 0 ∉ "readAttribute".toList by decide)
  have timeout := ofOptional_eq "timeoutMs" engine.optUint32
    (fun value => (rfl : getOptUint32Prop engine value "timeoutMs" = _)) rfl (lookUp "deferred" rest)
  unfold parseTerminal
  simp only [named, parseAttribute_eq, parseCallbacks_eq]
  exact congrArg some (congrArg (Terminal.readAttribute _ _) timeout)

theorem parseTerminal_sendCommand (rest : List (String × Value)) :
    parseTerminal engine (.object (opName "sendCommand" :: rest)) =
      some (.sendCommand (engine.command (lookUp "clusterId" rest) (lookUp "commandId" rest)
          (lookUp "tlvBase64" rest) (lookUp "options" rest))
        (engine.text (property "successValue" (lookUp "options" rest)))) := by
  have named := getStringProp_opName engine rest (show Char.ofNat 0 ∉ "sendCommand".toList by decide)
  have success := ofOptional_eq "successValue" engine.text
    (fun value => (rfl : getStringProp engine value "successValue" = _)) rfl (lookUp "options" rest)
  unfold parseTerminal
  simp only [named, parseCommand_eq]
  exact congrArg some (congrArg (Terminal.sendCommand _) success)

theorem parseTerminal_writeAttribute (rest : List (String × Value)) :
    parseTerminal engine (.object (opName "writeAttribute" :: rest)) =
      some (.writeAttribute (engine.attribute (lookUp "clusterId" rest) (lookUp "attributeId" rest)
          (lookUp "options" rest))
        (engine.text (lookUp "tlvBase64" rest))) := by
  have named := getStringProp_opName engine rest (show Char.ofNat 0 ∉ "writeAttribute".toList by decide)
  unfold parseTerminal
  simp only [named, parseAttribute_eq]
  rfl

end Fields

section Steps
variable (engine : Engine) (builder : ResultBuilder)

/-- An open builder takes the operation or the terminal of a call. -/
inductive Performed (call : Call) : ResultBuilder × Outcome → Prop where
  | op (object : List (String × Value)) (operation : ResultOp)
      (asked : call.resultOp engine = some operation) (stays : call.closing engine = none)
      (parsed : parseOp engine (.object object) = some operation) :
      Performed call ({ builder with ops := builder.ops ++ [.object object] }, .builder)
  | threw (message : JsString) (asked : call.resultOp engine = none) (stays : call.closing engine = none) :
      Performed call (builder, .threw message)
  | terminal (object : List (String × Value)) (terminal : Terminal)
      (closes : call.closing engine = some terminal)
      (parsed : parseTerminal engine (.object object) = some terminal) :
      Performed call ({ builder with terminal := .object object, sealed := true }, .result (.object object))

variable {builder} {call : Call}

theorem performed_addOp (unsealed : builder.sealed = false) {object : List (String × Value)} {operation : ResultOp}
    (asked : call.resultOp engine = some operation) (stays : call.closing engine = none)
    (parsed : parseOp engine (.object object) = some operation) :
    Performed engine builder call (builder.addOp object) := by
  unfold ResultBuilder.addOp
  rw [if_neg (Bool.eq_false_iff.mp unsealed)]
  exact .op object operation asked stays parsed

theorem performed_setTerminal (unsealed : builder.sealed = false) {object : List (String × Value)} {terminal : Terminal}
    (closes : call.closing engine = some terminal) (parsed : parseTerminal engine (.object object) = some terminal) :
    Performed engine builder call (builder.setTerminal object) := by
  unfold ResultBuilder.setTerminal
  rw [if_neg (Bool.eq_false_iff.mp unsealed)]
  exact .terminal object terminal closes parsed

theorem performed_updateResource (unsealed : builder.sealed = false) (a b c d : Value) :
    Performed engine builder (.updateResource a b c d) (builder.updateResource engine a b c d) := by
  unfold ResultBuilder.updateResource
  cases deviceLevel : c.isUndefined with
  | true =>
      rw [eq_undefined deviceLevel]
      exact performed_addOp engine unsealed rfl rfl (parseOp_updateResource engine _)
  | false =>
      have asked : (Call.updateResource a b c d).resultOp engine = if d.isUndefined then
          some (.updateResource (engine.optText a) (engine.text b) (engine.text c) none)
          else match engine.stringify d with
            | .error _ => none
            | .ok metadata => some (.updateResource (engine.optText a) (engine.text b) (engine.text c)
                (engine.optText metadata)) := by
        cases c with
        | undefined => cases deviceLevel
        | _ => cases d <;> rfl
      simp only [Bool.false_eq_true, if_false]
      cases plain : d.isUndefined with
      | true =>
          rw [plain] at asked
          exact performed_addOp engine unsealed asked rfl (parseOp_updateResource engine _)
      | false =>
          rw [plain] at asked
          simp only [Bool.false_eq_true, if_false] at asked ⊢
          cases converted : engine.stringify d with
          | error message =>
              rw [converted] at asked
              exact .threw message asked rfl
          | ok metadata =>
              rw [converted] at asked
              exact performed_addOp engine unsealed asked rfl (parseOp_updateResource engine _)

/-- A field that is `undefined` is the same as a field that is left out. -/
theorem lookUp_defined_self (name : String) (value : Value) (rest : List (String × Value))
    (fresh : lookUp name rest = .undefined) : lookUp name (defined name value ++ rest) = value := by
  rw [lookUp_defined]
  cases missing : value.isUndefined with
  | true => rw [eq_undefined missing, fresh, ite_self]
  | false => simp

theorem performed_sendCommand (unsealed : builder.sealed = false) (clusterId commandId tlvBase64 options : Value) :
    Performed engine builder (.sendCommand clusterId commandId tlvBase64 options)
      (builder.sendCommand clusterId commandId tlvBase64 options) := by
  refine performed_setTerminal engine unsealed rfl ?_
  have options_read : lookUp "options" (defined "tlvBase64" tlvBase64 ++ defined "options" options) = options := by
    rw [lookUp_defined, if_neg (by simp), ← List.append_nil (defined "options" options)]
    exact lookUp_defined_self "options" options [] rfl
  have tlv_read : lookUp "tlvBase64" (defined "tlvBase64" tlvBase64 ++ defined "options" options) = tlvBase64 := by
    refine lookUp_defined_self "tlvBase64" tlvBase64 _ ?_
    rw [← List.append_nil (defined "options" options), lookUp_defined, if_neg (by simp)]
    rfl
  have read := parseTerminal_sendCommand engine
    (("clusterId", clusterId) :: ("commandId", commandId) ::
      (defined "tlvBase64" tlvBase64 ++ defined "options" options))
  simpa [options_read, tlv_read] using read

theorem performed_writeAttribute (unsealed : builder.sealed = false)
    (clusterId attributeId tlvBase64 options : Value) :
    Performed engine builder (.writeAttribute clusterId attributeId tlvBase64 options)
      (builder.writeAttribute clusterId attributeId tlvBase64 options) := by
  refine performed_setTerminal engine unsealed rfl ?_
  have options_read : lookUp "options" (defined "options" options) = options := by
    rw [← List.append_nil (defined "options" options)]
    exact lookUp_defined_self "options" options [] rfl
  have read := parseTerminal_writeAttribute engine
    (("clusterId", clusterId) :: ("attributeId", attributeId) :: ("tlvBase64", tlvBase64) ::
      defined "options" options)
  simpa [options_read] using read

/-- The properties that are copied from the options read as they do there. -/
theorem property_copied {names : List String} {name : String} (member : name ∈ names) (options : Value) :
    lookUp name (if options.isAbsent then [] else copyDefined names options) = property name options := by
  cases gone : options.isAbsent with
  | true => rw [property_of_isAbsent gone]; rfl
  | false => simp [member]

/-- An empty object of options is left out. -/
theorem property_options (name : String) (options : List (String × Value)) :
    property name (lookUp "options" (if options.isEmpty then [] else [("options", .object options)])) =
      lookUp name options := by
  cases options with
  | nil | cons => rfl

theorem lookUp_options {name : String} (other : name ≠ "options") (options : List (String × Value)) :
    lookUp name (if options.isEmpty then [] else [("options", .object options)]) = .undefined := by
  cases options with
  | nil => rfl
  | cons entry rest =>
      rw [List.isEmpty_cons, if_neg Bool.false_ne_true, lookUp_cons, if_neg (Ne.symm other)]
      rfl

/-- A payload that is absent is left out. -/
theorem text_payload (payload : Value) (rest : List (String × Value)) (fresh : lookUp "tlvBase64" rest = .undefined) :
    engine.text (lookUp "tlvBase64" ((if payload.isAbsent then [] else [("tlvBase64", payload)]) ++ rest)) =
      engine.text payload := by
  cases gone : payload.isAbsent with
  | true =>
      rw [if_pos rfl, List.nil_append, fresh, Engine.text, Engine.text, gone]
      rfl
  | false => simp

theorem lookUp_payload {name : String} (other : name ≠ "tlvBase64") (payload : Value) (rest : List (String × Value)) :
    lookUp name ((if payload.isAbsent then [] else [("tlvBase64", payload)]) ++ rest) = lookUp name rest := by
  cases payload.isAbsent with
  | true => rfl
  | false => simp [Ne.symm other]

theorem performed_requestCommand (unsealed : builder.sealed = false)
    (clusterId commandId payload options : Value) :
    Performed engine builder (.requestCommand clusterId commandId payload options)
      (builder.requestCommand clusterId commandId payload options) := by
  unfold ResultBuilder.requestCommand
  generalize chosen : (if options.truthy then options else payload) = opts
  generalize sent : (if options.truthy then payload else Value.undefined) = tlv
  have closes : (Call.requestCommand clusterId commandId payload options).closing engine =
      some (.requestCommand (engine.command clusterId commandId tlv opts)
        (engine.uint32 0 (property "responseCommandId" opts)) (engine.callbacks opts)
        (engine.optUint32 (property "timeoutMs" opts))) := by
    rw [← chosen, ← sent, Call.closing]
    cases options.truthy with
    | true => rfl
    | false => rfl
  refine performed_setTerminal engine unsealed closes ?_
  rw [List.append_assoc, List.cons_append, parseTerminal_requestCommand]
  simp only [List.cons_append, List.nil_append, lookUp_cons, Engine.command, Engine.callbacks, String.reduceEq,
     if_true, if_false, property_object]
  rw [text_payload engine tlv _ (lookUp_options (by decide) _), lookUp_payload (by decide)]
  simp only [property_options]
  rw [property_copied (by simp), property_copied (by simp), property_copied (by simp), property_copied (by simp),
    property_copied (by simp), property_copied (by simp), property_copied (by simp)]

theorem performed_readAttribute (unsealed : builder.sealed = false) (clusterId attributeId options : Value) :
    Performed engine builder (.readAttribute clusterId attributeId options)
      (builder.readAttribute engine clusterId attributeId options) := by
  cases gone : options with
  | null => exact .threw engine.nullError rfl rfl
  | _ =>
      refine performed_setTerminal engine unsealed rfl ?_
      rw [List.cons_append, parseTerminal_readAttribute]
      simp only [List.cons_append, List.nil_append, lookUp_cons, Engine.attribute, Engine.callbacks, String.reduceEq,
         if_true, if_false, property_object, property_options, lookUp_copyDefined]
      simp

/-- Every method of an open builder adds what its call asks for. -/
theorem performed (unsealed : builder.sealed = false) (call : Call) :
    Performed engine builder call (call.perform engine builder) := by
  have named (name : String) (rest : List (String × Value)) (plain : Char.ofNat 0 ∉ name.toList) :=
    getStringProp_opName engine rest plain
  cases call with
  | updateResource a b c d => exact performed_updateResource engine unsealed a b c d
  | sendCommand clusterId commandId tlvBase64 options =>
      exact performed_sendCommand engine unsealed clusterId commandId tlvBase64 options
  | writeAttribute clusterId attributeId tlvBase64 options =>
      exact performed_writeAttribute engine unsealed clusterId attributeId tlvBase64 options
  | requestCommand clusterId commandId payload options =>
      exact performed_requestCommand engine unsealed clusterId commandId payload options
  | readAttribute clusterId attributeId options =>
      exact performed_readAttribute engine unsealed clusterId attributeId options
  | log message =>
      refine performed_addOp engine unsealed rfl rfl ?_
      unfold parseOp
      simp only [named "log" _ (by decide)]
      rfl
  | setMetadata name value =>
      refine performed_addOp engine unsealed rfl rfl ?_
      unfold parseOp
      simp only [named "setMetadata" _ (by decide)]
      rfl
  | setPersistentData key value =>
      refine performed_addOp engine unsealed rfl rfl ?_
      unfold parseOp
      simp only [named "setPersistentData" _ (by decide)]
      rfl
  | setTransientData key value ttlSecs =>
      refine performed_addOp engine unsealed rfl rfl ?_
      unfold parseOp
      simp only [named "setTransientData" _ (by decide)]
      rfl
  | success value =>
      refine performed_setTerminal engine unsealed rfl ?_
      have read : property "value" (.object (opName "success" :: defined "value" value)) = value := by
        rw [property_object, opName, lookUp_cons, if_neg (by decide), ← List.append_nil (defined "value" value)]
        exact lookUp_defined_self "value" value [] rfl
      unfold parseTerminal
      simp only [named "success" _ (by decide)]
      unfold getStringProp
      rw [read]
      rfl
  | error message =>
      refine performed_setTerminal engine unsealed rfl ?_
      unfold parseTerminal
      simp only [named "error" _ (by decide)]
      rfl

end Steps

section Runs
variable (engine : Engine)

/-- The call throws and leaves the builder. -/
def Refused (builder : ResultBuilder) (after : ResultBuilder × Outcome) : Prop :=
  after.1 = builder ∧ after.2.Thrown

/-- A builder that is sealed stays as it is, and it returns no other result. -/
theorem perform_sealed {builder : ResultBuilder} (closed : builder.sealed = true) (call : Call) :
    Refused builder (call.perform engine builder) := by
  have op (object : List (String × Value)) : Refused builder (builder.addOp object) := by
    unfold ResultBuilder.addOp
    rw [if_pos closed]
    exact ⟨rfl, _, rfl⟩
  have terminal (object : List (String × Value)) : Refused builder (builder.setTerminal object) := by
    unfold ResultBuilder.setTerminal
    rw [if_pos closed]
    exact ⟨rfl, _, rfl⟩
  cases call with
  | log | setMetadata | setPersistentData | setTransientData => exact op _
  | success | error | sendCommand | writeAttribute | requestCommand => exact terminal _
  | readAttribute clusterId attributeId options =>
      cases options with
      | null => exact ⟨rfl, _, rfl⟩
      | _ => exact terminal _
  | updateResource a b c d =>
      change Refused builder (builder.updateResource engine a b c d)
      unfold ResultBuilder.updateResource
      split
      · exact op _
      · dsimp only
        split
        · exact op _
        · cases engine.stringify d with
          | error message => exact ⟨rfl, _, rfl⟩
          | ok metadata => exact op _

theorem performAll_sealed {builder : ResultBuilder} (closed : builder.sealed = true) (calls : List Call) :
    (performAll engine builder calls).1 = builder ∧
      ∀ outcome ∈ (performAll engine builder calls).2, outcome.Thrown := by
  induction calls with
  | nil => exact ⟨rfl, fun outcome member => absurd member List.not_mem_nil⟩
  | cons call rest ih =>
      obtain ⟨same, thrown⟩ := perform_sealed engine closed call
      rw [performAll, same]
      exact ⟨ih.1, List.forall_mem_cons.mpr ⟨thrown, ih.2⟩⟩

/-- A call returns a result only when it seals the builder. -/
theorem sealed_of_terminal (builder : ResultBuilder) (call : Call)
    (handed : (call.perform engine builder).2.terminal.isSome) : (call.perform engine builder).1.sealed = true := by
  cases closed : builder.sealed with
  | true => rw [(perform_sealed engine closed call).1, closed]
  | false =>
      cases done : call.perform engine builder with
      | mk next outcome =>
      have step := performed engine closed call
      rw [done] at step handed
      cases step with
      | op | threw => cases handed
      | terminal object terminal closes parsed => rfl

/-- Every call after a result throws. -/
theorem performAll_thrown (calls : List Call) (builder : ResultBuilder) :
    (performAll engine builder calls).2.Pairwise fun earlier later => earlier.terminal.isSome → later.Thrown := by
  induction calls generalizing builder with
  | nil => exact List.Pairwise.nil
  | cons call rest ih =>
      refine List.Pairwise.cons (fun later member handed => ?_) (ih _)
      exact (performAll_sealed engine (sealed_of_terminal engine builder call handed) rest).2 later member

/-- This is what a run leaves in an open builder, and the result that it has handed out. -/
def Handed (before : ResultBuilder) (after : ResultBuilder × List Outcome) : Option ParsedResult → Prop
  | none => after.2.filterMap Outcome.terminal = []
  | some result => ∃ added terminal, after.1.ops = before.ops ++ added ∧
      after.2.filterMap Outcome.terminal = [.object terminal] ∧
      added.filterMap (parseOp engine) = result.ops ∧ parseTerminal engine (.object terminal) = some result.terminal

theorem performAll_handed (calls : List Call) (builder : ResultBuilder) (unsealed : builder.sealed = false) :
    Handed engine builder (performAll engine builder calls) (expected engine calls) := by
  induction calls generalizing builder with
  | nil => rfl
  | cons call rest ih =>
      rw [performAll, expected]
      cases done : call.perform engine builder with
      | mk next outcome =>
      have step := performed engine unsealed call
      rw [done] at step
      cases step with
      | op object operation asked stays parsed =>
          have later := ih { builder with ops := builder.ops ++ [.object object] } unsealed
          rw [stays, asked]
          cases wanted : expected engine rest with
          | none =>
              rw [wanted] at later
              exact later
          | some result =>
              rw [wanted] at later
              obtain ⟨added, terminal, ops, handed, read, closed⟩ := later
              refine ⟨.object object :: added, terminal, ?_, handed, ?_, closed⟩
              · rw [ops, List.append_assoc, List.singleton_append]
              · rw [List.filterMap_cons_some parsed, read]
                rfl
      | threw message asked stays =>
          have later := ih builder unsealed
          rw [stays, asked]
          cases wanted : expected engine rest with
          | none | some =>
              rw [wanted] at later
              exact later
      | terminal object terminal closes parsed =>
          obtain ⟨same, thrown⟩ := performAll_sealed engine
            (show ResultBuilder.sealed { builder with terminal := .object object, sealed := true } = true from rfl) rest
          have silent : List.filterMap Outcome.terminal _ = [] := List.filterMap_eq_nil_iff.mpr fun outcome member => by
            obtain ⟨message, rfl⟩ := thrown outcome member
            rfl
          rw [closes]
          refine ⟨[], object, ?_, ?_, rfl, parsed⟩
          · rw [same, List.append_nil]
          · exact congrArg (List.cons (Value.object object)) silent

/-- A call adds at most one operation. -/
theorem performAll_length (calls : List Call) (builder : ResultBuilder) :
    (performAll engine builder calls).1.ops.length ≤ builder.ops.length + calls.length := by
  induction calls generalizing builder with
  | nil => exact le_rfl
  | cons call rest ih =>
      have step : (call.perform engine builder).1.ops.length ≤ builder.ops.length + 1 := by
        cases closed : builder.sealed with
        | true =>
            rw [(perform_sealed engine closed call).1]
            exact Nat.le_succ _
        | false =>
            cases done : call.perform engine builder with
            | mk next outcome =>
            have step := performed engine closed call
            rw [done] at step
            cases step with
            | op object operation asked stays parsed => rw [List.length_append]; rfl
            | threw | terminal => exact Nat.le_succ _
      rw [List.length_cons]
      calc (performAll engine (call.perform engine builder).1 rest).1.ops.length
          ≤ (call.perform engine builder).1.ops.length + rest.length := ih _
        _ ≤ builder.ops.length + (rest.length + 1) := by omega

/-- The operations of a list are parsed in order. -/
theorem parse_read (builder : ResultBuilder) (terminal : List (String × Value))
    (small : builder.ops.length < 2 ^ 32) :
    parse engine (builder.read (.object terminal)) = (parseTerminal engine (.object terminal)).map fun parsed =>
      ⟨builder.ops.filterMap (parseOp engine), parsed⟩ := by
  have length : getArrayLength engine (.array builder.ops) = builder.ops.length := by
    change (UInt32.ofBitVec (BitVec.ofInt 32 builder.ops.length)).toNat = builder.ops.length
    rw [UInt32.toNat_ofBitVec, BitVec.ofInt_natCast, BitVec.toNat_ofNat]
    exact Nat.mod_eq_of_lt small
  have items : (List.range builder.ops.length).map (fun index => propertyAt index (.array builder.ops)) =
      builder.ops := by
    refine List.ext_getElem (by simp) fun index inside _ => ?_
    rw [List.length_map, List.length_range] at inside
    simp [propertyAt, inside]
  have parsed := List.filterMap_map (f := fun index => propertyAt index (.array builder.ops))
    (g := parseOp engine) (l := List.range builder.ops.length)
  rw [items] at parsed
  unfold parse ResultBuilder.read
  simp only [property_object, lookUp_cons, String.reduceEq, if_true, if_false, Value.isAbsent, Bool.false_eq_true, length]
  rw [parsed]
  rfl

/-- The driver reads the operations before the first terminal and this terminal. Every later call throws and leaves the
result, and the builder itself is no result. -/
theorem parse_performAll (calls : List Call) (small : calls.length < 2 ^ 32) :
    let after := performAll engine .new calls
    (after.2.filterMap Outcome.terminal).map (fun terminal => parse engine (after.1.read terminal)) =
        (expected engine calls).toList.map some ∧
      (after.2.Pairwise fun earlier later => earlier.terminal.isSome → later.Thrown) ∧
      parse engine after.1.value = none := by
  refine ⟨?_, performAll_thrown engine calls .new, rfl⟩
  have handed := performAll_handed engine calls .new rfl
  have bound : (performAll engine .new calls).1.ops.length < 2 ^ 32 :=
    (performAll_length engine calls .new).trans_lt ((Nat.zero_add calls.length).trans_lt small)
  cases wanted : expected engine calls with
  | none =>
      rw [wanted] at handed
      rw [show List.filterMap _ _ = [] from handed]
      rfl
  | some result =>
      rw [wanted] at handed
      obtain ⟨added, terminal, ops, returned, read, closed⟩ := handed
      rw [returned, List.map_singleton, parse_read engine _ terminal bound, closed]
      rw [ops, show ResultBuilder.new.ops = [] from rfl, List.nil_append, read]
      rfl

/-- The late calls of a script throw, and its value without an endpoint updates the device. -/
theorem parse_performAll_isOn :
    let after := performAll .plain .new
      [.updateResource (.string (units "isOn")) (.string (units "true")) .undefined .undefined,
        .readAttribute (.whole 6) (.whole 0) .null, .success .undefined, .log (.string (units "late"))]
    (after.2.filterMap Outcome.terminal).map (fun terminal => parse .plain (after.1.read terminal)) =
        [some ⟨[.updateResource none "isOn" "true" none], .success ""⟩] ∧
      (after.2.Pairwise fun earlier later => earlier.terminal.isSome → later.Thrown) ∧
      parse .plain after.1.value = none := by
  have parsed := parse_performAll .plain
    [.updateResource (.string (units "isOn")) (.string (units "true")) .undefined .undefined,
      .readAttribute (.whole 6) (.whole 0) .null, .success .undefined, .log (.string (units "late"))] (by decide)
  simp only [expected, Call.closing, Call.resultOp, Engine.plain.text_units "isOn" (by decide),
    Engine.plain.text_units "true" (by decide)] at parsed
  exact parsed

end Runs

end Barton.Results
