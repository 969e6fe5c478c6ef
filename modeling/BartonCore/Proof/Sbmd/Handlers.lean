import BartonCore.Construction.Sbmd.Handlers
import BartonCore.Proof.Sbmd.Invocations
import BartonCore.Proof.Tlv.Integers
import BartonCore.Proof.Tlv.Numerals

namespace Barton.Handlers
open Invocations Results
open PersistentData (ResultOp)
open Sbmd (Terminal)
open Tlv (Failure JsString JsValue Numeral Sign Spells charUnits radixDigit signedNumber units)

section Texts

@[simp] theorem units_append (first second : String) : units (first ++ second) = units first ++ units second := by
  simp [units]

/-- These code units are ASCII and not null. -/
def Plain (text : JsString) : Prop := ∀ unit ∈ text, 0 < unit.toNat ∧ unit.toNat < 128

theorem toNat_ascii : ∀ code < 128, (Char.ofNat code).toNat = code := by decide +kernel

/-- A plain text is the copy of a text of the driver. -/
theorem Plain.exists_text {text : JsString} (plain : Plain text) :
    ∃ same : String, units same = text ∧ Char.ofNat 0 ∉ same.toList := by
  have value : ∀ unit ∈ text, (Char.ofNat unit.toNat).toNat = unit.toNat :=
    fun unit member => toNat_ascii _ (plain unit member).2
  refine ⟨String.ofList (text.map fun unit => Char.ofNat unit.toNat), ?_, ?_⟩
  · rw [units, String.toList_ofList, List.flatMap_map]
    refine Eq.trans (List.flatMap_congr ?_) (List.flatMap_singleton' text)
    intro unit member
    have bound := (plain unit member).2
    rw [charUnits, value unit member, if_pos (by omega), UInt16.ofNat_toNat]
  · rw [String.toList_ofList, List.mem_map]
    rintro ⟨unit, member, same⟩
    have zero := value unit member
    rw [same] at zero
    have positive := (plain unit member).1
    change 0 = unit.toNat at zero
    omega

theorem charAt_plain : ∀ index < 64, 0 < (Tlv.Base64.charAt index).toNat ∧ (Tlv.Base64.charAt index).toNat < 128 := by
  decide +kernel

theorem encodeBlock_plain (b0 : UInt8) (b1 b2 : Option UInt8) : Plain (Tlv.Base64.encodeBlock b0 b1 b2) := by
  intro unit member
  rw [Tlv.Base64.encodeBlock] at member
  simp only [List.mem_cons, List.not_mem_nil, or_false] at member
  rcases member with rfl | rfl | rfl | rfl
  · exact charAt_plain _ (Tlv.Base64.sextet_zero b0)
  · exact charAt_plain _ (Tlv.Base64.sextet_one b0 _)
  · split
    · exact charAt_plain _ (Tlv.Base64.sextet_two _ _)
    · decide
  · split
    · exact charAt_plain _ (Tlv.Base64.sextet_three _)
    · decide

theorem base64_plain (bytes : List UInt8) : Plain (Tlv.Base64.encode bytes) := by
  fun_induction Tlv.Base64.encode bytes with
  | case1 =>
      intro unit member
      cases member
  | case2 b0 => exact encodeBlock_plain b0 none none
  | case3 b0 b1 => exact encodeBlock_plain b0 (some b1) none
  | case4 b0 b1 b2 rest ih =>
      intro unit member
      rcases List.mem_append.mp member with first | later
      · exact encodeBlock_plain b0 (some b1) (some b2) unit first
      · exact ih unit later

end Texts

section Numerals

/-- A decimal digit has one code unit, which is the digit of base ten. -/
theorem spells_characters {characters : List Char} (numerals : ∀ character ∈ characters, character.isDigit = true) :
    Spells 10 (characters.flatMap charUnits) (characters.map fun character => character.toNat - 48) := by
  induction characters with
  | nil => rfl
  | cons character rest ih =>
      obtain ⟨single, digit⟩ := Tlv.charUnits_digit (numerals character List.mem_cons_self)
      have bounds : 48 ≤ character.toNat ∧ character.toNat ≤ 57 :=
        Char.isDigit_iff_toNat.mp (numerals character List.mem_cons_self)
      have later := ih fun other member => numerals other (List.mem_cons_of_mem _ member)
      have first : radixDigit 10 (UInt16.ofNat character.toNat) = some (character.toNat - 48) := by
        have known : ∀ code ≤ 57, 48 ≤ code → radixDigit 10 (UInt16.ofNat code) = some (code - 48) := by decide
        exact known _ bounds.2 bounds.1
      rw [Spells, List.flatMap_cons, single, List.singleton_append, List.map_cons, first, later, List.map_cons,
        List.map_cons]

theorem ofDigits_characters (characters : List Char) :
    Nat.ofDigits 10 (characters.map fun character => character.toNat - 48).reverse =
      Nat.ofDigitChars 10 characters 0 := by
  rw [Nat.ofDigits_eq_foldr, List.foldr_reverse, List.foldl_map, Nat.ofDigitChars]
  congr 1
  funext value character
  exact Nat.add_comm _ _

/-- A numeral has no white space to trim. -/
theorem trim_signed {sign text : JsString} {negative : Bool} {values : List Nat} (signs : Sign sign negative)
    (spells : Spells 10 text values) (nonempty : values ≠ []) : Tlv.trim (sign ++ text) = sign ++ text := by
  rw [Tlv.trim, Tlv.signed_not_space signs spells nonempty]
  cases text using List.reverseRecOn with
  | nil => exact absurd (List.length_eq_zero_iff.mp (Tlv.spells_length spells).symm) nonempty
  | append_singleton front last =>
      obtain ⟨value, digit⟩ := Tlv.spells_getElem spells (List.mem_append_right _ List.mem_cons_self)
      rw [← List.append_assoc, List.reverse_append, List.reverse_singleton, List.singleton_append,
        List.dropWhile_cons_of_neg (by rw [Tlv.digit_not_space digit]; exact Bool.false_ne_true), List.reverse_cons,
        List.reverse_reverse]

/-- Zeros before the digits do not change the number. -/
theorem numeral_padded {sign : JsString} {negative : Bool} (signs : Sign sign negative) (zeros magnitude : Nat) :
    Numeral 10 (sign ++ (List.replicate zeros 0x30 ++ units (toString magnitude))) (signedNumber negative magnitude) := by
  have numerals : ∀ character ∈ List.replicate zeros '0' ++ Nat.toDigits 10 magnitude, character.isDigit = true := by
    intro character member
    rcases List.mem_append.mp member with zero | digit
    · rw [List.eq_of_mem_replicate zero]
      decide
    · exact Nat.isDigit_of_mem_toDigits (by decide) (by decide) digit
  have text : (List.replicate zeros '0' ++ Nat.toDigits 10 magnitude).flatMap charUnits =
      List.replicate zeros 0x30 ++ units (toString magnitude) := by
    rw [List.flatMap_append, List.flatMap_replicate, units, show toString magnitude = magnitude.repr from rfl,
      Nat.toList_repr]
    congr 1
    exact List.flatten_replicate_singleton
  have spells := spells_characters numerals
  have value := ofDigits_characters (List.replicate zeros '0' ++ Nat.toDigits 10 magnitude)
  rw [Nat.ofDigitChars_append, Nat.ofDigitChars_replicate_zero, Nat.mul_zero, Nat.ofDigitChars_ten_toDigits] at value
  rw [text] at spells
  have nonempty : (List.replicate zeros '0' ++ Nat.toDigits 10 magnitude).map (fun character => character.toNat - 48) ≠
      [] := by simp [Nat.toDigits_ne_nil]
  exact ⟨sign, negative, _, _, signs, spells, nonempty, trim_signed signs spells nonempty, by rw [value]⟩

end Numerals

section Calls
variable {engine : Engine}

/-- No call of the handler throws. -/
def Smooth (engine : Engine) (calls : List Call) : Prop :=
  ∀ call ∈ calls, call.resultOp engine ≠ none ∨ call.closing engine ≠ none

/-- The driver gets the operations and the terminal of a handler that throws nothing. -/
theorem returned_parsed {calls : List Call} (smooth : Smooth engine calls) {result : ParsedResult}
    (wanted : expected engine calls = some result) (builder : ResultBuilder) (unsealed : builder.sealed = false)
    (short : builder.ops.length + calls.length < 2 ^ 32) :
    ∃ value, returned engine builder calls = some value ∧
      parse engine value = some ⟨builder.ops.filterMap (parseOp engine) ++ result.ops, result.terminal⟩ := by
  induction calls generalizing builder result with
  | nil => cases wanted
  | cons call rest ih =>
      have step := performed engine unsealed call
      rw [returned]
      generalize call.perform engine builder = after at step
      cases step with
      | op object operation asked stays parsed =>
          rw [expected, stays, asked] at wanted
          obtain ⟨later, expects, rfl⟩ := Option.map_eq_some_iff.mp wanted
          have bound : (builder.ops ++ [Value.object object]).length + rest.length < 2 ^ 32 := by
            rw [List.length_append, List.length_singleton]
            rw [List.length_cons] at short
            omega
          obtain ⟨value, returns, reads⟩ := ih (fun other member => smooth other (List.mem_cons_of_mem _ member)) expects
            { builder with ops := builder.ops ++ [.object object] } unsealed bound
          refine ⟨value, returns, reads.trans ?_⟩
          rw [List.filterMap_append, List.filterMap_cons_some parsed, List.filterMap_nil, List.append_assoc]
          rfl
      | threw message asked stays =>
          rcases smooth call List.mem_cons_self with asks | closes
          · exact absurd asked asks
          · exact absurd stays closes
      | terminal object terminal closes parsed =>
          rw [expected, closes] at wanted
          cases wanted
          refine ⟨_, rfl, ?_⟩
          have small : builder.ops.length < 2 ^ 32 := by omega
          rw [List.append_nil]
          refine (parse_read engine _ object small).trans ?_
          rw [parsed]
          rfl

end Calls

section Scripts
variable {script : Script} {environment : Environment}
  {function : JsString → Handled} {result : ParsedResult} {resource : String}

/-- The value of a call is what the driver reads. -/
def Reads (engine : Engine) (handled : Handled) (result : ParsedResult) : Prop :=
  ∃ calls, handled = .ok calls ∧ Smooth engine calls ∧ calls.length < 2 ^ 32 ∧ expected engine calls = some result

theorem Reads.parsed {engine : Engine} {handled : Handled} (reads : Reads engine handled result) :
    ∃ value, Script.value engine handled = some value ∧ parse engine value = some result := by
  obtain ⟨calls, rfl, smooth, short, wanted⟩ := reads
  exact returned_parsed smooth wanted .new rfl (by rwa [show ResultBuilder.new.ops = [] from rfl, List.length_nil, Nat.zero_add])

/-- A text without a null character is copied as it is. -/
def Clean (text : String) : Prop := Char.ofNat 0 ∉ text.toList

instance (text : String) : Decidable (Clean text) := inferInstanceAs (Decidable (¬_))

theorem clean_toString (number : Nat) : Clean (toString number) := by
  intro member
  rw [show toString number = number.repr from rfl, Nat.toList_repr] at member
  exact absurd (Nat.isDigit_of_mem_toDigits (by decide) (by decide) member) (by decide)

theorem Clean.append {first second : String} (begins : Clean first) (ends : Clean second) : Clean (first ++ second) := by
  rw [Clean, String.toList_append, List.mem_append, not_or]
  exact ⟨begins, ends⟩

theorem reads_updated (engine : Engine) {endpointId resource text : String} (place : Clean endpointId)
    (named : Clean resource) (clean : Clean text) :
    Reads engine (.ok (updated (.string (units endpointId)) resource (.string (units text))))
      ⟨[.updateResource (some endpointId) resource text none], .success ""⟩ := by
  refine ⟨_, rfl, ?_, show 2 < 2 ^ 32 by decide, ?_⟩
  · intro call member
    rcases List.mem_pair.mp member with rfl | rfl
    · exact .inl (Option.some_ne_none _)
    · exact .inr (Option.some_ne_none _)
  · simp only [expected, updated, Call.closing, Call.resultOp, Option.map_some, Option.toList_some, Engine.optText,
      engine.text_units endpointId place, engine.text_units resource named, engine.text_units text clean]
    rfl

theorem reads_rejected (engine : Engine) (message : JsString) :
    Reads engine (.ok (rejected message)) ⟨[], .error (engine.text (.string message))⟩ :=
  ⟨_, rfl, fun _ member => .inr (by rw [List.mem_singleton.mp member]; exact Option.some_ne_none _),
    show 1 < 2 ^ 32 by decide, rfl⟩

theorem reads_success (engine : Engine) : Reads engine (.ok [.success .undefined]) ⟨[], .success ""⟩ :=
  ⟨_, rfl, fun _ member => .inr (by rw [List.mem_singleton.mp member]; exact Option.some_ne_none _),
    show 1 < 2 ^ 32 by decide, rfl⟩

theorem reads_written (engine : Engine) (clusterId attributeId : Nat) {tlvBase64 : String} (clean : Clean tlvBase64) :
    Reads engine (.ok (written clusterId attributeId (some (units tlvBase64))))
      ⟨[], .writeAttribute ⟨UInt32.ofNat clusterId, UInt32.ofNat attributeId, none⟩ tlvBase64⟩ := by
  refine ⟨_, rfl, fun _ member => .inr (by rw [List.mem_singleton.mp member]; exact Option.some_ne_none _),
    show 1 < 2 ^ 32 by decide, ?_⟩
  simp only [expected, written, Call.closing, Option.map_some, Option.getD_some, engine.text_units tlvBase64 clean]
  rfl

/-- A write calls the function of the resource with the input. -/
theorem write_called
    (known : script.writes.lookup resource = some function) (engine : Engine) (hctx : HandlerContext) (input : String) :
    script.write engine resource (.object (buildResourceArgs hctx resource (some input))) =
      Script.value engine (function (units input)) := by
  have input_read : textOf (property "input" (property "resource" (.object
      (buildResourceArgs hctx resource (some input))))) = some (units input) := by
    rw [property_object, buildResourceArgs, lookUp_setProperty, if_pos rfl, property_object]
    rfl
  rw [Script.write, known, Option.bind_some, input_read, Option.bind_some]

theorem write_parsed (known : script.writes.lookup resource = some function) {engine : Engine} {input : String}
    (reads : Reads engine (function (units input)) result) (hctx : HandlerContext) :
    (script.write engine resource (.object (buildResourceArgs hctx resource (some input)))).bind (parse engine) =
      some result := by
  obtain ⟨value, returns, parsed⟩ := reads.parsed
  rw [write_called known, returns, Option.bind_some, parsed]

/-- An exception of the function ends the write. -/
theorem write_threw (known : script.writes.lookup resource = some function) {input : String} {failure : Failure}
    (threw : function (units input) = .error failure) (engine : Engine) (hctx : HandlerContext) :
    (script.write engine resource (.object (buildResourceArgs hctx resource (some input)))).bind (parse engine) =
      none := by
  rw [write_called known, threw]
  rfl

/-- A script without supplements gets the arguments of the report. -/
theorem addSupplements_none (fetched : FetchedSupplements) (args : List (String × Value)) :
    addSupplements (fun _ => []) fetched args = args := rfl

/-- A report that selects one handler of the script executes the operations of its result. -/
theorem report_executed (runs : environment.script = fun _ => script.report environment.engine) {report : Report}
    (kind : report.kind = .attributes) {handler : Nat} {priority : Dispatch.HandlerPriority}
    (selects : matchingEntries script.driver report = [⟨handler, priority⟩]) {function : Value → Option JsString → Handled}
    (known : script.functions[handler]? = some function) {payload : String} (sent : report.payload = some payload)
    (nonempty : payload ≠ "")
    (reads : Reads environment.engine
      (function (.string (units (toString report.endpointId))) (some (units payload))) result) (world : World) :
    handleReport environment script.driver world report = executeOps environment report.deviceId result.ops
      { world with
        invocations := world.invocations + 1
        log := world.log ++ [.invoked handler (.object (report.buildArgs payload))] } := by
  obtain ⟨value, returns, parsed⟩ := reads.parsed
  have text : report.tlvBase64 = some payload := by
    rw [Report.tlvBase64, kind, sent]
    simp [nonempty]
  have payload_read : textOf (property "tlvBase64" (property "attribute" (.object (report.buildArgs payload)))) =
      some (units payload) := by
    rw [property_object, Report.buildArgs, kind, buildAttributeArgs, buildTriggerArgs, lookUp_setProperty, if_pos rfl,
      property_object, if_neg nonempty]
    rfl
  have endpoint_read : property "endpointId" (.object (report.buildArgs payload)) =
      .string (units (toString report.endpointId)) := by
    rw [property_object, Report.buildArgs, kind, buildAttributeArgs, buildTriggerArgs, lookUp_setProperty,
      if_neg (by decide)]
    rfl
  have called : (environment.script world.invocations handler (.object (report.buildArgs payload))).bind
      (parse environment.engine) = some result := by
    rw [runs]
    change (script.report environment.engine handler (.object (report.buildArgs payload))).bind _ = _
    rw [Script.report, known, Option.bind_some, payload_read, endpoint_read, returns, Option.bind_some, parsed]
  rw [handleReport, reportInvocations, if_pos (show script.driver.activated = true from rfl), text]
  dsimp only
  rw [selects, List.map_singleton, invokeAll, List.foldl_cons, List.foldl_nil]
  have prefetch : prefetchSupplements environment report.deviceId (fun _ => []) world =
      (world, fun category => if category = .transientData then [] else []) := rfl
  unfold invokeHandler entryInvocation
  dsimp only [Script.driver]
  cases report.device.isSome with
  | false =>
      rw [if_neg Bool.false_ne_true, addSupplements_none, called]
  | true =>
      rw [if_pos rfl, prefetch]
      dsimp only
      rw [addSupplements_none, called]

end Scripts

section Decodings
variable (language : Language)

theorem handleDecoded_whole {missing : List Call} {handle : JsValue → Handled} {tlvBase64 : Option JsString} {number : ℤ}
    (decoded : Tlv.decode tlvBase64 = .ok (.whole number)) :
    handleDecoded missing handle tlvBase64 = handle (.whole number) := by
  rw [handleDecoded, decoded]
  rfl

theorem handleDecoded_null {missing : List Call} {handle : JsValue → Handled} {tlvBase64 : Option JsString}
    (decoded : Tlv.decode tlvBase64 = .ok .null) : handleDecoded missing handle tlvBase64 = .ok missing := by
  rw [handleDecoded, decoded]
  rfl

theorem keyOfText_toString {index : Nat} (small : index < 4294967295) :
    keyOfText (units (toString index)) = .index index := by
  have value : Tlv.digits 0 (units (toString index)) = index := by
    have numerals : ∀ character ∈ Nat.toDigits 10 index, character.isDigit = true :=
      fun character member => Nat.isDigit_of_mem_toDigits (by decide) (by decide) member
    rw [units, show toString index = index.repr from rfl, Nat.toList_repr, Tlv.digits_flatMap numerals,
      Nat.ofDigitChars_ten_toDigits]
  rw [keyOfText, value]
  exact if_pos ⟨rfl, small⟩

/-- A small whole number is the index of its key. -/
theorem propertyKey_whole {index : Nat} (small : index < 4294967295) :
    language.propertyKey (.whole index) = .ok (.index index) := by
  change (language.toText (.whole index)).map keyOfText = _
  rw [language.toText_whole index (by rw [Int.abs_natCast]; exact_mod_cast (by omega))]
  exact congrArg Except.ok (keyOfText_toString small)

end Decodings

section Encodings
variable (language : Language) {matter : Tlv.MatterType}

theorem writeFresh_base64 {toNumber : JsValue → Tlv.JsNumber} {type : Option String} {value : JsValue} {text : JsString}
    (written : Tlv.writeFresh toNumber type value = .ok (some text)) :
    ∃ bytes, Tlv.writeElement toNumber none type value = .ok bytes ∧ text = Tlv.Base64.encode bytes := by
  unfold Tlv.writeFresh at written
  cases element : Tlv.writeElement toNumber none type value with
  | error failure =>
      rw [element] at written
      cases written
  | ok bytes =>
      rw [element] at written
      cases written
      exact ⟨bytes, rfl, rfl⟩

/-- An encoding is the base64 text of an element. -/
theorem writeChecked_base64 {toNumber : JsValue → Tlv.JsNumber} {range : Option Tlv.IntegerRange} {type : String}
    {value : JsValue} {text : JsString} (written : Tlv.writeChecked toNumber range type value = .ok (some text)) :
    ∃ bytes, Tlv.writeElement toNumber none (some type) value = .ok bytes ∧ text = Tlv.Base64.encode bytes := by
  unfold Tlv.writeChecked at written
  split at written
  · split at written
    · cases written
    · exact writeFresh_base64 written
  · exact writeFresh_base64 written

/-- A text is encoded as the decimal number that it spells, if there is one. -/
theorem encode_parsed {low high : ℤ} (small : matter ∈ Tlv.smallTypes)
    (range : matter.range = some (low, high)) (text : JsString) :
    language.encode (.string text) matter.name =
      (Tlv.parseInteger (.whole (10 : Nat)) text).elim (.ok none) fun parsed =>
        Tlv.writeChecked language.toNumber (some (.bounds low high)) matter.name (.number (.integral parsed)) := by
  have named : ∀ matter ∈ Tlv.smallTypes, matter.name ≠ "string" := by decide
  rw [Language.encode, Tlv.encode, if_neg (named matter small), Tlv.rangeOf, Tlv.lookup_integerRanges matter small, range]
  simp only [JsValue.isUndefined, if_true]
  cases Tlv.parseInteger (.whole (10 : Nat)) text with
  | none => rfl
  | some parsed => rfl

/-- A text is encoded as an integer of the type exactly if it is a decimal numeral of its range. -/
theorem encode_text {low high : ℤ} (small : matter ∈ Tlv.smallTypes)
    (range : matter.range = some (low, high)) (text : JsString) :
    (∃ number bytes, Numeral 10 text number ∧ (low ≤ number ∧ number ≤ high) ∧
      Tlv.writeElement language.toNumber none (some matter.name) (.whole number) = .ok bytes ∧
      language.encode (.string text) matter.name = .ok (some (Tlv.Base64.encode bytes)) ∧
        Tlv.decode (some (Tlv.Base64.encode bytes)) = .ok (.whole number)) ∨
    ((∀ number, Numeral 10 text number → ¬(low ≤ number ∧ number ≤ high)) ∧
      language.encode (.string text) matter.name = .ok none) := by
  have parses := encode_parsed language small range text
  obtain ⟨lowest, highest⟩ := Tlv.small_bounds small range
  have ten : Tlv.Base 10 := .inr (.inr (.inl rfl))
  by_cases inside : ∃ number, Numeral 10 text number ∧ low ≤ number ∧ number ≤ high
  · left
    obtain ⟨number, numeral, bounds⟩ := inside
    obtain ⟨negative, magnitude, rfl, parsed⟩ := Tlv.parseInteger_some ten numeral
    obtain ⟨text, checked, decoded⟩ := @Tlv.writeChecked_inside language.toNumber _ _ _ small range _ bounds.1 bounds.2
    obtain ⟨bytes, element, rfl⟩ := writeChecked_base64 checked
    refine ⟨_, bytes, numeral, bounds, element, ?_, decoded⟩
    rw [parses, parsed, Tlv.rounded_of_exact ⟨by omega, by omega⟩, Option.elim_some]
    exact checked
  · right
    have outside : ∀ number, Numeral 10 text number → ¬(low ≤ number ∧ number ≤ high) :=
      fun number numeral bounds => inside ⟨number, numeral, bounds⟩
    refine ⟨outside, ?_⟩
    rw [parses]
    by_cases numeral : ∃ number, Numeral 10 text number
    · obtain ⟨number, spelled⟩ := numeral
      obtain ⟨negative, magnitude, rfl, parsed⟩ := Tlv.parseInteger_some ten spelled
      rw [parsed, Option.elim_some]
      exact Tlv.writeChecked_excluded (Tlv.excludes_rounded lowest highest (outside _ spelled))
    · rw [Tlv.parseInteger_none ten fun number spelled => numeral ⟨number, spelled⟩]
      rfl

/-- A whole number of the range is encoded. -/
theorem encode_whole {low high number : ℤ} (small : matter ∈ Tlv.smallTypes)
    (range : matter.range = some (low, high)) (above : low ≤ number) (below : number ≤ high) :
    ∃ bytes, Tlv.writeElement language.toNumber none (some matter.name) (.whole number) = .ok bytes ∧
      language.encode (.whole number) matter.name = .ok (some (Tlv.Base64.encode bytes)) ∧
      Tlv.decode (some (Tlv.Base64.encode bytes)) = .ok (.whole number) := by
  have named : ∀ matter ∈ Tlv.smallTypes, matter.name ≠ "string" := by decide
  obtain ⟨text, checked, decoded⟩ := @Tlv.writeChecked_inside language.toNumber _ _ _ small range _ above below
  obtain ⟨bytes, element, rfl⟩ := writeChecked_base64 checked
  refine ⟨bytes, element, ?_, decoded⟩
  rw [Language.encode, JsValue.whole, Tlv.encode_number (named matter small), Tlv.rangeOf,
    Tlv.lookup_integerRanges matter small, range]
  exact checked

end Encodings
end Barton.Handlers
