import BartonCore.Construction.Sbmd.Thermostat
import BartonCore.Proof.Sbmd.Handlers
import BartonCore.Proof.Tlv.Schema

namespace Barton.Thermostat
open Handlers Invocations Results
open Tlv (JsString JsValue Numeral PropertyKey Sign signedNumber units)

section Temperatures

theorem zeroPad_eq (width : Nat) (text : JsString) :
    zeroPad width text = List.replicate (width - text.length) 0x30 ++ text := by
  fun_induction zeroPad width text with
  | case1 text short ih =>
      rw [ih, List.length_cons, show width - text.length = width - (text.length + 1) + 1 by omega,
        List.replicate_succ', List.append_assoc, List.singleton_append]
  | case2 text long =>
      rw [show width - text.length = 0 by omega, List.replicate_zero, List.nil_append]

/-- A temperature has at least four characters, a sign included. -/
def temperatureText (number : ℤ) : String :=
  let width := if number < 0 then 3 else 4
  let digits := toString number.natAbs
  (if number < 0 then "-" else "") ++ String.ofList (List.replicate (width - digits.length) '0') ++ digits

theorem units_length_toString (number : Nat) : (units (toString number)).length = (toString number).length := by
  have numerals : ∀ character ∈ (toString number).toList, character.isDigit = true := by
    intro character member
    rw [show toString number = number.repr from rfl, Nat.toList_repr] at member
    exact Nat.isDigit_of_mem_toDigits (by decide) (by decide) member
  rw [units, ← String.length_toList]
  generalize (toString number).toList = characters at numerals
  induction characters with
  | nil => rfl
  | cons character rest ih =>
      have single := (Tlv.charUnits_digit (numerals character List.mem_cons_self)).1
      rw [List.flatMap_cons, single, List.length_append, ih fun other inside => numerals other (List.mem_cons_of_mem _ inside)]
      exact Nat.add_comm _ _

theorem units_temperatureText (number : ℤ) : units (temperatureText number) =
    (if number < 0 then units "-" else []) ++ zeroPad (if number < 0 then 3 else 4) (units (toString number.natAbs)) := by
  have zeros (count : Nat) : units (String.ofList (List.replicate count '0')) = List.replicate count 0x30 := by
    rw [units, String.toList_ofList, List.flatMap_replicate]
    exact List.flatten_replicate_singleton
  rw [temperatureText, zeroPad_eq, units_length_toString, units_append, units_append, zeros, List.append_assoc]
  by_cases negative : number < 0
  · simp only [if_pos negative]
  · simp only [if_neg negative]
    rfl

/-- The text of a temperature is its numeral. -/
theorem numeral_temperatureText (number : ℤ) : Numeral 10 (units (temperatureText number)) number := by
  rw [units_temperatureText, zeroPad_eq]
  by_cases negative : number < 0
  · have numeral := numeral_padded Sign.minus (3 - (units (toString number.natAbs)).length) number.natAbs
    rw [show signedNumber true number.natAbs = number from by rw [signedNumber, if_pos rfl]; omega] at numeral
    rw [if_pos negative, if_pos negative]
    exact numeral
  · have numeral := numeral_padded Sign.none (4 - (units (toString number.natAbs)).length) number.natAbs
    rw [show signedNumber false number.natAbs = number from by rw [signedNumber, if_neg Bool.false_ne_true]; omega]
      at numeral
    rw [if_neg negative, if_neg negative]
    exact numeral

end Temperatures

section Meanings

/-- These are the attributes that a thermostat reports. -/
inductive Attribute where
  | localTemperature
  | absMinHeat
  | absMaxHeat
  | absMinCool
  | absMaxCool
  | occupiedCoolingSetpoint
  | occupiedHeatingSetpoint
  | ctrlSeqOp
  | systemMode
  | runningState
  | fanMode
  | fanPercentCurrent

/-- These are the cluster and the id of the attribute. -/
def Attribute.path : Attribute → UInt32 × UInt32
  | .localTemperature => (0x0201, 0x0000)
  | .absMinHeat => (0x0201, 0x0003)
  | .absMaxHeat => (0x0201, 0x0004)
  | .absMinCool => (0x0201, 0x0005)
  | .absMaxCool => (0x0201, 0x0006)
  | .occupiedCoolingSetpoint => (0x0201, 0x0011)
  | .occupiedHeatingSetpoint => (0x0201, 0x0012)
  | .ctrlSeqOp => (0x0201, 0x001b)
  | .systemMode => (0x0201, 0x001c)
  | .runningState => (0x0201, 0x0029)
  | .fanMode => (0x0202, 0x0000)
  | .fanPercentCurrent => (0x0202, 0x0006)

/-- The type of the attribute in the specification of the device. -/
def Attribute.type : Attribute → Tlv.MatterType
  | .ctrlSeqOp => .enum8
  | .systemMode => .enum8
  | .fanMode => .enum8
  | .runningState => .uint16
  | .fanPercentCurrent => .uint8
  | _ => .int16

def Attribute.resource : Attribute → String
  | .localTemperature => "localTemperature"
  | .absMinHeat => "absoluteMinHeatLimit"
  | .absMaxHeat => "absoluteMaxHeatLimit"
  | .absMinCool => "absoluteMinCoolLimit"
  | .absMaxCool => "absoluteMaxCoolLimit"
  | .occupiedCoolingSetpoint => "coolSetpoint"
  | .occupiedHeatingSetpoint => "heatSetpoint"
  | .ctrlSeqOp => "controlSequenceOfOperation"
  | .systemMode => "systemMode"
  | .runningState => "systemState"
  | .fanMode => "fanMode"
  | .fanPercentCurrent => "fanOn"

/-- The resource shows a number of the device as this text, or it does not change. -/
def Attribute.text (reported : Attribute) (number : ℤ) : Option String :=
  match reported with
  | .ctrlSeqOp => seqValues[number.toNat]?
  | .systemMode => some <| match number with
      | 0 => "off"
      | 1 => "auto"
      | 3 => "cool"
      | 4 | 5 => "heat"
      | 6 => "precooling"
      | 7 => "fanOnly"
      | _ => "unknown"
  | .runningState => some <|
      if number.toNat.testBit 0 ∨ number.toNat.testBit 3 then "heating"
      else if number.toNat.testBit 1 ∨ number.toNat.testBit 4 then "cooling"
      else "off"
  | .fanMode => some <| match number with
      | 0 => "off"
      | 1 | 2 | 3 | 4 => "on"
      | 5 => "auto"
      | _ => "unknown"
  | .fanPercentCurrent => some (if number = 0 then "false" else "true")
  | _ => some (temperatureText number)

/-- This is the handler of the attribute among the functions of the script. -/
def Attribute.handler : Attribute → Nat
  | .localTemperature => 0
  | .occupiedHeatingSetpoint => 1
  | .occupiedCoolingSetpoint => 2
  | .absMinHeat => 3
  | .absMaxHeat => 4
  | .absMinCool => 5
  | .absMaxCool => 6
  | .ctrlSeqOp => 7
  | .systemMode => 8
  | .runningState => 9
  | .fanMode => 10
  | .fanPercentCurrent => 11

/-- A report of an attribute selects its handler and no other one. -/
theorem selects (language : Language) (reported : Attribute) {report : Report} (kind : report.kind = .attributes)
    (path : (report.clusterId, report.elementId) = reported.path) :
    matchingEntries (thermostat language).driver report = [⟨reported.handler, .single⟩] := by
  rw [matchingEntries, kind]
  have cluster : report.clusterId = reported.path.1 := congrArg Prod.fst path
  have element : report.elementId = reported.path.2 := congrArg Prod.snd path
  rw [cluster, element]
  change Dispatch.lookup (Dispatch.activate (registration aliases attributeHandlers) .attributes) _ _ = _
  cases reported <;> decide +kernel

end Meanings

section Reports
variable {language : Language} (engine : Engine) {endpointId : String} {tlvBase64 : Option JsString} {number : ℤ}

theorem clean_temperatureText (number : ℤ) : Clean (temperatureText number) := by
  refine Clean.append (Clean.append ?_ ?_) (clean_toString _)
  · split <;> decide
  · intro member
    rw [String.toList_ofList] at member
    exact absurd (List.eq_of_mem_replicate member) (by decide)

/-- The handlers of temperatures show the number. -/
theorem reads_temperature {resource : String} {missing : List Call} (place : Clean endpointId) (named : Clean resource)
    (small : |number| < 10 ^ 21) (decoded : Tlv.decode tlvBase64 = .ok (.whole number)) :
    Reads engine (handleTemperature language resource missing (.string (units endpointId)) tlvBase64)
      ⟨[.updateResource (some endpointId) resource (temperatureText number) none], .success ""⟩ := by
  have text : language.toText (.number (abs (.integral (.finite number)))) = .ok (units (toString number.natAbs)) := by
    change language.toText (.whole |number|) = _
    rw [language.toText_whole _ (by rwa [abs_abs]), Int.abs_eq_natAbs]
    rfl
  have handled : handleTemperature language resource missing (.string (units endpointId)) tlvBase64 =
      .ok (updated (.string (units endpointId)) resource (.string (units (temperatureText number)))) := by
    rw [handleTemperature, handleDecoded_whole decoded]
    change (language.toText (.number (abs (.integral (.finite number)))) >>= _) = _
    rw [text, units_temperatureText]
    have sign : isNegative (language.number (.whole number)) = decide (number < 0) := rfl
    change Except.ok _ = Except.ok _
    simp only [sign, decide_eq_true_eq]
  rw [handled]
  exact reads_updated engine place named (clean_temperatureText number)

/-- A map has only its own numbers. -/
theorem objectProperty_index (language : Language) (properties : List (PropertyKey × String)) (index : Nat) :
    language.objectProperty properties (.index index) =
      ((properties.lookup (.index index)).map fun text => Value.string (units text)).getD .undefined := by
  rw [Language.objectProperty, language.inherited_index index]
  cases properties.lookup (.index index) <;> rfl

theorem reads_mode {resource : String}
    {modeMap : List (PropertyKey × String)} (place : Clean endpointId) (named : Clean resource)
    (modes : ∀ entry ∈ modeMap, Clean entry.2) {index : Nat} (small : index < 4294967295)
    (decoded : Tlv.decode tlvBase64 = .ok (.whole index)) :
    Reads engine (handleMode language resource modeMap (.string (units endpointId)) tlvBase64)
      ⟨[.updateResource (some endpointId) resource ((modeMap.lookup (.index index)).getD "unknown") none],
        .success ""⟩ := by
  have clean : Clean ((modeMap.lookup (.index index)).getD "unknown") := by
    cases found : modeMap.lookup (.index index) with
    | none => decide
    | some text =>
        obtain ⟨before, after, split, _⟩ := List.lookup_eq_some_iff.mp found
        exact modes (.index index, text) (by rw [split]; exact List.mem_append_right _ List.mem_cons_self)
  have handled : handleMode language resource modeMap (.string (units endpointId)) tlvBase64 =
      .ok (updated (.string (units endpointId)) resource
        (.string (units ((modeMap.lookup (.index index)).getD "unknown")))) := by
    rw [handleMode, handleDecoded_whole decoded]
    dsimp only
    rw [propertyKey_whole language small]
    change Except.ok _ = Except.ok _
    rw [objectProperty_index language]
    cases modeMap.lookup (.index index) <;> rfl
  rw [handled]
  exact reads_updated engine place named clean

theorem reads_ctrlSeqOp (place : Clean endpointId) {index : Nat} (small : index < 4294967295)
    (decoded : Tlv.decode tlvBase64 = .ok (.whole index)) :
    ∃ terminal, Reads engine (handleCtrlSeqOp language (.string (units endpointId)) tlvBase64)
      ⟨(seqValues[index]?.map fun text => .updateResource (some endpointId) "controlSequenceOfOperation" text none).toList,
        terminal⟩ := by
  have handled : handleCtrlSeqOp language (.string (units endpointId)) tlvBase64 =
      seqValues[index]?.elim
        (.ok (rejected (units "Unknown ControlSequenceOfOperation: " ++ units (toString index)))) fun text =>
          .ok (updated (.string (units endpointId)) "controlSequenceOfOperation" (.string (units text))) := by
    rw [handleCtrlSeqOp, handleDecoded_whole decoded]
    dsimp only
    rw [propertyKey_whole language small]
    change (if (language.arrayProperty seqValues (.index index)).isUndefined then _ else _) = _
    rw [Language.arrayProperty]
    cases seqValues[index]? with
    | none =>
        rw [language.toText_whole index (by rw [Int.abs_natCast]; exact_mod_cast (by omega))]
        rfl
    | some text => rfl
  rw [handled]
  cases found : seqValues[index]? with
  | none => exact ⟨_, reads_rejected engine _⟩
  | some text =>
      have clean : ∀ text ∈ seqValues, Clean text := by decide
      exact ⟨_, reads_updated engine place (by decide) (clean text (List.mem_of_getElem? found))⟩

theorem reads_runningState (place : Clean endpointId) {index : Nat}
    (decoded : Tlv.decode tlvBase64 = .ok (.whole index)) :
    Reads engine (handleRunningState language (.string (units endpointId)) tlvBase64)
      ⟨[.updateResource (some endpointId) "systemState"
        (if index.testBit 0 ∨ index.testBit 3 then "heating"
          else if index.testBit 1 ∨ index.testBit 4 then "cooling" else "off") none], .success ""⟩ := by
  have bit (place : Nat) (low : place < 5) :
      BitVec.ofInt 32 (index : ℤ) &&& BitVec.twoPow 32 place ≠ 0 ↔ index.testBit place = true := by
    rw [BitVec.and_twoPow, BitVec.ofInt_natCast, BitVec.getLsbD_ofNat]
    have inside : decide (place < 32) = true := by simpa using by omega
    rw [inside, Bool.true_and]
    cases index.testBit place with
    | false => simp
    | true =>
        have positive : BitVec.twoPow 32 place ≠ 0 := by
          interval_cases place <;> decide
        simpa using positive
  have handled : handleRunningState language (.string (units endpointId)) tlvBase64 =
      .ok (updated (.string (units endpointId)) "systemState" (.string (units
        (if index.testBit 0 ∨ index.testBit 3 then "heating"
          else if index.testBit 1 ∨ index.testBit 4 then "cooling" else "off")))) := by
    rw [handleRunningState, handleDecoded_whole decoded]
    have first := bit 0 (by decide)
    have second := bit 1 (by decide)
    have fourth := bit 3 (by decide)
    have fifth := bit 4 (by decide)
    change Except.ok (updated _ _ (.string (units (if BitVec.ofInt 32 (index : ℤ) &&& BitVec.twoPow 32 0 ≠ 0 ∨
      BitVec.ofInt 32 (index : ℤ) &&& BitVec.twoPow 32 3 ≠ 0 then _ else if BitVec.ofInt 32 (index : ℤ) &&&
      BitVec.twoPow 32 1 ≠ 0 ∨ BitVec.ofInt 32 (index : ℤ) &&& BitVec.twoPow 32 4 ≠ 0 then _ else _)))) = _
    simp only [first, second, fourth, fifth]
  rw [handled]
  exact reads_updated engine place (by decide) (by split_ifs <;> decide)

theorem reads_fanPercentCurrent (place : Clean endpointId) (decoded : Tlv.decode tlvBase64 = .ok (.whole number)) :
    Reads engine (handleFanPercentCurrent (.string (units endpointId)) tlvBase64)
      ⟨[.updateResource (some endpointId) "fanOn" (if number = 0 then "false" else "true") none], .success ""⟩ := by
  have handled : handleFanPercentCurrent (.string (units endpointId)) tlvBase64 =
      .ok (updated (.string (units endpointId)) "fanOn" (.string (units (if number = 0 then "false" else "true")))) := by
    rw [handleFanPercentCurrent, handleDecoded_whole decoded]
    by_cases zero : number = 0
    · simp [JsValue.whole, zero]
    · simp [JsValue.whole, zero]
  rw [handled]
  exact reads_updated engine place (by decide) (by split <;> decide)

/-- A number of the attribute's type. -/
def Attribute.Reports (reported : Attribute) (number : ℤ) : Prop :=
  ∃ low high, reported.type.range = some (low, high) ∧ low ≤ number ∧ number ≤ high

/-- The numbers of the types are small, and only temperatures can be negative. -/
theorem Attribute.Reports.small {reported : Attribute} (reports : reported.Reports number) :
    |number| < 10 ^ 21 ∧ (reported.type ≠ .int16 → ∃ index : Nat, number = index ∧ index < 4294967295) := by
  obtain ⟨low, high, range, above, below⟩ := reports
  have types : reported.type = .int16 ∨ reported.type = .enum8 ∨ reported.type = .uint16 ∨ reported.type = .uint8 := by
    cases reported <;> decide
  rcases types with type | type | type | type <;> rw [type] at range ⊢ <;> cases range
  · exact ⟨abs_lt.mpr ⟨by omega, by omega⟩, fun other => absurd rfl other⟩
  all_goals exact ⟨abs_lt.mpr ⟨by omega, by omega⟩, fun _ => ⟨number.toNat, by omega, by omega⟩⟩

/-- The map of the system modes and the map of the fan modes show these texts. -/
theorem modes_text : (∀ index < 256, Attribute.systemMode.text (index : ℕ) =
      some ((systemModes.lookup (.index index)).getD "unknown")) ∧
    ∀ index < 256, Attribute.fanMode.text (index : ℕ) = some ((fanModes.lookup (.index index)).getD "unknown") := by
  constructor <;> decide +kernel

/-- The handler of an attribute shows the number as the text of the attribute. -/
theorem reads_report (language : Language) (reported : Attribute) (reports : reported.Reports number) (place : Clean endpointId)
    (decoded : Tlv.decode tlvBase64 = .ok (.whole number)) :
    ∃ function, (thermostat language).functions[reported.handler]? = some function ∧
      ∃ terminal, Reads engine (function (.string (units endpointId)) tlvBase64)
        ⟨((reported.text number).map fun text => .updateResource (some endpointId) reported.resource text none).toList,
          terminal⟩ := by
  obtain ⟨small, natural⟩ := reports.small
  obtain ⟨low, high, range, above, below⟩ := reports
  cases reported with
  | ctrlSeqOp =>
      obtain ⟨index, rfl, bound⟩ := natural nofun
      exact ⟨_, rfl, reads_ctrlSeqOp engine place bound decoded⟩
  | systemMode =>
      obtain ⟨index, rfl, bound⟩ := natural nofun
      cases range
      rw [modes_text.1 index (by omega)]
      exact ⟨_, rfl, _, reads_mode engine place (by decide) (by decide) bound decoded⟩
  | fanMode =>
      obtain ⟨index, rfl, bound⟩ := natural nofun
      cases range
      rw [modes_text.2 index (by omega)]
      exact ⟨_, rfl, _, reads_mode engine place (by decide) (by decide) bound decoded⟩
  | runningState =>
      obtain ⟨index, rfl, bound⟩ := natural nofun
      exact ⟨_, rfl, _, reads_runningState engine place decoded⟩
  | fanPercentCurrent => exact ⟨_, rfl, _, reads_fanPercentCurrent engine place decoded⟩
  | localTemperature | absMinHeat | absMaxHeat | absMinCool | absMaxCool | occupiedCoolingSetpoint
  | occupiedHeatingSetpoint => exact ⟨_, rfl, _, reads_temperature engine place (by decide) small decoded⟩

/-- A report without a value changes nothing. -/
theorem reads_missing (language : Language) (reported : Attribute) (endpoint : Value)
    (decoded : Tlv.decode tlvBase64 = .ok .null) :
    ∃ function, (thermostat language).functions[reported.handler]? = some function ∧
      ∃ terminal, Reads engine (function endpoint tlvBase64) ⟨[], terminal⟩ := by
  cases reported with
  | localTemperature => exact ⟨_, rfl, _, (handleDecoded_null decoded).symm ▸ reads_success engine⟩
  | _ => exact ⟨_, rfl, _, (handleDecoded_null decoded).symm ▸ reads_rejected engine _⟩

end Reports

section Runs

/-- A thermostat reports a value of an attribute or that there is none. -/
structure Reading where
  reported : Attribute
  value : Option ℤ
  report : Report

/-- The report names the attribute and carries the value. -/
structure Reading.Valid (reading : Reading) : Prop where
  kind : reading.report.kind = .attributes
  path : (reading.report.clusterId, reading.report.elementId) = reading.reported.path
  payload : ∃ payload, reading.report.payload = some payload ∧
    match reading.value with
    | none => Tlv.decode (some (units payload)) = .ok .null
    | some number => reading.reported.Reports number ∧ Tlv.decode (some (units payload)) = .ok (.whole number)

/-- The resource of the attribute is updated on the endpoint of the report. -/
def Reading.shown (reading : Reading) : List (String × PersistentData.ResultOp) :=
  ((reading.value.bind reading.reported.text).map fun text => (reading.report.deviceId,
    .updateResource (some (toString reading.report.endpointId)) reading.reported.resource text none)).toList

/-- The reports run the script of the thermostat. -/
def scripted (language : Language) (environment : Environment) : Environment :=
  { environment with script := fun _ => (thermostat language).report environment.engine }

theorem operations_executeOps (environment : Environment) (deviceUuid : String) (ops : List PersistentData.ResultOp)
    (world : World) : (executeOps environment deviceUuid ops world).log.filterMap Effect.operation =
      world.log.filterMap Effect.operation ++ ops.map fun op => (deviceUuid, op) := by
  obtain ⟨effects, log, _, operations⟩ := executeOps_log environment deviceUuid ops world
  have performed : effects.filterMap Effect.operation = ops.map fun op => (deviceUuid, op) := by
    have whole := congrArg (List.filterMap id) operations
    rw [List.filterMap_map, List.filterMap_map] at whole
    exact whole.trans (congrFun List.filterMap_eq_map _)
  rw [log, List.filterMap_append, performed]

variable {language : Language} {environment : Environment}

theorem handleReport_shown {reading : Reading} (valid : reading.Valid) (world : World) :
    (handleReport (scripted language environment) (thermostat language).driver world reading.report).log.filterMap
      Effect.operation = world.log.filterMap Effect.operation ++ reading.shown := by
  obtain ⟨kind, path, payload, sent, carries⟩ := valid
  have chosen := selects language reading.reported kind path
  have place : Clean (toString reading.report.endpointId) := clean_toString _
  cases value : reading.value with
  | none =>
      rw [value] at carries
      by_cases empty : payload = ""
      · rw [handleReport, reportInvocations, if_pos (show (thermostat language).driver.activated = true from rfl),
          show reading.report.tlvBase64 = none by rw [Report.tlvBase64, kind, sent, empty]; rfl]
        simp [Reading.shown, value, invokeAll]
      · obtain ⟨function, known, terminal, reads⟩ := reads_missing (scripted language environment).engine language
          reading.reported (.string (units (toString reading.report.endpointId))) carries
        rw [report_executed rfl kind chosen known sent empty reads, operations_executeOps, List.filterMap_append]
        simp [Reading.shown, value, Effect.operation]
  | some number =>
      rw [value] at carries
      have nonempty : payload ≠ "" := by
        rintro rfl
        cases carries.2
      obtain ⟨function, known, terminal, reads⟩ := reads_report (scripted language environment).engine language
        reading.reported carries.1 place carries.2
      rw [report_executed rfl kind chosen known sent nonempty reads, operations_executeOps, List.filterMap_append]
      cases text : reading.reported.text number with
      | none | some text => simp [Reading.shown, value, text, Effect.operation]

/-- The operations of a run are the updates that the readings show. -/
theorem reports_shown {readings : List Reading} (valid : ∀ reading ∈ readings, reading.Valid) (world : World) :
    (readings.foldl (fun world reading => handleReport (scripted language environment) (thermostat language).driver world
      reading.report) world).log.filterMap Effect.operation =
      world.log.filterMap Effect.operation ++ readings.flatMap Reading.shown := by
  induction readings generalizing world with
  | nil => rw [List.foldl_nil, List.flatMap_nil, List.append_nil]
  | cons reading rest ih =>
      rw [List.foldl_cons, ih fun other member => valid other (List.mem_cons_of_mem _ member),
        handleReport_shown (valid reading List.mem_cons_self), List.flatMap_cons, List.append_assoc]

/-- These conversions are the ones of the language for whole numbers. -/
def plainLanguage : Language where
  toNumber := Tlv.sampleConversion
  toText
    | .number (.integral (.finite number)) => .ok (units (toString number))
    | _ => .ok []
  toText_whole _ _ := rfl
  inherited := Tlv.objectPrototype
  inherited_index index := by simp [Tlv.objectPrototype]
  method _ := 0
  arrayInherited _ := .undefined

/-- The temperature is 21.5 degrees, and the state is null. -/
def sampleReadings : List Reading :=
  [⟨.localTemperature, some 2150, ⟨.attributes, "dev", 1, 0x0201, 0, some "AWYI", some []⟩⟩,
    ⟨.runningState, none, ⟨.attributes, "dev", 1, 0x0201, 0x29, some "FA==", some []⟩⟩]

theorem reports_shown_sample :
    (sampleReadings.foldl (fun world reading => handleReport (scripted plainLanguage sessionRun)
      (thermostat plainLanguage).driver world reading.report) .initial).log.filterMap Effect.operation =
      [] ++ sampleReadings.flatMap Reading.shown :=
  reports_shown (by
    intro reading member
    rcases List.mem_pair.mp member with rfl | rfl
    · exact ⟨rfl, rfl, _, rfl, ⟨_, _, rfl, by decide⟩, rfl⟩
    · exact ⟨rfl, rfl, _, rfl, rfl⟩) .initial

end Runs

section Settings

/-- These are the resources of a thermostat that can be written. -/
inductive Setting where
  | heatSetpoint
  | coolSetpoint
  | controlSequenceOfOperation
  | systemMode
  | fanMode

def Setting.attribute : Setting → Attribute
  | .heatSetpoint => .occupiedHeatingSetpoint
  | .coolSetpoint => .occupiedCoolingSetpoint
  | .controlSequenceOfOperation => .ctrlSeqOp
  | .systemMode => .systemMode
  | .fanMode => .fanMode

/-- A text denotes a number of the device: a setpoint is a decimal numeral, and the others have names. -/
def Setting.Denotes (setting : Setting) (input : String) (number : ℤ) : Prop :=
  match setting with
  | .heatSetpoint | .coolSetpoint => Numeral 10 (units input) number ∧ -32768 ≤ number ∧ number ≤ 32767
  | .controlSequenceOfOperation => ∃ index : ℕ, seqValues[index]? = some input ∧ number = index
  | .systemMode => (input, number) ∈ reverseSystemModes
  | .fanMode => (input, number) ∈ reverseFanModes

/-- A number is an element without a tag, with the low byte first. A small setpoint takes one byte. -/
def Setting.element (setting : Setting) (number : ℤ) : List UInt8 :=
  match setting.attribute.type with
  | .int16 =>
      if -128 ≤ number ∧ number ≤ 127 then [0x00, UInt8.ofInt number]
      else [0x01, UInt8.ofInt number, UInt8.ofInt (number / 256)]
  | _ => [0x04, UInt8.ofInt number]

/-- This is the write of the attribute of a setting. -/
def Setting.write (setting : Setting) (tlvBase64 : String) : ParsedResult :=
  ⟨[], .writeAttribute ⟨setting.attribute.path.1, setting.attribute.path.2, none⟩ tlvBase64⟩

/-- A write sends the element of the number that the text denotes, or it is refused. The name of an inherited property is not refused:
for a method the script throws, and the name of the prototype becomes an empty structure. -/
inductive Setting.Outcome (setting : Setting) (language : Language) (input : String) : Option ParsedResult → Prop where
  | set {number : ℤ} {tlvBase64 : String} : setting.Denotes input number →
      units tlvBase64 = Tlv.Base64.encode (setting.element number) →
      Tlv.decode (some (units tlvBase64)) = .ok (.whole number) →
      setting.Outcome language input (some (setting.write tlvBase64))
  | refused (message : String) : (∀ number, ¬setting.Denotes input number) →
      setting.Outcome language input (some ⟨[], .error message⟩)
  | threw : (∀ number, ¬setting.Denotes input number) → language.inherited (keyOfText (units input)) = .method →
      setting.Outcome language input none
  | structured {tlvBase64 : String} : (∀ number, ¬setting.Denotes input number) →
      language.inherited (keyOfText (units input)) = .prototype →
      Tlv.decode (some (units tlvBase64)) = .ok (.object []) →
      setting.Outcome language input (some (setting.write tlvBase64))

theorem units_injective {first second : String} (same : units first = units second) : first = second := by
  have bytes := congrArg Tlv.Utf8.encode same
  rw [units, units, Tlv.Utf8.encode_characters, Tlv.Utf8.encode_characters] at bytes
  have characters : List.utf8Encode first.toList = List.utf8Encode second.toList := congrArg List.toByteArray bytes
  have decoded := congrArg ByteArray.utf8Decode? characters
  rw [List.utf8Decode?_utf8Encode, List.utf8Decode?_utf8Encode] at decoded
  exact String.toList_inj.mp (congrArg Array.toList (Option.some.inj decoded))

/-- The value of a handler is what the driver reads, and an exception is nothing. -/
def Answered (engine : Engine) (setting : Setting) (language : Language) (input : String) (handled : Handled) : Prop :=
  ∃ outcome, setting.Outcome language input outcome ∧ match outcome with
    | some result => Reads engine handled result
    | none => ∃ failure, handled = .error failure

variable {language : Language} (engine : Engine) {setting : Setting} {input : String}
  {clusterId attributeId : Nat} {number : ℤ}

/-- The payload of a write is copied. -/
theorem reads_write
    (path : setting.attribute.path = (UInt32.ofNat clusterId, UInt32.ofNat attributeId)) (bytes : List UInt8) :
    ∃ tlvBase64, units tlvBase64 = Tlv.Base64.encode bytes ∧
      Reads engine (.ok (written clusterId attributeId (some (Tlv.Base64.encode bytes)))) (setting.write tlvBase64) := by
  obtain ⟨tlvBase64, copied, clean⟩ := (base64_plain bytes).exists_text
  refine ⟨tlvBase64, copied, ?_⟩
  rw [← copied, Setting.write, path]
  exact reads_written engine clusterId attributeId clean

theorem writeElement_int16 (toNumber : JsValue → Tlv.JsNumber) (number : ℤ) :
    Tlv.writeElement toNumber none (some "int16") (.whole number) =
      .ok (if -128 ≤ number ∧ number ≤ 127 then [0x00, UInt8.ofInt number]
        else [0x01, UInt8.ofInt number, UInt8.ofInt (number / 256)]) := by
  have low : Tlv.shiftedByte (BitVec.ofInt 32 number) 0 = UInt8.ofInt number :=
    (Tlv.shiftedByte_ofInt number (by decide)).trans (by rw [Int.pow_zero, Int.ediv_one])
  have high : Tlv.shiftedByte (BitVec.ofInt 32 number) 1 = UInt8.ofInt (number / 256) :=
    (Tlv.shiftedByte_ofInt number (by decide)).trans (by rw [pow_one])
  have between : (Tlv.JsInteger.finite number).between (-128) 127 = true ↔ -128 ≤ number ∧ number ≤ 127 := by
    simp [Tlv.JsInteger.between]
  change Except.ok (Tlv.writeSignedInt none (.finite number) (some "int16")) = _
  rw [Tlv.writeSignedInt, Tlv.signedClass, ← low, ← high]
  by_cases small : -128 ≤ number ∧ number ≤ 127
  · rw [if_pos (Or.inr (between.mpr small)), if_pos small]
    rfl
  · have wide : ¬(some "int16" = some "int8" ∨ (Tlv.JsInteger.finite number).between (-128) 127 = true) := by
      rintro (named | inside)
      · exact absurd named (by decide)
      · exact small (between.mp inside)
    rw [if_neg wide, if_pos (Or.inl rfl), if_neg small]
    rfl

theorem writeElement_enum8 (toNumber : JsValue → Tlv.JsNumber) (number : ℤ) :
    Tlv.writeElement toNumber none (some "enum8") (.whole number) = .ok [0x04, UInt8.ofInt number] := by
  have low : Tlv.shiftedByte (BitVec.ofInt 32 number) 0 = UInt8.ofInt number :=
    (Tlv.shiftedByte_ofInt number (by decide)).trans (by rw [Int.pow_zero, Int.ediv_one])
  change Except.ok (Tlv.writeUnsignedInt none (.finite number) (some "enum8")) = _
  rw [Tlv.writeUnsignedInt, Tlv.unsignedClass, if_pos (Or.inr (Or.inl rfl)), ← low]
  rfl

/-- The writer writes the element of a setting. -/
theorem Setting.writeElement (setting : Setting) (toNumber : JsValue → Tlv.JsNumber) (number : ℤ) :
    Tlv.writeElement toNumber none (some setting.attribute.type.name) (.whole number) =
      .ok (setting.element number) := by
  cases setting with
  | heatSetpoint | coolSetpoint => exact writeElement_int16 toNumber number
  | controlSequenceOfOperation | systemMode | fanMode => exact writeElement_enum8 toNumber number

/-- The element of the number is written. -/
theorem answered_set
    (path : setting.attribute.path = (UInt32.ofNat clusterId, UInt32.ofNat attributeId)) {bytes : List UInt8}
    (denotes : setting.Denotes input number)
    (element : Tlv.writeElement language.toNumber none (some setting.attribute.type.name) (.whole number) = .ok bytes)
    (decoded : Tlv.decode (some (Tlv.Base64.encode bytes)) = .ok (.whole number)) :
    Answered engine setting language input
      (.ok (written clusterId attributeId (some (Tlv.Base64.encode bytes)))) := by
  rw [setting.writeElement, Except.ok.injEq] at element
  obtain ⟨tlvBase64, copied, reads⟩ := reads_write engine path bytes
  exact ⟨_, .set denotes (by rw [copied, element]) (by rwa [copied]), reads⟩

theorem answered_refused (message : JsString) (refused : ∀ number, ¬setting.Denotes input number) :
    Answered engine setting language input (.ok (rejected message)) :=
  ⟨_, .refused _ refused, reads_rejected engine message⟩

theorem answered_setpoint (attributeId : Nat) (typed : setting.attribute.type = .int16) (denotes : ∀ number, setting.Denotes input number ↔
      Numeral 10 (units input) number ∧ -32768 ≤ number ∧ number ≤ 32767)
    (path : setting.attribute.path = (UInt32.ofNat clThermostat, UInt32.ofNat attributeId)) :
    Answered engine setting language input (writeSetpoint language attributeId (units input)) := by
  rw [writeSetpoint]
  rcases encode_text language (show .int16 ∈ Tlv.smallTypes by decide) rfl (units input) with
    ⟨number, bytes, numeral, bounds, element, encoded, decoded⟩ | ⟨outside, encoded⟩
  · rw [show language.encode (.string (units input)) "int16" = _ from encoded]
    exact answered_set engine path ((denotes number).mpr ⟨numeral, bounds⟩) (by rw [typed]; exact element) decoded
  · rw [show language.encode (.string (units input)) "int16" = _ from encoded]
    refine answered_refused engine _ fun number denoted => ?_
    obtain ⟨numeral, bounds⟩ := (denotes number).mp denoted
    exact outside number numeral bounds

/-- A small number is encoded for an attribute of an enumeration. -/
theorem answered_enum (typed : setting.attribute.type = .enum8)
    (path : setting.attribute.path = (UInt32.ofNat clusterId, UInt32.ofNat attributeId))
    (denotes : setting.Denotes input number) (above : 0 ≤ number) (below : number ≤ 255) :
    Answered engine setting language input
      (do return written clusterId attributeId (← language.encode (.whole number) "enum8")) := by
  obtain ⟨bytes, element, encoded, decoded⟩ :=
    encode_whole language (show .enum8 ∈ Tlv.smallTypes by decide) rfl above below
  rw [show language.encode (.whole number) "enum8" = _ from encoded]
  exact answered_set engine path denotes (by rw [typed]; exact element) decoded

theorem answered_sequence : Answered engine .controlSequenceOfOperation language input
    (writeControlSequenceOfOperation language (units input)) := by
  rw [writeControlSequenceOfOperation]
  cases found : seqValues.findIdx? fun value => units value = units input with
  | none =>
      refine answered_refused engine _ ?_
      rintro number ⟨index, named, -⟩
      have other := List.findIdx?_eq_none_iff.mp found input (List.mem_of_getElem? named)
      exact absurd rfl (of_decide_eq_false other)
  | some index =>
      obtain ⟨inside, same, -⟩ := List.findIdx?_eq_some_iff_getElem.mp found
      have small : index < 6 := inside
      have named : seqValues[index]? = some input := by
        rw [List.getElem?_eq_getElem inside, units_injective (of_decide_eq_true same)]
      have path : (Setting.attribute .controlSequenceOfOperation).path =
          (UInt32.ofNat clThermostat, UInt32.ofNat 0x001b) := rfl
      exact answered_enum engine rfl path ⟨index, named, rfl⟩ (by omega) (by omega)

theorem answered_mode {reverseModeMap : List (String × ℤ)} (message : String)
    (typed : setting.attribute.type = .enum8)
    (path : setting.attribute.path = (UInt32.ofNat clusterId, UInt32.ofNat attributeId))
    (denotes : ∀ number, setting.Denotes input number ↔ (input, number) ∈ reverseModeMap)
    (numbers : ∀ entry ∈ reverseModeMap, 0 ≤ entry.2 ∧ entry.2 ≤ 255) :
    Answered engine setting language input
      (writeMode language reverseModeMap message clusterId attributeId (units input)) := by
  rw [writeMode]
  cases found : reverseModeMap.find? fun entry => units entry.1 = units input with
  | none =>
      have refused (number : ℤ) : ¬setting.Denotes input number := by
        intro denoted
        have other := List.find?_eq_none.mp found _ ((denotes number).mp denoted)
        exact absurd (decide_eq_true rfl) other
      cases own : language.inherited (keyOfText (units input)) with
      | nothing => exact answered_refused engine _ refused
      | method => exact ⟨none, .threw refused own, _, rfl⟩
      | prototype =>
          have encoded : language.encode (.object []) "enum8" = .ok (some (Tlv.Base64.encode [0x15, 0x18])) := rfl
          have decoded : Tlv.decode (some (Tlv.Base64.encode [0x15, 0x18])) = .ok (.object []) := by rfl
          obtain ⟨tlvBase64, copied, reads⟩ := reads_write engine path [0x15, 0x18]
          refine ⟨_, .structured refused own (by rwa [copied]), ?_⟩
          change Reads engine (do return written clusterId attributeId (← language.encode (.object []) "enum8")) _
          rw [encoded]
          exact reads
  | some entry =>
      have member := List.mem_of_find?_eq_some found
      have same := List.find?_some found
      have named : entry.1 = input := units_injective (of_decide_eq_true same)
      refine answered_enum engine typed path ((denotes entry.2).mpr ?_) (numbers entry member).1 (numbers entry member).2
      rw [← named]
      exact member

/-- Each setting has a function that answers its writes. -/
theorem exists_answered (language : Language) (setting : Setting) (input : String) :
    ∃ function, (thermostat language).writes.lookup setting.attribute.resource = some function ∧
      Answered engine setting language input (function (units input)) := by
  cases setting with
  | heatSetpoint => exact ⟨_, rfl, answered_setpoint engine 0x0012 rfl (fun _ => Iff.rfl) rfl⟩
  | coolSetpoint => exact ⟨_, rfl, answered_setpoint engine 0x0011 rfl (fun _ => Iff.rfl) rfl⟩
  | controlSequenceOfOperation => exact ⟨_, rfl, answered_sequence engine⟩
  | systemMode | fanMode => exact ⟨_, rfl, answered_mode engine _ rfl rfl (fun _ => Iff.rfl) (by decide)⟩

/-- The shown text of a setting denotes the number that is set. -/
theorem shown_denotes (denotes : setting.Denotes input number) :
    setting.attribute.Reports number ∧
      ∃ text, setting.attribute.text number = some text ∧ setting.Denotes text number := by
  cases setting with
  | heatSetpoint | coolSetpoint => exact ⟨⟨_, _, rfl, denotes.2⟩, _, rfl, numeral_temperatureText number, denotes.2⟩
  | controlSequenceOfOperation =>
      obtain ⟨index, named, rfl⟩ := denotes
      obtain ⟨inside, -⟩ := List.getElem?_eq_some_iff.mp named
      have small : index < 6 := inside
      exact ⟨⟨_, _, rfl, by omega, by omega⟩, input, named, index, named, rfl⟩
  | systemMode =>
      have members : ∀ entry ∈ reverseSystemModes, (0 ≤ entry.2 ∧ entry.2 ≤ 255) ∧
          Attribute.systemMode.text entry.2 = some entry.1 := by decide
      obtain ⟨bounds, shown⟩ := members _ denotes
      exact ⟨⟨_, _, rfl, bounds⟩, input, shown, denotes⟩
  | fanMode =>
      have members : ∀ entry ∈ reverseFanModes, (0 ≤ entry.2 ∧ entry.2 ≤ 255) ∧
          Attribute.fanMode.text entry.2 = some entry.1 := by decide
      obtain ⟨bounds, shown⟩ := members _ denotes
      exact ⟨⟨_, _, rfl, bounds⟩, input, shown, denotes⟩

/-- A text that denotes a number sets this number on the device, and every later report of the number shows a text that
denotes it again. -/
theorem setting_round_trip {environment : Environment} (setting : Setting) (hctx : HandlerContext) (input : String) :
    setting.Outcome language input (((thermostat language).write environment.engine setting.attribute.resource
      (.object (buildResourceArgs hctx setting.attribute.resource (some input)))).bind (parse environment.engine)) ∧
    ∀ number, setting.Denotes input number → ∃ text, setting.Denotes text number ∧
      ∀ (report : Report) (payload : String) (world : World), report.kind = .attributes →
        (report.clusterId, report.elementId) = setting.attribute.path → report.payload = some payload →
        Tlv.decode (some (units payload)) = .ok (.whole number) →
        (handleReport (scripted language environment) (thermostat language).driver world report).log.filterMap
          Effect.operation = world.log.filterMap Effect.operation ++ [(report.deviceId, .updateResource
            (some (toString report.endpointId)) setting.attribute.resource text none)] := by
  constructor
  · obtain ⟨function, known, outcome, answers, gives⟩ := exists_answered environment.engine language setting input
    cases outcome with
    | some result =>
        rw [write_parsed known gives hctx]
        exact answers
    | none =>
        obtain ⟨failure, threw⟩ := gives
        rw [write_threw known threw environment.engine hctx]
        exact answers
  · intro number denotes
    obtain ⟨reports, text, shown, same⟩ := shown_denotes denotes
    refine ⟨text, same, ?_⟩
    intro report payload world kind path sent decoded
    have valid : Reading.Valid ⟨setting.attribute, some number, report⟩ := ⟨kind, path, payload, sent, reports, decoded⟩
    rw [handleReport_shown valid, Reading.shown, Option.bind_some, shown]
    rfl

/-- A setpoint of five degrees below zero is sent and later shown. -/
theorem setting_round_trip_sample :
    Setting.Outcome .coolSetpoint plainLanguage "-500" (((thermostat plainLanguage).write sessionRun.engine
      "coolSetpoint" (.object (buildResourceArgs ⟨"dev", "1", []⟩ "coolSetpoint" (some "-500")))).bind
        (parse sessionRun.engine)) ∧
    ∃ text, Setting.Denotes .coolSetpoint text (-500) ∧
      (handleReport (scripted plainLanguage sessionRun) (thermostat plainLanguage).driver .initial
        ⟨.attributes, "dev", 1, 0x0201, 0x11, some "AQz+", some []⟩).log.filterMap Effect.operation =
          [("dev", .updateResource (some "1") "coolSetpoint" text none)] := by
  have spelled : temperatureText (-500) = "-500" := by decide +kernel
  have numeral := numeral_temperatureText (-500)
  rw [spelled] at numeral
  obtain ⟨outcome, later⟩ :=
    @setting_round_trip plainLanguage sessionRun .coolSetpoint ⟨"dev", "1", []⟩ "-500"
  obtain ⟨text, denotes, shown⟩ := later (-500) ⟨numeral, by decide, by decide⟩
  have report := shown ⟨.attributes, "dev", 1, 0x0201, 0x11, some "AQz+", some []⟩ "AQz+" .initial rfl rfl rfl rfl
  exact ⟨outcome, text, denotes, report⟩

end Settings
end Barton.Thermostat
