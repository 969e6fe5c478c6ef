/-
This file contains the driver script of thermostats: the handlers that write a resource to the device and the handlers
that read a report of the device.
-/

import BartonCore.Construction.Sbmd.Handlers

namespace Barton.Thermostat
open Handlers Results
open Tlv (JsString JsValue PropertyKey units)

section Writes
variable (language : Language)

def clThermostat : Nat := 0x0201

def clFanControl : Nat := 0x0202

/-- The two setpoints differ in their attribute. -/
def writeSetpoint (attributeId : Nat) (input : JsString) : Handled := do
  match ← language.encode (.string input) "int16" with
  | none => return rejected (units "Invalid temperature value")
  | some tlvBase64 => return written clThermostat attributeId (some tlvBase64)

def writeHeatSetpoint : JsString → Handled := writeSetpoint language 0x0012

def writeCoolSetpoint : JsString → Handled := writeSetpoint language 0x0011

def seqValues : List String :=
  ["coolingOnly", "coolingWithReheat", "heatingOnly", "heatingWithReheat", "coolingAndHeatingFourPipes",
    "coolingAndHeatingFourPipesWithReheat"]

/-- The loop stops at the first value that equals the input. -/
def writeControlSequenceOfOperation (input : JsString) : Handled :=
  match seqValues.findIdx? fun value => units value = input with
  | none => .ok (rejected (units "Unknown control sequence: " ++ input))
  | some seqValue => do return written clThermostat 0x001b (← language.encode (.whole seqValue) "enum8")

/-- The two modes differ in their names, their attribute and their message. A name that the map inherits is not
rejected. -/
def writeMode (reverseModeMap : List (String × ℤ)) (message : String) (clusterId attributeId : Nat)
    (input : JsString) : Handled :=
  let modeValue := match reverseModeMap.find? fun entry => units entry.1 = input with
    | some entry => .whole entry.2
    | none => (language.inherited (keyOfText input)).value
  if modeValue.isUndefined then .ok (rejected (units message ++ input))
  else do return written clusterId attributeId (← language.encode modeValue "enum8")

def reverseSystemModes : List (String × ℤ) :=
  [("off", 0), ("auto", 1), ("cool", 3), ("heat", 4), ("precooling", 6), ("fanOnly", 7)]

def writeSystemMode : JsString → Handled :=
  writeMode language reverseSystemModes "Unknown system mode: " clThermostat 0x001c

def reverseFanModes : List (String × ℤ) := [("off", 0), ("on", 4), ("auto", 5)]

def writeFanMode : JsString → Handled :=
  writeMode language reverseFanModes "Unknown fan mode: " clFanControl 0x0000

end Writes

section Reports
variable (language : Language)

def decodeFailed : List Call := rejected (units "TLV decode failed")

/-- The loop adds zeros in front. -/
def zeroPad (width : Nat) (text : JsString) : JsString :=
  if text.length < width then zeroPad width (0x30 :: text) else text
termination_by width - text.length

/-- The temperatures differ in their resource and in the answer to a missing value. -/
def handleTemperature (resource : String) (missing : List Call) (endpointId : Value) : Option JsString → Handled :=
  handleDecoded missing fun value => do
    let number := language.number value
    let neg := isNegative number
    let s ← language.toText (.number (abs number))
    return updated endpointId resource (.string ((if neg then units "-" else []) ++ zeroPad (if neg then 3 else 4) s))

def handleLocalTemperature := handleTemperature language "localTemperature" [.success .undefined]

def handleHeatSetpoint :=
  handleTemperature language "heatSetpoint" (rejected (units "TLV decode failed for OccupiedHeatingSetpoint"))

def handleCoolSetpoint :=
  handleTemperature language "coolSetpoint" (rejected (units "TLV decode failed for OccupiedCoolingSetpoint"))

def handleAbsMinHeat := handleTemperature language "absoluteMinHeatLimit" decodeFailed

def handleAbsMaxHeat := handleTemperature language "absoluteMaxHeatLimit" decodeFailed

def handleAbsMinCool := handleTemperature language "absoluteMinCoolLimit" decodeFailed

def handleAbsMaxCool := handleTemperature language "absoluteMaxCoolLimit" decodeFailed

def handleCtrlSeqOp (endpointId : Value) : Option JsString → Handled :=
  handleDecoded decodeFailed fun value => do
    let seq := language.arrayProperty seqValues (← language.propertyKey value)
    if seq.isUndefined then return rejected (units "Unknown ControlSequenceOfOperation: " ++ (← language.toText value))
    else return updated endpointId "controlSequenceOfOperation" seq

/-- An unknown mode is not rejected. -/
def handleMode (resource : String) (modeMap : List (PropertyKey × String)) (endpointId : Value) :
    Option JsString → Handled :=
  handleDecoded decodeFailed fun value => do
    let mode := language.objectProperty modeMap (← language.propertyKey value)
    return updated endpointId resource (if mode.isUndefined then .string (units "unknown") else mode)

def systemModes : List (PropertyKey × String) :=
  [(.index 0, "off"), (.index 1, "auto"), (.index 3, "cool"), (.index 4, "heat"), (.index 5, "heat"),
    (.index 6, "precooling"), (.index 7, "fanOnly")]

def handleSystemMode := handleMode language "systemMode" systemModes

def handleRunningState (endpointId : Value) : Option JsString → Handled :=
  handleDecoded decodeFailed fun value =>
    let bits := (language.number value).toInt32
    let state :=
      if bits &&& 0x0001 ≠ 0 ∨ bits &&& 0x0008 ≠ 0 then "heating"
      else if bits &&& 0x0002 ≠ 0 ∨ bits &&& 0x0010 ≠ 0 then "cooling"
      else "off"
    .ok (updated endpointId "systemState" (.string (units state)))

def fanModes : List (PropertyKey × String) :=
  [(.index 0, "off"), (.index 1, "on"), (.index 2, "on"), (.index 3, "on"), (.index 4, "on"), (.index 5, "auto")]

def handleFanMode := handleMode language "fanMode" fanModes

/-- Only the number zero is off. -/
def handleFanPercentCurrent (endpointId : Value) : Option JsString → Handled :=
  handleDecoded decodeFailed fun value =>
    let on : Bool := match value with
      | .number (.integral (.finite number)) => number ≠ 0
      | _ => true
    .ok (updated endpointId "fanOn" (.string (units (if on then "true" else "false"))))

end Reports

section Driver

/-- The alias of an attribute has the name, the cluster and the attribute. -/
def aliases : List (String × Nat × Nat) :=
  [("localTemperature", clThermostat, 0x0000), ("absMinHeat", clThermostat, 0x0003),
    ("absMaxHeat", clThermostat, 0x0004), ("absMinCool", clThermostat, 0x0005), ("absMaxCool", clThermostat, 0x0006),
    ("occupiedCoolingSetpoint", clThermostat, 0x0011), ("occupiedHeatingSetpoint", clThermostat, 0x0012),
    ("ctrlSeqOp", clThermostat, 0x001b), ("systemMode", clThermostat, 0x001c), ("runningState", clThermostat, 0x0029),
    ("fanMode", clFanControl, 0x0000), ("fanPercentCurrent", clFanControl, 0x0006)]

def attributeHandlers : List (String × String) :=
  [("handleLocalTemperature", "localTemperature"), ("handleHeatSetpoint", "occupiedHeatingSetpoint"),
    ("handleCoolSetpoint", "occupiedCoolingSetpoint"), ("handleAbsMinHeat", "absMinHeat"),
    ("handleAbsMaxHeat", "absMaxHeat"), ("handleAbsMinCool", "absMinCool"), ("handleAbsMaxCool", "absMaxCool"),
    ("handleCtrlSeqOp", "ctrlSeqOp"), ("handleSystemMode", "systemMode"), ("handleRunningState", "runningState"),
    ("handleFanMode", "fanMode"), ("handleFanPercentCurrent", "fanPercentCurrent")]

/-- The functions stand in the order of the handlers. -/
def thermostat (language : Language) : Script where
  aliases := aliases
  attributeHandlers := attributeHandlers
  functions :=
    [handleLocalTemperature language, handleHeatSetpoint language, handleCoolSetpoint language,
      handleAbsMinHeat language, handleAbsMaxHeat language, handleAbsMinCool language, handleAbsMaxCool language,
      handleCtrlSeqOp language, handleSystemMode language, handleRunningState language, handleFanMode language,
      handleFanPercentCurrent]
  writes :=
    [("heatSetpoint", writeHeatSetpoint language), ("coolSetpoint", writeCoolSetpoint language),
      ("controlSequenceOfOperation", writeControlSequenceOfOperation language),
      ("systemMode", writeSystemMode language), ("fanMode", writeFanMode language)]

end Driver
end Barton.Thermostat
