/-
This file contains the link quality that follows from the signal strength of a Zigbee device.
-/

import Mathlib.Tactic

namespace Barton.LinkQuality

section Levels

inductive ZigbeeSubsystemLinkQualityLevel where
  | unknown
  | poor
  | fair
  | good
  deriving DecidableEq

/-- These are the values of the enumeration. -/
def ZigbeeSubsystemLinkQualityLevel.value : ZigbeeSubsystemLinkQualityLevel → Nat
  | .unknown => 0
  | .poor => 1
  | .fair => 2
  | .good => 3

theorem ZigbeeSubsystemLinkQualityLevel.value_injective : Function.Injective value := by
  intro left right
  revert left right
  rintro (_ | _ | _ | _) (_ | _ | _ | _) <;> decide

instance : LinearOrder ZigbeeSubsystemLinkQualityLevel :=
  LinearOrder.lift' ZigbeeSubsystemLinkQualityLevel.value ZigbeeSubsystemLinkQualityLevel.value_injective

def linkQualityLevelLabels : ZigbeeSubsystemLinkQualityLevel → String
  | .unknown => "unknown"
  | .poor => "poor"
  | .fair => "fair"
  | .good => "good"

def zigbeeSubsystemLinkQualityStringToEnum (linkQuality : Option String) : ZigbeeSubsystemLinkQualityLevel :=
  (linkQuality.bind fun label =>
    [.unknown, .poor, .fair, .good].find? fun level => linkQualityLevelLabels level == label).getD .unknown

end Levels

section Determination

/-- The property provider configures these values. -/
structure Settings where
  useLqiForLinkQuality : Bool
  useRssiForLinkQuality : Bool
  crossAboveDb : UInt8
  crossBelowDb : UInt8
  lqiWarnThreshold : UInt8
  lqiBadThreshold : UInt8
  rssiWarnThreshold : Int8
  rssiBadThreshold : Int8
  deriving DecidableEq

variable (settings : Settings)

def calculateLinkQuality (rssiSample : Int8) : ZigbeeSubsystemLinkQualityLevel :=
  if rssiSample < settings.rssiBadThreshold then .poor
  else if rssiSample < settings.rssiWarnThreshold then .fair
  else .good

/-- A sample is absent if it is the least value. -/
def worstRssi (neRssi feRssi : Int8) : Option Int8 :=
  if neRssi ≠ Int8.minValue ∧ feRssi ≠ Int8.minValue then some (if neRssi < feRssi then neRssi else feRssi)
  else if neRssi ≠ Int8.minValue then some neRssi
  else if feRssi ≠ Int8.minValue then some feRssi
  else none

/-- An LQI of 0 is absent. -/
def worstLqi (neLqi feLqi : UInt8) : Option UInt8 :=
  if neLqi ≠ 0 ∧ feLqi ≠ 0 then some (if neLqi < feLqi then neLqi else feLqi)
  else if neLqi ≠ 0 then some neLqi
  else if feLqi ≠ 0 then some feLqi
  else none

/-- The sum is an `int`, and it is passed on as an `int8_t`. -/
def rssiHealth (worstRssi : Int8) (qualityHint : ZigbeeSubsystemLinkQualityLevel) : ZigbeeSubsystemLinkQualityLevel :=
  let linkQualNow := calculateLinkQuality settings worstRssi
  if linkQualNow < qualityHint then
    calculateLinkQuality settings (Int8.ofInt (worstRssi.toInt + settings.crossBelowDb.toNat))
  else if qualityHint < linkQualNow then
    calculateLinkQuality settings (Int8.ofInt (worstRssi.toInt - settings.crossAboveDb.toNat))
  else linkQualNow

def lqiHealth (worstLqi : UInt8) : ZigbeeSubsystemLinkQualityLevel :=
  if worstLqi < settings.lqiBadThreshold then .poor
  else if worstLqi < settings.lqiWarnThreshold then .fair
  else .good

/-- The level is unknown without a sample, or if the sample is not used. -/
def usedHealth {Sample : Type} (used : Bool) (sample : Option Sample)
    (health : Sample → ZigbeeSubsystemLinkQualityLevel) : ZigbeeSubsystemLinkQualityLevel :=
  if used then sample.elim .unknown health else .unknown

/-- Both ends of the link measure the signal. -/
structure Measurement where
  neRssi : Int8
  feRssi : Int8
  neLqi : UInt8
  feLqi : UInt8
  deriving DecidableEq

def usedRssiHealth (measured : Measurement) (qualityHint : ZigbeeSubsystemLinkQualityLevel) :
    ZigbeeSubsystemLinkQualityLevel :=
  usedHealth settings.useRssiForLinkQuality (worstRssi measured.neRssi measured.feRssi) fun worst =>
    rssiHealth settings worst qualityHint

def usedLqiHealth (measured : Measurement) : ZigbeeSubsystemLinkQualityLevel :=
  usedHealth settings.useLqiForLinkQuality (worstLqi measured.neLqi measured.feLqi) (lqiHealth settings)

def zigbeeSubsystemDetermineLinkQuality (measured : Measurement) (qualityHint : ZigbeeSubsystemLinkQualityLevel) :
    String :=
  let rssiHealth := usedRssiHealth settings measured qualityHint
  let lqiHealth := usedLqiHealth settings measured
  if lqiHealth ≠ .unknown ∧ rssiHealth ≠ .unknown then
    if rssiHealth < lqiHealth then linkQualityLevelLabels rssiHealth else linkQualityLevelLabels lqiHealth
  else if lqiHealth ≠ .unknown then linkQualityLevelLabels lqiHealth
  else if rssiHealth ≠ .unknown then linkQualityLevelLabels rssiHealth
  else "unknown"

/-- The result of a determination is the hint of the next one. -/
def nextLevel (level : ZigbeeSubsystemLinkQualityLevel) (measured : Measurement) : ZigbeeSubsystemLinkQualityLevel :=
  zigbeeSubsystemLinkQualityStringToEnum (zigbeeSubsystemDetermineLinkQuality settings measured level)

def levels (level : ZigbeeSubsystemLinkQualityLevel) : List Measurement → List ZigbeeSubsystemLinkQualityLevel
  | [] => []
  | measured :: rest => nextLevel settings level measured :: levels (nextLevel settings level measured) rest

end Determination
end Barton.LinkQuality
