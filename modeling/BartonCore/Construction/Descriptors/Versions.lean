/-
This file contains how the versions of a Zigbee device descriptor are parsed and checked.
-/

import BartonCore.ToMathlib.Strtol

namespace Barton.Descriptors
open Strtol

/-- The decimal numeral of a number. -/
def decimal (number : Nat) : Text := Nat.toDigits 10 number

def stringToLowerCase (text : Text) : Text := text.map Char.toLower

/-- A text without blanks at its ends. -/
def Trimmed (text : Text) : Prop :=
  (∀ character ∈ text.head?, isSpace character = false) ∧ ∀ character ∈ text.getLast?, isSpace character = false

/-- The string functions of the utility library behave as documented. -/
structure StringUtils where
  trimString : Text → Text
  stringToUint64 : Text → Option UInt64
  stringCompare : Text → Text → Bool → ℤ
  trimString_eq : ∀ before core after, (∀ character ∈ before, isSpace character = true) →
    (∀ character ∈ after, isSpace character = true) → Trimmed core → trimString (before ++ core ++ after) = core
  stringToUint64_decimal : ∀ number, stringToUint64 (decimal number) =
    if number < 2 ^ 64 then some (UInt64.ofNat number) else none
  stringToUint64_lower : ∀ text, stringToUint64 (stringToLowerCase text) = stringToUint64 text
  stringCompare_ignoreCase : ∀ first second,
    stringCompare first second true = 0 ↔ stringToLowerCase first = stringToLowerCase second

inductive DeviceVersionListType where
  | unknown
  | list
  | wildcard
  | range
  | listAndRange
  deriving DecidableEq

/-- A range has a lower and an upper end. -/
structure VersionRange where
  fromRange : Text
  toRange : Text
  deriving DecidableEq

/-- There is one place for a range. -/
structure DeviceVersionList where
  listType : DeviceVersionListType
  versionList : Option (List Text)
  versionRange : Option VersionRange
  deriving DecidableEq

section
variable (utils : StringUtils)

section Parse

/-- The `int` is printed without a sign. -/
def versionStringToDecimalString (version : Text) : Text :=
  utils.trimString (decimal (strtol version % 2 ^ 32).toNat)

/-- A version is stored as a decimal numeral, or it is trimmed and in lower case. -/
def versionValue (forceDecimal : Bool) (version : Text) : Text :=
  if forceDecimal then versionStringToDecimalString utils version
  else stringToLowerCase (utils.trimString version)

def parseZigbeeDeviceVersionRange (versions : Text) (forceDecimal : Bool) : VersionRange :=
  let parts := versions.splitOn '-'
  ⟨versionValue utils forceDecimal (parts.getD 0 []), versionValue utils forceDecimal (parts.getD 1 [])⟩

/-- A later range takes the place of an earlier one. -/
def parseToken (forceDecimal : Bool) (list : DeviceVersionList) (token : Text) : DeviceVersionList :=
  if '-' ∈ token then
    { list with
      listType := .listAndRange
      versionRange := some (parseZigbeeDeviceVersionRange utils token forceDecimal) }
  else { list with versionList := list.versionList.map fun versions => versions ++ [versionValue utils forceDecimal token] }

/-- A single version keeps its case. -/
def parseZigbeeDeviceVersion (versions : Text) (forceDecimal : Bool) : DeviceVersionList :=
  if versions.head? = some '*' then ⟨.wildcard, none, none⟩
  else if ',' ∈ versions then
    (versions.splitOn ',').foldl (parseToken utils forceDecimal) ⟨.list, some [], none⟩
  else if '-' ∈ versions then ⟨.range, none, some (parseZigbeeDeviceVersionRange utils versions forceDecimal)⟩
  else ⟨.list, some [if forceDecimal then versionStringToDecimalString utils versions
    else utils.trimString versions], none⟩

end Parse

section Check

def versionInAllowedList (versionInput : Text) (list : Option (List Text)) : Bool :=
  (list.getD []).any fun allowedVersion => utils.stringCompare allowedVersion versionInput true = 0

/-- An empty end has a default, and another end must be a number. -/
def endValue (version : Text) (default_ : UInt64) : Option UInt64 :=
  if version = [] then some default_ else utils.stringToUint64 version

def versionInAllowedRange (versionInput : Text) (range : Option VersionRange) : Bool :=
  match utils.stringToUint64 versionInput, range with
  | some input, some range =>
      match endValue utils range.fromRange 0, endValue utils range.toRange 18446744073709551615 with
      | some minValue, some maxValue => input ≥ minValue && input ≤ maxValue
      | _, _ => false
  | _, _ => false

def versionInRange (versionInput : Text) (allowedVersions : DeviceVersionList) : Bool :=
  if allowedVersions.listType = .wildcard then true
  else versionInAllowedList utils versionInput allowedVersions.versionList ||
    versionInAllowedRange utils versionInput allowedVersions.versionRange

end Check
end
end Barton.Descriptors
