/-
This file contains the JavaScript values that the TLV scripts encode and decode.
-/

import Mathlib.Tactic
import BartonCore.ToMathlib.Rounding

namespace Barton.Tlv
open Rounding (toDouble)

/-- A JavaScript string is a list of UTF-16 code units. -/
abbrev JsString := List UInt16

/-- The code units of a character are one unit or a surrogate pair. -/
def charUnits (character : Char) : JsString :=
  let codePoint := character.toNat
  if codePoint < 0x10000 then [UInt16.ofNat codePoint]
  else [UInt16.ofNat (0xd800 + (codePoint - 0x10000) / 0x400),
    UInt16.ofNat (0xdc00 + (codePoint - 0x10000) % 0x400)]

def units (text : String) : JsString := text.toList.flatMap charUnits

/-- A script ends with an exception, or a model of a loop runs out of fuel. -/
inductive Failure where
  | thrown (message : JsString)
  | exhausted
  deriving DecidableEq

/-- This is the call `throw new Error(message)`. -/
def throwNew {Value : Type} (message : JsString) : Except Failure Value := .error (.thrown message)

/-- A number equal to its own `Math.floor` is an integer or infinite. Negative zero is zero. -/
inductive JsInteger where
  | finite (value : ℤ)
  | infinite (negative : Bool)
  deriving DecidableEq

/-- A number is integral, or its 64 bits hold a fraction or no number. -/
inductive JsNumber where
  | integral (value : JsInteger)
  | fraction (bits : BitVec 64)
  deriving DecidableEq

section Double
variable (bits : BitVec 64)

/-- The 11 exponent bits of a `double`. -/
def exponent : Nat := bits.toNat / 2 ^ 52 % 2 ^ 11

/-- The mantissa has an implicit leading bit unless the exponent is zero. -/
def mantissa : Nat := bits.toNat % 2 ^ 52 + if exponent bits = 0 then 0 else 2 ^ 52

/-- The sign bit is the leading bit. -/
def signed (magnitude : Nat) : ℤ := if bits.msb then -magnitude else magnitude

/-- The bitwise operators cut a fraction off. -/
def truncate : ℤ := if exponent bits = 2047 then 0 else signed bits (mantissa bits / 2 ^ (1075 - exponent bits))

/-- This is the number with the given 64 bits. -/
def JsNumber.ofDouble : JsNumber :=
  if exponent bits = 2047 then
    if mantissa bits = 2 ^ 52 then .integral (.infinite bits.msb) else .fraction bits
  else if 1075 ≤ exponent bits then
    .integral (.finite (signed bits (mantissa bits * 2 ^ (exponent bits - 1075))))
  else if mantissa bits % 2 ^ (1075 - exponent bits) = 0 then
    .integral (.finite (signed bits (mantissa bits / 2 ^ (1075 - exponent bits))))
  else .fraction bits

end Double

/-- A 32-bit `float` has the same number as these 64 bits. -/
def widen (bits : BitVec 32) : BitVec 64 :=
  let sign := bits.toNat / 2 ^ 31
  let exponent := bits.toNat / 2 ^ 23 % 2 ^ 8
  let fraction := bits.toNat % 2 ^ 23
  let magnitude :=
    if exponent = 255 then 2047 * 2 ^ 52 + fraction * 2 ^ 29
    else if exponent ≠ 0 then (exponent + 896) * 2 ^ 52 + fraction * 2 ^ 29
    else if fraction = 0 then 0
    else (fraction.log2 + 874) * 2 ^ 52 + (fraction - 2 ^ fraction.log2) * 2 ^ (52 - fraction.log2)
  BitVec.ofNat 64 (sign * 2 ^ 63 + magnitude)

/-- The bitwise operators see a number modulo 2^32. -/
def JsInteger.toInt32 : JsInteger → BitVec 32
  | .finite value => BitVec.ofInt 32 value
  | .infinite _ => 0

def JsNumber.toInt32 : JsNumber → BitVec 32
  | .integral value => value.toInt32
  | .fraction bits => BitVec.ofInt 32 (truncate bits)

/-- This is the test `value >= low && value <= high`. -/
def JsInteger.between (low high : ℤ) : JsInteger → Bool
  | .finite value => low ≤ value && value ≤ high
  | .infinite _ => false

/-- A property key is an array index or any other text. -/
inductive PropertyKey where
  | index (value : Nat)
  | name (text : JsString)
  deriving DecidableEq

/-- An array index is a numeral below 2^32 - 1. -/
def PropertyKey.ofNumber (value : Nat) : PropertyKey :=
  if value < 4294967295 then .index value else .name (units (toString value))

/-- A loop over a key sees its text. -/
def PropertyKey.text : PropertyKey → JsString
  | .index value => units (toString value)
  | .name text => text

/-- An object lists its array indices in ascending order, then its names in creation order. -/
def PropertyKey.before : PropertyKey → PropertyKey → Bool
  | .index left, .index right => left < right
  | .index _, .name _ => true
  | .name _, _ => false

/-- An object lists its own enumerable properties in enumeration order. -/
inductive JsValue where
  | undefined
  | null
  | boolean (value : Bool)
  | number (value : JsNumber)
  | string (text : JsString)
  | bytes (content : List UInt8)
  | array (items : List JsValue)
  | object (properties : List (PropertyKey × JsValue))
  | function

/-- The properties of an object. -/
abbrev Properties := List (PropertyKey × JsValue)

/-- A whole number. -/
def JsValue.whole (value : ℤ) : JsValue := .number (.integral (.finite value))

/-- This is the assignment `object[key] = value`. -/
def setProperty (key : PropertyKey) (value : JsValue) : Properties → Properties
  | [] => [(key, value)]
  | (other, held) :: rest =>
      if other = key then (key, value) :: rest
      else if key.before other then (key, value) :: (other, held) :: rest
      else (other, held) :: setProperty key value rest

/-- This is an own property of an object. -/
def ownProperty (key : PropertyKey) (properties : Properties) : Option JsValue :=
  (properties.find? fun property => property.1 == key).map Prod.snd

section ParseInt

/-- The digits of `parseInt` are the decimal digits. -/
def digit (unit : UInt16) : Option Nat :=
  if 0x30 ≤ unit ∧ unit ≤ 0x39 then some (unit.toNat - 0x30) else none

/-- The leading digits denote a number. -/
def digits (value : Nat) : JsString → Nat
  | [] => value
  | unit :: rest =>
      match digit unit with
      | some next => digits (value * 10 + next) rest
      | none => value

/-- The conversions trim white space and line terminators. -/
def isWhiteSpace (unit : UInt16) : Bool :=
  (0x09 ≤ unit && unit ≤ 0x0d) || (0x2000 ≤ unit && unit ≤ 0x200a) ||
    [0x20, 0xa0, 0x1680, 0x2028, 0x2029, 0x202f, 0x205f, 0x3000, 0xfeff].contains unit

/-- The number starts with a digit. -/
def leadingDigits : JsString → Option Nat
  | [] => none
  | unit :: rest => (digit unit).map fun _ => toDouble (digits 0 (unit :: rest))

/-- This is `parseInt(text, 10)`. The result `none` is no number. -/
def parseInt (text : JsString) : Option ℤ :=
  match text.dropWhile isWhiteSpace with
  | 0x2d :: rest => (leadingDigits rest).map fun value => -(value : ℤ)
  | 0x2b :: rest => (leadingDigits rest).map fun value => (value : ℤ)
  | rest => (leadingDigits rest).map fun value => (value : ℤ)

end ParseInt
end Barton.Tlv
