/-
This file contains `Sbmd.Tlv.encode` with its parsing of numerals.
-/

import BartonCore.Construction.Tlv.Writer

namespace Barton.Tlv
open Rounding (toDouble)

section Numerals

/-- This is `text.trim()`. -/
def trim (text : JsString) : JsString :=
  ((text.dropWhile isWhiteSpace).reverse.dropWhile isWhiteSpace).reverse

/-- The digits above nine are the letters of either case. -/
def letterDigit (unit : UInt16) : Option Nat :=
  if 0x30 ≤ unit ∧ unit ≤ 0x39 then some (unit.toNat - 0x30)
  else if 0x41 ≤ unit ∧ unit ≤ 0x5a then some (unit.toNat - 0x41 + 10)
  else if 0x61 ≤ unit ∧ unit ≤ 0x7a then some (unit.toNat - 0x61 + 10)
  else none

def radixDigit (radix : Nat) (unit : UInt16) : Option Nat := (letterDigit unit).filter (· < radix)

/-- The longest prefix of digits of the radix. -/
def leadingValues (radix : Nat) : JsString → List Nat
  | [] => []
  | unit :: rest =>
      match radixDigit radix unit with
      | some value => value :: leadingValues radix rest
      | none => []

/-- A minus sign and a plus sign. -/
def isSign (unit : UInt16) : Bool := unit = 0x2d || unit = 0x2b

/-- The text after its sign. -/
def unsignedText : JsString → JsString
  | [] => []
  | unit :: rest => if isSign unit then rest else unit :: rest

/-- The radix 16 allows the prefix `0x`. -/
def stripPrefix (radix : Nat) (text : JsString) : JsString :=
  if radix = 16 ∧ (text.take 2 = [0x30, 0x78] ∨ text.take 2 = [0x30, 0x58]) then text.drop 2 else text

/-- The value of a numeral is rounded to a `double`, which is infinite from 2^1024 on. -/
def roundedInteger (negative : Bool) (magnitude : Nat) : JsInteger :=
  if 2 ^ 1024 ≤ toDouble magnitude then .infinite negative
  else .finite (if negative then -(toDouble magnitude : ℤ) else toDouble magnitude)

/-- This is `parseInt(text, radix)` for a radix from 2 to 36. The result `none` is no number. -/
def parseIntRadix (text : JsString) (radix : Nat) : Option JsInteger :=
  let signed := text.dropWhile isWhiteSpace
  match leadingValues radix (stripPrefix radix (unsignedText signed)) with
  | [] => none
  | values => some (roundedInteger (signed.head? = some 0x2d) (values.foldl (fun value next => value * radix + next) 0))

/-- The character class of the pattern of a base. -/
def inPattern (base : Nat) (unit : UInt16) : Bool :=
  if base = 2 then 0x30 ≤ unit && unit ≤ 0x31
  else if base = 8 then 0x30 ≤ unit && unit ≤ 0x37
  else if base = 10 then 0x30 ≤ unit && unit ≤ 0x39
  else (0x30 ≤ unit && unit ≤ 0x39) || (0x61 ≤ unit && unit ≤ 0x66) || (0x41 ≤ unit && unit ≤ 0x46)

/-- This is `integerPattern.test(text)`. -/
def integerPattern (base : Nat) (text : JsString) : Bool :=
  unsignedText text ≠ [] && (unsignedText text).all (inPattern base)

/-- The switch knows four bases. -/
def baseOf : JsValue → Option Nat
  | .number (.integral (.finite base)) => if base = 2 ∨ base = 8 ∨ base = 10 ∨ base = 16 then some base.toNat else none
  | _ => none

/-- A text is parsed as a number of the base. The result `none` is `null`. -/
def parseInteger (base : JsValue) (text : JsString) : Option JsInteger :=
  let trimmed := trim text
  if trimmed.length = 0 then none
  else (baseOf base).bind fun base => if integerPattern base trimmed then parseIntRadix trimmed base else none

end Numerals

section Ranges

/-- The ranges of the integer types, both bounds included. -/
def integerRanges : List (String × ℤ × ℤ) :=
  [("int8", -128, 127), ("int16", -32768, 32767), ("int32", -2147483648, 2147483647), ("uint8", 0, 0xff),
    ("uint16", 0, 0xffff), ("uint32", 0, 0xffffffff), ("enum8", 0, 0xff), ("enum16", 0, 0xffff), ("percent", 0, 0xff),
    ("percent100ths", 0, 0xffff), ("bitmap8", 0, 0xff), ("bitmap16", 0, 0xffff), ("bitmap32", 0, 0xffffffff)]

/-- A property of `Object.prototype` has no bounds. -/
inductive IntegerRange where
  | bounds (low high : ℤ)
  | inherited

/-- This is the expression `integerRanges[type]`. -/
def rangeOf (inherited : PropertyKey → Inherited) (type : String) : Option IntegerRange :=
  match integerRanges.lookup type with
  | some (low, high) => some (.bounds low high)
  | none => if inherited (.name (units type)) = .nothing then none else some .inherited

/-- A comparison with a missing bound is false. -/
def IntegerRange.excludes : IntegerRange → JsNumber → Bool
  | _, .fraction _ => true
  | .bounds _ _, .integral (.infinite _) => true
  | .bounds low high, .integral (.finite value) => value < low || high < value
  | .inherited, .integral _ => false

end Ranges

section
variable (toNumber : JsValue → JsNumber) (toText : JsValue → Except Failure JsString)

/-- A writer without a tag writes the value. -/
def writeFresh (type : Option String) (value : JsValue) : Except Failure (Option JsString) := do
  let bytes ← writeElement toNumber none type value
  return some (Base64.encode bytes)

/-- The range of an integer type is checked for a number. The result `none` is `null`. -/
def writeChecked (range : Option IntegerRange) (type : String) (value : JsValue) : Except Failure (Option JsString) :=
  match range, value with
  | some range, .number number =>
      if range.excludes number then .ok none else writeFresh toNumber (some type) (.number number)
  | _, value => writeFresh toNumber (some type) value

/-- This is `Sbmd.Tlv.encode`. The parameter `toText` is the language conversion `String(value)`. -/
def encode (inherited : PropertyKey → Inherited) (value : JsValue) (type : Option String) (base : JsValue) :
    Except Failure (Option JsString) :=
  match type with
  | none => throwNew (units "Sbmd.Tlv.encode: type argument is required")
  | some type =>
      if type = "string" then
        if ¬base.isUndefined then throwNew (units "Sbmd.Tlv.encode: base cannot be used with string type")
        else do
          let text ← match value with
            | .string text => .ok text
            | value => toText value
          writeFresh toNumber none (.string text)
      else
        let range := rangeOf inherited type
        match range, value with
        | some _, .string text =>
            match parseInteger (if base.isUndefined then .whole 10 else base) text with
            | none => .ok none
            | some parsed => writeChecked toNumber range type (.number (.integral parsed))
        | _, value => writeChecked toNumber range type value

end
end Barton.Tlv
