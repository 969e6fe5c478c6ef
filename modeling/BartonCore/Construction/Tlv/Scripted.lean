/-
This file contains the TLV reader as scripts, which show its offsets and its calls.
-/

import BartonCore.Construction.Tlv.Reader
import BartonCore.ToMathlib.Scripts

namespace Barton.Tlv.Scripted
open Scripts Parsing
open Rounding (toDoubleInt)

/-- These calls are recursive. -/
inductive Call where
  | element
  | container
  deriving DecidableEq

abbrev Read (Value : Type) := Script UInt8 Failure Call Value

def throwNew {Value : Type} (message : JsString) : Read Value := .fail (.thrown message)

def hasMore : Read Bool := .more .done

def readByte : Read UInt8 :=
  .take 1 (.thrown unexpectedEnd) fun bytes =>
    match bytes with
    | byte :: _ => .done byte
    | [] => throwNew unexpectedEnd

def readBytes (count : Nat) : Read (List UInt8) := .take count (.thrown unexpectedEnd) .done

def readShifted (value : BitVec 32) (i : Nat) : Nat → Read (BitVec 32)
  | 0 => pure value
  | count + 1 => do
      let byte ← readByte
      readShifted (value ||| byte.toBitVec.setWidth 32 <<< (i * 8)) (i + 1) count

def readWord (size : Nat) : Read ℤ := do
  let value ← readShifted 0 0 size
  return if size = 4 ∧ value.toInt < 0 then value.toNat else value.toInt

def readUint (size : Nat) : Read ℤ :=
  if size ≤ 4 then readWord size
  else do
    let low ← readWord 4
    let high ← readWord 4
    return toDoubleInt (high * 4294967296 + low)

def readInt (size : Nat) : Read ℤ :=
  if size ≤ 4 then do
    let value ← readUint size
    return if 2 ^ (size * 8 - 1) ≤ value then value - 2 ^ (size * 8) else value
  else do
    let low ← readUint 4
    let high ← readUint 4
    return toDoubleInt ((BitVec.ofInt 32 high).toInt * 4294967296 + low)

def readLength (sizeIndicator : Nat) : Read Nat :=
  if sizeIndicator = 0 then do
    let length ← readByte
    return length.toNat
  else if sizeIndicator = 1 then do
    let length ← readUint 2
    return length.toNat
  else if sizeIndicator = 2 then do
    let length ← readUint 4
    return length.toNat
  else throwNew (units "Invalid length indicator: " ++ units (toString sizeIndicator))

def readTag (tagForm : UInt8) : Read (Option ℤ) :=
  if tagForm = 0x20 then do
    let tag ← readByte
    return some tag.toNat
  else if tagForm = 0x40 ∨ tagForm = 0x80 then do
    let tag ← readUint 2
    return some tag
  else if tagForm = 0x60 ∨ tagForm = 0xa0 then do
    let tag ← readUint 4
    return some tag
  else if tagForm = 0xc0 then do
    let _vendor ← readUint 2
    let _profile ← readUint 2
    let tag ← readUint 2
    return some tag
  else if tagForm = 0xe0 then do
    let _vendor ← readUint 2
    let _profile ← readUint 2
    let tag ← readUint 4
    return some tag
  else return none

/-- The argument reads the elements of a container. -/
def readBody (container : Read (List Element)) (tag : Option ℤ) (elementType : UInt8) : Read Element :=
  let baseType := elementType.toNat
  if baseType ≤ 0x03 then do
    let value ← readInt (1 <<< baseType)
    return .item tag (.whole value) elementType
  else if baseType ≤ 0x07 then do
    let value ← readUint (1 <<< (baseType - 0x04))
    return .item tag (.whole value) elementType
  else if baseType = 0x08 then return .item tag (.boolean false) elementType
  else if baseType = 0x09 then return .item tag (.boolean true) elementType
  else if baseType = 0x0a then do
    let floatBytes ← readBytes 4
    return .item tag (.number (decodeFloatLE floatBytes false)) elementType
  else if baseType = 0x0b then do
    let doubleBytes ← readBytes 8
    return .item tag (.number (decodeFloatLE doubleBytes true)) elementType
  else if baseType ≤ 0x0f then do
    let strLen ← readLength (baseType - 0x0c)
    let strBytes ← readBytes strLen
    return .item tag (.string (Utf8.decode strBytes)) elementType
  else if baseType ≤ 0x13 then do
    let octLen ← readLength (baseType - 0x10)
    let value ← readBytes octLen
    return .item tag (.bytes value) elementType
  else if baseType = 0x14 then return .item tag .null elementType
  else if baseType = 0x15 then do
    let elements ← container
    return .item tag (.object (structProperties elements)) elementType
  else if baseType = 0x16 then do
    let elements ← container
    return .item tag (.array (arrayItems elements)) elementType
  else if baseType = 0x17 then do
    let elements ← container
    return .item tag (.array (listItems elements)) elementType
  else if baseType = 0x18 then return .finish
  else throwNew (units "Unknown TLV element type: 0x" ++ units (String.ofList (Nat.toDigits 16 baseType)))

mutual

/-- The fuel bounds the nesting and the number of elements. -/
def readElement : Nat → Read Element
  | 0 => .enter .element (.fail .exhausted)
  | fuel + 1 => .enter .element do
      let control ← readByte
      let tag ← readTag (control &&& 0xe0)
      readBody (.enter .container (readElements fuel)) tag (control &&& 0x1f)

/-- This is the loop of `readContainer`. -/
def readElements : Nat → Read (List Element)
  | 0 => .fail .exhausted
  | fuel + 1 => do
      let more ← hasMore
      if more then do
        let element ← readElement fuel
        match element with
        | .finish => return []
        | .item tag value elementType => do
            let elements ← readElements fuel
            return .item tag value elementType :: elements
      else return []

end

end Barton.Tlv.Scripted
