/-
This file contains the TLV reader.
-/

import BartonCore.ToMathlib.Parsing
import BartonCore.Construction.Tlv.Writer

namespace Barton.Tlv
open Parsing
open Rounding (toDoubleInt)

/-- A reader has the bytes and the offset of the next byte. -/
abbrev TlvReader := Cursor UInt8

/-- A reading function moves the offset or throws. -/
abbrev Read (Value : Type) := Parser UInt8 Failure Value

def unexpectedEnd : JsString := units "Unexpected end of TLV data"

def hasMore : Read Bool := fun reader => .ok (reader.offset < reader.tokens.length, reader)

def readByte : Read UInt8 := fun reader =>
  match reader.tokens[reader.offset]? with
  | some byte => .ok (byte, reader.advance 1)
  | none => throwNew unexpectedEnd

def readBytes (count : Nat) : Read (List UInt8) := fun reader =>
  if reader.offset + count > reader.tokens.length then throwNew unexpectedEnd
  else .ok (reader.remaining.take count, reader.advance count)

/-- The loop joins bytes in 32-bit signed arithmetic. -/
def readShifted (value : BitVec 32) (i : Nat) : Nat → Read (BitVec 32)
  | 0 => pure value
  | count + 1 => do
      let byte ← readByte
      readShifted (value ||| byte.toBitVec.setWidth 32 <<< (i * 8)) (i + 1) count

/-- This is `readUint` for at most four bytes. -/
def readWord (size : Nat) : Read ℤ := do
  let value ← readShifted 0 0 size
  return if size = 4 ∧ value.toInt < 0 then value.toNat else value.toInt

/-- A value of eight bytes is rounded to a `double`. -/
def readUint (size : Nat) : Read ℤ :=
  if size ≤ 4 then readWord size
  else do
    let low ← readWord 4
    let high ← readWord 4
    return toDoubleInt (high * 4294967296 + low)

def readInt (size : Nat) : Read ℤ :=
  if size ≤ 4 then do
    let value ← readUint size
    return if 2 ^ (size * 8 - 1) ≤ value then value - 2 ^ (size * 8) else value
  else do
    let low ← readUint 4
    let high ← readUint 4
    return toDoubleInt ((BitVec.ofInt 32 high).toInt * 4294967296 + low)

def readLength (sizeIndicator : Nat) : Read Nat :=
  if sizeIndicator = 0 then do
    let length ← readByte
    return length.toNat
  else if sizeIndicator = 1 then do
    let length ← readUint 2
    return length.toNat
  else if sizeIndicator = 2 then do
    let length ← readUint 4
    return length.toNat
  else fun _ => throwNew (units "Invalid length indicator: " ++ units (toString sizeIndicator))

/-- The bytes of a number are little-endian on every host. -/
def decodeFloatLE (bytes : List UInt8) (isDouble : Bool) : JsNumber :=
  let bits := bytes.foldr (fun byte value => byte.toNat + 256 * value) 0
  if isDouble then JsNumber.ofDouble (BitVec.ofNat 64 bits)
  else JsNumber.ofDouble (widen (BitVec.ofNat 32 bits))

/-- An element ends its container or has a tag, a value, and an element type. -/
inductive Element where
  | finish
  | item (tag : Option ℤ) (value : JsValue) (elementType : UInt8)

/-- The element is also an object in the contents of a list. -/
def Element.toValue (tag : Option ℤ) (value : JsValue) (elementType : UInt8) : JsValue :=
  .object [(.name (units "tag"), (tag.map JsValue.whole).getD .null), (.name (units "value"), value),
    (.name (units "type"), .whole elementType.toNat)]

def readTag (tagForm : UInt8) : Read (Option ℤ) :=
  if tagForm = 0x20 then do
    let tag ← readByte
    return some tag.toNat
  else if tagForm = 0x40 ∨ tagForm = 0x80 then do
    let tag ← readUint 2
    return some tag
  else if tagForm = 0x60 ∨ tagForm = 0xa0 then do
    let tag ← readUint 4
    return some tag
  else if tagForm = 0xc0 then do
    let _vendor ← readUint 2
    let _profile ← readUint 2
    let tag ← readUint 2
    return some tag
  else if tagForm = 0xe0 then do
    let _vendor ← readUint 2
    let _profile ← readUint 2
    let tag ← readUint 4
    return some tag
  else return none

/-- The items of an array are the values of its elements. -/
def arrayItems (elements : List Element) : List JsValue :=
  elements.filterMap fun element =>
    match element with
    | .finish => none
    | .item _ value _ => some value

/-- A tagged element is a property of its struct, and later elements replace earlier ones. -/
def addElement (properties : Properties) : Element → Properties
  | .item (some tag) value _ => setProperty (PropertyKey.ofNumber tag.toNat) value properties
  | _ => properties

def structProperties (elements : List Element) : Properties := elements.foldl addElement []

/-- The items of a list are the elements themselves. -/
def listItems (elements : List Element) : List JsValue :=
  elements.filterMap fun element =>
    match element with
    | .finish => none
    | .item tag value elementType => some (Element.toValue tag value elementType)

/-- The element type selects the value. The argument reads the elements of a container. -/
def readBody (container : Read (List Element)) (tag : Option ℤ) (elementType : UInt8) : Read Element :=
  let baseType := elementType.toNat
  if baseType ≤ 0x03 then do
    let value ← readInt (1 <<< baseType)
    return .item tag (.whole value) elementType
  else if baseType ≤ 0x07 then do
    let value ← readUint (1 <<< (baseType - 0x04))
    return .item tag (.whole value) elementType
  else if baseType = 0x08 then return .item tag (.boolean false) elementType
  else if baseType = 0x09 then return .item tag (.boolean true) elementType
  else if baseType = 0x0a then do
    let floatBytes ← readBytes 4
    return .item tag (.number (decodeFloatLE floatBytes false)) elementType
  else if baseType = 0x0b then do
    let doubleBytes ← readBytes 8
    return .item tag (.number (decodeFloatLE doubleBytes true)) elementType
  else if baseType ≤ 0x0f then do
    let strLen ← readLength (baseType - 0x0c)
    let strBytes ← readBytes strLen
    return .item tag (.string (Utf8.decode strBytes)) elementType
  else if baseType ≤ 0x13 then do
    let octLen ← readLength (baseType - 0x10)
    let value ← readBytes octLen
    return .item tag (.bytes value) elementType
  else if baseType = 0x14 then return .item tag .null elementType
  else if baseType = 0x15 then do
    let elements ← container
    return .item tag (.object (structProperties elements)) elementType
  else if baseType = 0x16 then do
    let elements ← container
    return .item tag (.array (arrayItems elements)) elementType
  else if baseType = 0x17 then do
    let elements ← container
    return .item tag (.array (listItems elements)) elementType
  else if baseType = 0x18 then return .finish
  else fun _ => throwNew (units "Unknown TLV element type: 0x" ++
    units (String.ofList (Nat.toDigits 16 baseType)))

mutual

/-- The fuel bounds the nesting and the number of elements. -/
def readElement : Nat → Read Element
  | 0 => fun _ => .error .exhausted
  | fuel + 1 => do
      let control ← readByte
      let tag ← readTag (control &&& 0xe0)
      readBody (readContainer fuel) tag (control &&& 0x1f)

/-- The loop reads elements until the end marker or the end of the bytes. -/
def readContainer : Nat → Read (List Element)
  | 0 => fun _ => .error .exhausted
  | fuel + 1 => do
      let more ← hasMore
      if more then do
        let element ← readElement fuel
        match element with
        | .finish => return []
        | .item tag value elementType => do
            let elements ← readContainer fuel
            return .item tag value elementType :: elements
      else return []

end

/-- Every turn of a loop consumes a byte, so this fuel is enough. -/
def enoughFuel (bytes : List UInt8) : Nat := 2 * bytes.length + 1

/-- This is `new TlvReader(bytes)` followed by `readElement()`. -/
def readFresh (bytes : List UInt8) : Except Failure (Element × TlvReader) :=
  readElement (enoughFuel bytes) ⟨bytes, 0⟩

/-- The end marker has no property `value`. -/
def Element.value : Element → JsValue
  | .finish => .undefined
  | .item _ value _ => value

/-- This is `Sbmd.Tlv.decode`. A missing argument is `none`. -/
def decode (base64 : Option JsString) : Except Failure JsValue :=
  match base64 with
  | none => .ok .null
  | some [] => .ok .null
  | some text => do
      let bytes ← Base64.decode text
      if bytes.length = 0 then return .null
      else do
        let (element, _) ← readFresh bytes
        return element.value

end Barton.Tlv
