/-
This file contains the TLV writer. Each function returns the bytes that the writer pushes.
-/

import BartonCore.Construction.Tlv.Text

namespace Barton.Tlv

section Types

/-- The element types of the Matter TLV format. A size or a length class is added to the first of a group. -/
def typeSignedInt : UInt8 := 0x00
def typeUnsignedInt : UInt8 := 0x04
def typeBoolFalse : UInt8 := 0x08
def typeBoolTrue : UInt8 := 0x09
def typeFloat : UInt8 := 0x0a
def typeDouble : UInt8 := 0x0b
def typeUtf8String : UInt8 := 0x0c
def typeOctetString : UInt8 := 0x10
def typeNull : UInt8 := 0x14
def typeStruct : UInt8 := 0x15
def typeArray : UInt8 := 0x16
def typeList : UInt8 := 0x17
def typeEndContainer : UInt8 := 0x18

def tagAnonymous : UInt8 := 0x00
def tagContext : UInt8 := 0x20

end Types

/-- The writer masks every byte with `0xff`. -/
def writeByte (value : ℤ) : List UInt8 := [⟨(BitVec.ofInt 32 value).setWidth 8⟩]

/-- The writer shifts a number in 32-bit signed arithmetic. -/
def shiftedByte (bits : BitVec 32) (i : Nat) : UInt8 := ⟨(bits.sshiftRight (i * 8) &&& 0xff).setWidth 8⟩

/-- The low half and the high half of a number. An infinite number has no low half. -/
def halves : JsInteger → BitVec 32 × BitVec 32
  | .finite value =>
      let high := value / 4294967296
      (BitVec.ofInt 32 (value - high * 4294967296), BitVec.ofInt 32 high)
  | .infinite _ => (0, 0)

/-- The loops of `writeUint` also stand at the end of `writeSignedInt`. -/
def writeUint (value : JsInteger) (size : Nat) : List UInt8 :=
  if size ≤ 4 then (List.range size).map (shiftedByte value.toInt32)
  else (List.range 4).map (shiftedByte (halves value).1) ++ (List.range 4).map (shiftedByte (halves value).2)

/-- The control byte joins the tag form and the element type. -/
def control (tag : Option ℤ) (elementType : UInt8) : UInt8 :=
  (if tag.isNone then tagAnonymous else tagContext) ||| elementType

/-- Every element starts with its control byte and its tag. -/
def writeHead (tag : Option ℤ) (elementType : UInt8) : List UInt8 :=
  control tag elementType :: (tag.map writeByte).getD []

/-- The empty string is no type. -/
def typed : Option String → Bool
  | none => false
  | some type => type != ""

/-- The result is the size class of a signed integer. -/
def signedClass (value : JsInteger) (type : Option String) : Nat :=
  if type = some "int8" ∨ value.between (-128) 127 then 0
  else if type = some "int16" ∨ value.between (-32768) 32767 then 1
  else if type = some "int32" ∨ value.between (-2147483648) 2147483647 then 2
  else 3

/-- The result is the size class of an unsigned integer. -/
def unsignedClass (value : JsInteger) (type : Option String) : Nat :=
  if type = some "uint8" ∨ type = some "enum8" ∨ type = some "percent" ∨
      (value.between 0 0xff ∧ ¬typed type) then 0
  else if type = some "uint16" ∨ type = some "enum16" ∨ type = some "percent100ths" ∨
      (value.between 0 0xffff ∧ ¬typed type) then 1
  else if type = some "uint32" ∨ (value.between 0 0xffffffff ∧ ¬typed type) then 2
  else 3

def writeSignedInt (tag : Option ℤ) (value : JsInteger) (type : Option String) : List UInt8 :=
  let size := signedClass value type
  writeHead tag (typeSignedInt + UInt8.ofNat size) ++ writeUint value (2 ^ size)

def writeUnsignedInt (tag : Option ℤ) (value : JsInteger) (type : Option String) : List UInt8 :=
  let size := unsignedClass value type
  writeHead tag (typeUnsignedInt + UInt8.ofNat size) ++ writeUint value (2 ^ size)

/-- A type whose name starts with `int` is signed. -/
def signedType : Option String → Bool
  | none => false
  | some type => type.toList.take 3 = ['i', 'n', 't']

/-- The result is the length class of a string. -/
def lengthClass (length : Nat) : Nat := if length ≤ 0xff then 0 else if length ≤ 0xffff then 1 else 2

/-- A string has its length before its bytes. -/
def writeCounted (tag : Option ℤ) (elementType : UInt8) (bytes : List UInt8) : List UInt8 :=
  let lengthSize := lengthClass bytes.length
  writeHead tag (elementType + UInt8.ofNat lengthSize) ++
    (if lengthSize = 0 then writeByte bytes.length
      else if lengthSize = 1 then writeUint (.finite bytes.length) 2
      else writeUint (.finite bytes.length) 4) ++ bytes

/-- The writer copies the eight bytes of a `double` from little-endian memory. -/
def doubleBytes (bits : BitVec 64) : List UInt8 :=
  (List.range 8).map fun i => ⟨(bits >>> (8 * i)).setWidth 8⟩

section
variable (toNumber : JsValue → JsNumber)

/-- The parameter is the language conversion of strings and objects, which can call methods of the value. -/
def toUint8 : JsValue → UInt8
  | .undefined => 0
  | .null => 0
  | .boolean value => if value then 1 else 0
  | .number value => ⟨value.toInt32.setWidth 8⟩
  | value => ⟨(toNumber value).toInt32.setWidth 8⟩

mutual

/-- The declared type reaches the outermost element only. -/
def writeElement (tag : Option ℤ) (type : Option String) : JsValue → Except Failure (List UInt8)
  | .undefined => .ok (writeHead tag typeNull)
  | .null => .ok (writeHead tag typeNull)
  | .boolean value => .ok (writeHead tag (if value then typeBoolTrue else typeBoolFalse))
  | .number (.integral value) =>
      .ok (if signedType type then writeSignedInt tag value type else writeUnsignedInt tag value type)
  | .number (.fraction bits) => .ok (writeHead tag typeDouble ++ doubleBytes bits)
  | .string text => .ok (writeCounted tag typeUtf8String (Utf8.encode text))
  | .bytes content => .ok (writeCounted tag typeOctetString content)
  | .array items =>
      if type = some "octstr" then .ok (writeCounted tag typeOctetString (items.map (toUint8 toNumber)))
      else do
        let content ← writeElements items
        return writeHead tag typeArray ++ content ++ [typeEndContainer]
  | .object properties => do
      let content ← writeProperties properties
      return writeHead tag typeStruct ++ content ++ [typeEndContainer]
  | .function => throwNew (units "Unsupported value type: function")

/-- An array writes its elements without tags. -/
def writeElements : List JsValue → Except Failure (List UInt8)
  | [] => .ok []
  | item :: rest => do
      let first ← writeElement none none item
      let later ← writeElements rest
      return first ++ later

/-- An object writes the properties whose keys start with a number. -/
def writeProperties : Properties → Except Failure (List UInt8)
  | [] => .ok []
  | (key, value) :: rest => do
      let first ← match parseInt key.text with
        | some fieldTag => writeElement (some fieldTag) none value
        | none => .ok []
      let later ← writeProperties rest
      return first ++ later

end

/-- A schema entry has a tag and a Matter type name. -/
structure FieldInfo where
  tag : ℤ
  type : Option String

/-- A name absent from an object can still come from `Object.prototype`. -/
inductive Inherited where
  | nothing
  | method
  | prototype
  deriving DecidableEq

/-- A method is a function, and the property `__proto__` is an object without enumerable properties. -/
def Inherited.value : Inherited → JsValue
  | .nothing => .undefined
  | .method => .function
  | .prototype => .object []

/-- This is the expression `value[name]`. -/
def member (inherited : PropertyKey → Inherited) (properties : Properties) (name : PropertyKey) : JsValue :=
  (ownProperty name properties).getD (inherited name).value

def JsValue.isUndefined : JsValue → Bool
  | .undefined => true
  | _ => false

/-- A field that is undefined is left out. -/
def writeField (inherited : PropertyKey → Inherited) (value : Properties) (name : PropertyKey)
    (fieldInfo : FieldInfo) : Except Failure (List UInt8) :=
  let held := member inherited value name
  if held.isUndefined then .ok [] else writeElement toNumber (some fieldInfo.tag) fieldInfo.type held

/-- The loop writes the schema fields in order. -/
def writeFields (inherited : PropertyKey → Inherited) (value : Properties) :
    List (PropertyKey × FieldInfo) → Except Failure (List UInt8)
  | [] => .ok []
  | (name, fieldInfo) :: rest => do
      let first ← writeField toNumber inherited value name fieldInfo
      let later ← writeFields inherited value rest
      return first ++ later

/-- This is `Sbmd.Tlv.encodeStruct`. -/
def encodeStruct (inherited : PropertyKey → Inherited) (value : Properties)
    (schema : List (PropertyKey × FieldInfo)) : Except Failure JsString := do
  let content ← writeFields toNumber inherited value schema
  return Base64.encode ([typeStruct] ++ content ++ [typeEndContainer])

end
end Barton.Tlv
