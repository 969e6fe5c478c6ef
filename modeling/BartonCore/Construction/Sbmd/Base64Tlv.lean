/-
This file contains how the driver turns TLV payloads into base64 texts and back. The texts are ASCII, so a character
is its code unit.
-/

import BartonCore.Construction.Tlv.Text

namespace Barton.Base64Tlv
open Tlv

inductive ChipError where
  | bufferTooSmall
  | noMemory
  | other
  deriving DecidableEq

/-- These functions of the Matter SDK are called. A conversion returns a count and the values that it writes to the
front of its output, and an element is copied into a buffer of a given size. -/
structure MatterSdk (Element : Type) where
  base64MaxDecodedLen : Nat → Nat
  base64EncodedLen : Nat → Nat
  base64Decode : JsString → UInt16 × List UInt8
  base64Encode : List UInt8 → UInt16 × JsString
  copyElement : Nat → Element → Except ChipError (List UInt8)

section Buffers
variable {Value : Type}

/-- The front of a buffer is overwritten. -/
def overwrite (written buffer : List Value) : List Value := written ++ buffer.drop written.length

/-- A container is cut or filled up. -/
def resize (size : Nat) (fill : Value) (values : List Value) : List Value :=
  (values ++ List.replicate size fill).take size

end Buffers

variable {Element : Type} (sdk : MatterSdk Element)

/-- The length of the text passes through 16 bits. -/
def decodeBase64Tlv (tlvBase64 : JsString) : Option (List UInt8) :=
  if tlvBase64.length = 0 then some []
  else
    let decodedTlv := List.replicate (sdk.base64MaxDecodedLen tlvBase64.length) 0
    let (decoded, written) := sdk.base64Decode (tlvBase64.take (UInt16.ofNat tlvBase64.length).toNat)
    if decoded = 0xffff then none else some (resize decoded.toNat 0 (overwrite written decodedTlv))

/-- A copied element is encoded. -/
def encodeCopied (tlv : List UInt8) : JsString :=
  let tlvLen := UInt32.ofNat tlv.length
  if tlvLen = 0 then []
  else
    let tlvBase64 := List.replicate (sdk.base64EncodedLen tlvLen.toNat + 1) 0
    let (encoded, written) := sdk.base64Encode (tlv.take tlvLen.toUInt16.toNat)
    resize encoded.toNat 0 (overwrite written tlvBase64)

/-- The loop doubles a buffer that is too small. The fuel bounds its turns, and the inner result `none` is
`std::nullopt`. -/
def encodeLoop (reader : Element) (maxBufSize : Nat) : Nat → Nat → Option (Option JsString)
  | 0, _ => none
  | fuel + 1, bufSize =>
      match sdk.copyElement (UInt32.ofNat bufSize).toNat reader with
      | .ok tlv => some (some (encodeCopied sdk tlv))
      | .error error =>
          if (error = .bufferTooSmall ∨ error = .noMemory) ∧ bufSize < maxBufSize then
            encodeLoop reader maxBufSize fuel (if bufSize * 2 > maxBufSize then maxBufSize else bufSize * 2)
          else some none

/-- Each turn of the loop enlarges a nonempty buffer, so this fuel is enough. -/
def encodeTlvElementToBase64 (reader : Element) (initialBufSize maxBufSize : Nat) : Option (Option JsString) :=
  encodeLoop sdk reader maxBufSize (maxBufSize + 1) initialBufSize

end Barton.Base64Tlv
