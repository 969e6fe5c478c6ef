/-
This file contains the UTF-8 and base64 conversions of the scripts.
-/

import BartonCore.Construction.Tlv.Value

namespace Barton.Tlv

/-- This is `String.fromCharCode` of a 32-bit number. -/
def fromCharCode (code : BitVec 32) : UInt16 := ⟨code.setWidth 16⟩

namespace Utf8

/-- An index past the end reads `undefined`, which the bitwise operators see as zero. -/
def byteAt (bytes : List UInt8) (index : Nat) : Nat := (bytes[index]?.getD 0).toNat

/-- The decoder takes one sequence at the first byte. The result is its units and the bytes after the first. -/
def decodeSequence (b0 : Nat) (rest : List UInt8) : JsString × Nat :=
  if b0 < 0x80 then ([UInt16.ofNat b0], 0)
  else if b0 &&& 0xe0 = 0xc0 then
    ([UInt16.ofNat ((b0 &&& 0x1f) <<< 6 ||| (byteAt rest 0 &&& 0x3f))], 1)
  else if b0 &&& 0xf0 = 0xe0 then
    ([UInt16.ofNat ((b0 &&& 0x0f) <<< 12 ||| (byteAt rest 0 &&& 0x3f) <<< 6 |||
      (byteAt rest 1 &&& 0x3f))], 2)
  else if b0 &&& 0xf8 = 0xf0 then
    let codePoint := (b0 &&& 0x07) <<< 18 ||| (byteAt rest 0 &&& 0x3f) <<< 12 |||
      (byteAt rest 1 &&& 0x3f) <<< 6 ||| (byteAt rest 2 &&& 0x3f)
    let adjusted : BitVec 32 := BitVec.ofNat 32 codePoint - 0x10000
    ([fromCharCode (0xd800 + adjusted.sshiftRight 10), fromCharCode (0xdc00 + (adjusted &&& 0x3ff))], 3)
  else ([0xfffd], 0)

/-- The loop skips the bytes that belong to the last sequence. -/
def decodeFrom : Nat → List UInt8 → JsString
  | _, [] => []
  | skipped + 1, _ :: rest => decodeFrom skipped rest
  | 0, b0 :: rest =>
      let (units, length) := decodeSequence b0.toNat rest
      units ++ decodeFrom length rest

def decode (bytes : List UInt8) : JsString := decodeFrom 0 bytes

/-- This is the encoding of one code point. -/
def encodePoint (codePoint : Nat) : List UInt8 :=
  List.map UInt8.ofNat <|
    if codePoint < 0x80 then [codePoint]
    else if codePoint < 0x800 then [0xc0 ||| codePoint >>> 6, 0x80 ||| (codePoint &&& 0x3f)]
    else if codePoint < 0x10000 then
      [0xe0 ||| codePoint >>> 12, 0x80 ||| (codePoint >>> 6 &&& 0x3f), 0x80 ||| (codePoint &&& 0x3f)]
    else [0xf0 ||| codePoint >>> 18, 0x80 ||| (codePoint >>> 12 &&& 0x3f),
      0x80 ||| (codePoint >>> 6 &&& 0x3f), 0x80 ||| (codePoint &&& 0x3f)]

/-- A high surrogate and a low surrogate are one code point. -/
def pairs (unit next : UInt16) : Bool :=
  0xd800 ≤ unit && unit ≤ 0xdbff && 0xdc00 ≤ next && next ≤ 0xdfff

def encode : JsString → List UInt8
  | [] => []
  | [unit] => encodePoint unit.toNat
  | unit :: next :: rest =>
      if pairs unit next then
        encodePoint (0x10000 + ((unit.toNat &&& 0x3ff) <<< 10) + (next.toNat &&& 0x3ff)) ++ encode rest
      else encodePoint unit.toNat ++ encode (next :: rest)

end Utf8

namespace Base64

def chars : JsString := units "ABCDEFGHIJKLMNOPQRSTUVWXYZabcdefghijklmnopqrstuvwxyz0123456789+/"

/-- The padding character is `=`. -/
def pad : UInt16 := 0x3d

/-- This is `chars.indexOf`. A missing character reads `undefined`, which the alphabet does not hold. -/
def indexOf (unit : Option UInt16) : Option Nat :=
  unit.bind fun unit => chars.idxOf? unit

/-- The third and the fourth character of a block can be padding. -/
def paddedIndexOf (unit : Option UInt16) : Option Nat := if unit = some pad then some 0 else indexOf unit

/-- The message quotes the offending character. -/
def invalidCharacter (index : Nat) (unit : Option UInt16) : JsString :=
  units "Invalid Base64 character at index " ++ units (toString index) ++ units ": '" ++
    (match unit with
      | some unit => [unit]
      | none => units "undefined") ++ units "'"

/-- This is one turn of the decoding loop. -/
def decodeBlock (i : Nat) (u0 u1 u2 u3 : Option UInt16) : Except Failure (List UInt8) :=
  match indexOf u0, indexOf u1, paddedIndexOf u2, paddedIndexOf u3 with
  | some c0, some c1, some c2, some c3 =>
      .ok (List.map UInt8.ofNat <|
        [c0 <<< 2 ||| c1 >>> 4] ++
          (if u2 ≠ some pad then [(c1 &&& 0x0f) <<< 4 ||| c2 >>> 2] else []) ++
          (if u3 ≠ some pad then [(c2 &&& 0x03) <<< 6 ||| c3] else []))
  | none, _, _, _ => throwNew (invalidCharacter i u0)
  | _, none, _, _ => throwNew (invalidCharacter (i + 1) u1)
  | _, _, none, _ => throwNew (invalidCharacter (i + 2) u2)
  | _, _, _, none => throwNew (invalidCharacter (i + 3) u3)

/-- The last block can be short. -/
def decodeFrom (i : Nat) : JsString → Except Failure (List UInt8)
  | [] => .ok []
  | u0 :: u1 :: u2 :: u3 :: rest => do
      let block ← decodeBlock i (some u0) (some u1) (some u2) (some u3)
      let later ← decodeFrom (i + 4) rest
      return block ++ later
  | short => decodeBlock i short[0]? short[1]? short[2]? none

def decode (base64 : JsString) : Except Failure (List UInt8) := decodeFrom 0 base64

/-- This is `chars[index]`. -/
def charAt (index : Nat) : UInt16 := chars[index]?.getD 0

/-- This is one turn of the encoding loop. A missing byte counts as zero and its character is padding. -/
def encodeBlock (b0 : UInt8) (b1 b2 : Option UInt8) : JsString :=
  let n0 := b0.toNat
  let n1 := (b1.getD 0).toNat
  let n2 := (b2.getD 0).toNat
  [charAt (n0 >>> 2), charAt ((n0 &&& 0x03) <<< 4 ||| n1 >>> 4),
    if b1.isSome then charAt ((n1 &&& 0x0f) <<< 2 ||| n2 >>> 6) else pad,
    if b2.isSome then charAt (n2 &&& 0x3f) else pad]

def encode : List UInt8 → JsString
  | [] => []
  | [b0] => encodeBlock b0 none none
  | [b0, b1] => encodeBlock b0 (some b1) none
  | b0 :: b1 :: b2 :: rest => encodeBlock b0 (some b1) (some b2) ++ encode rest

end Base64
end Barton.Tlv
