import BartonCore.Construction.Tlv.Text

namespace Barton.Tlv

/-- A shifted value and a value below the shift do not share bits. -/
theorem join_bits (high : Nat) {low shift : Nat} (small : low < 2 ^ shift) :
    high <<< shift ||| low = high * 2 ^ shift + low := by
  rw [← Nat.shiftLeft_add_eq_or_of_lt small, Nat.shiftLeft_eq]

namespace Utf8

/-- A code point has one unit or a surrogate pair. -/
def pointUnits (codePoint : Nat) : JsString :=
  if codePoint < 0x10000 then [UInt16.ofNat codePoint]
  else [UInt16.ofNat (0xd800 + (codePoint - 0x10000) / 0x400),
    UInt16.ofNat (0xdc00 + (codePoint - 0x10000) % 0x400)]

/-- A continuation byte keeps six bits. -/
theorem continuation_byte :
    ∀ value < 64, (0x80 ||| value) % 256 &&& 0x3f = value := by
  decide

theorem lead_two : ∀ value < 32, ¬(0xc0 ||| value) % 256 < 0x80 ∧
    (0xc0 ||| value) % 256 &&& 0xe0 = 0xc0 ∧ (0xc0 ||| value) % 256 &&& 0x1f = value := by
  decide

theorem lead_three : ∀ value < 16, ¬(0xe0 ||| value) % 256 < 0x80 ∧
    (0xe0 ||| value) % 256 &&& 0xe0 ≠ 0xc0 ∧ (0xe0 ||| value) % 256 &&& 0xf0 = 0xe0 ∧
    (0xe0 ||| value) % 256 &&& 0x0f = value := by
  decide

theorem lead_four : ∀ value < 8, ¬(0xf0 ||| value) % 256 < 0x80 ∧
    (0xf0 ||| value) % 256 &&& 0xe0 ≠ 0xc0 ∧ (0xf0 ||| value) % 256 &&& 0xf0 ≠ 0xe0 ∧
    (0xf0 ||| value) % 256 &&& 0xf8 = 0xf0 ∧ (0xf0 ||| value) % 256 &&& 0x07 = value := by
  decide

theorem mask_six (value : Nat) : value &&& 0x3f = value % 64 := Nat.and_two_pow_sub_one_eq_mod value 6

section
variable {codePoint : Nat} (rest : List UInt8)

theorem decode_one (bound : codePoint < 0x80) :
    decodeFrom 0 (encodePoint codePoint ++ rest) = [UInt16.ofNat codePoint] ++ decodeFrom 0 rest := by
  have byte : codePoint % 256 = codePoint := by omega
  simp [encodePoint, bound, decodeFrom, decodeSequence, byte]

theorem decode_two (above : ¬codePoint < 0x80) (bound : codePoint < 0x800) :
    decodeFrom 0 (encodePoint codePoint ++ rest) = [UInt16.ofNat codePoint] ++ decodeFrom 0 rest := by
  have high : codePoint >>> 6 < 32 := by
    rw [Nat.shiftRight_eq_div_pow]
    omega
  have low : codePoint &&& 0x3f < 64 := by
    rw [mask_six]
    omega
  obtain ⟨notAscii, two, lead⟩ := lead_two _ high
  have tail := continuation_byte _ low
  have point : codePoint >>> 6 <<< 6 ||| (codePoint &&& 0x3f) = codePoint := by
    rw [join_bits _ low, mask_six, Nat.shiftRight_eq_div_pow]
    omega
  have sequence : decodeSequence ((0xc0 ||| codePoint >>> 6) % 256)
      (UInt8.ofNat (0x80 ||| (codePoint &&& 0x3f)) :: rest) = ([UInt16.ofNat codePoint], 1) := by
    rw [decodeSequence, if_neg notAscii, if_pos two, lead]
    simp only [byteAt, List.getElem?_cons_zero, Option.getD_some, UInt8.toNat_ofNat', Nat.reducePow]
    rw [tail, point]
  simp only [encodePoint, if_neg above, if_pos bound, List.map_cons, List.map_nil, List.cons_append,
    List.nil_append, decodeFrom, UInt8.toNat_ofNat', Nat.reducePow, sequence]

theorem decode_three (above : ¬codePoint < 0x800) (bound : codePoint < 0x10000) :
    decodeFrom 0 (encodePoint codePoint ++ rest) = [UInt16.ofNat codePoint] ++ decodeFrom 0 rest := by
  have high : codePoint >>> 12 < 16 := by
    rw [Nat.shiftRight_eq_div_pow]
    omega
  have middle : codePoint >>> 6 &&& 0x3f < 64 := by
    rw [mask_six]
    omega
  have low : codePoint &&& 0x3f < 64 := by
    rw [mask_six]
    omega
  obtain ⟨notAscii, notTwo, three, lead⟩ := lead_three _ high
  have second := continuation_byte _ middle
  have third := continuation_byte _ low
  have point : codePoint >>> 12 <<< 12 ||| (codePoint >>> 6 &&& 0x3f) <<< 6 ||| (codePoint &&& 0x3f) =
      codePoint := by
    have lower := join_bits (codePoint >>> 6 &&& 0x3f) (show codePoint &&& 0x3f < 2 ^ 6 from low)
    rw [Nat.or_assoc, lower, join_bits _ (by omega)]
    simp only [mask_six, Nat.shiftRight_eq_div_pow]
    omega
  have sequence : decodeSequence ((0xe0 ||| codePoint >>> 12) % 256)
      (UInt8.ofNat (0x80 ||| (codePoint >>> 6 &&& 0x3f)) ::
        UInt8.ofNat (0x80 ||| (codePoint &&& 0x3f)) :: rest) = ([UInt16.ofNat codePoint], 2) := by
    rw [decodeSequence, if_neg notAscii, if_neg notTwo, if_pos three, lead]
    simp only [byteAt, List.getElem?_cons_zero, List.getElem?_cons_succ, Option.getD_some,
      UInt8.toNat_ofNat', Nat.reducePow]
    rw [second, third, point]
  have notShort : ¬codePoint < 0x80 := by omega
  simp only [encodePoint, if_neg notShort, if_neg above, if_pos bound, List.map_cons, List.map_nil,
    List.cons_append, List.nil_append, decodeFrom, UInt8.toNat_ofNat', Nat.reducePow, sequence]

theorem fromCharCode_toNat (code : BitVec 32) : (fromCharCode code).toNat = code.toNat % 2 ^ 16 := by
  change (code.setWidth 16).toNat = _
  rw [BitVec.toNat_setWidth]

/-- The decoder splits a large code point into its surrogates. -/
theorem surrogates (above : ¬codePoint < 0x10000) (bound : codePoint < 0x110000) :
    [fromCharCode (0xd800 + (BitVec.ofNat 32 codePoint - 0x10000).sshiftRight 10),
      fromCharCode (0xdc00 + ((BitVec.ofNat 32 codePoint - 0x10000) &&& 0x3ff))] =
    pointUnits codePoint := by
  have adjusted : (BitVec.ofNat 32 codePoint - 0x10000 : BitVec 32) =
      BitVec.ofNat 32 (codePoint - 0x10000) := by
    apply BitVec.eq_of_toNat_eq
    simp only [BitVec.toNat_sub, BitVec.toNat_ofNat, BitVec.reduceToNat]
    omega
  have positive : (BitVec.ofNat 32 (codePoint - 0x10000)).msb = false := by
    rw [BitVec.msb_eq_false_iff_two_mul_lt, BitVec.toNat_ofNat]
    omega
  have mask (value : Nat) : value &&& 0x3ff = value % 1024 := Nat.and_two_pow_sub_one_eq_mod value 10
  have first : fromCharCode ((0xd800 : BitVec 32) + BitVec.ofNat 32 (codePoint - 0x10000) >>> 10) =
      UInt16.ofNat (0xd800 + (codePoint - 0x10000) / 0x400) := by
    apply UInt16.toNat_inj.mp
    rw [fromCharCode_toNat, UInt16.toNat_ofNat', BitVec.toNat_add, BitVec.toNat_ushiftRight,
      BitVec.toNat_ofNat, Nat.shiftRight_eq_div_pow, show (0xd800 : BitVec 32).toNat = 0xd800 from rfl]
    omega
  have second : fromCharCode (0xdc00 + (BitVec.ofNat 32 (codePoint - 0x10000) &&& 0x3ff)) =
      UInt16.ofNat (0xdc00 + (codePoint - 0x10000) % 0x400) := by
    apply UInt16.toNat_inj.mp
    rw [fromCharCode_toNat, UInt16.toNat_ofNat', BitVec.toNat_add, BitVec.toNat_and,
      BitVec.toNat_ofNat, show (0xdc00 : BitVec 32).toNat = 0xdc00 from rfl,
      show (0x3ff : BitVec 32).toNat = 0x3ff from rfl, mask]
    omega
  rw [adjusted, BitVec.sshiftRight_eq_of_msb_false positive, pointUnits, if_neg above, first, second]

theorem decode_four (above : ¬codePoint < 0x10000) (bound : codePoint < 0x110000) :
    decodeFrom 0 (encodePoint codePoint ++ rest) = pointUnits codePoint ++ decodeFrom 0 rest := by
  have high : codePoint >>> 18 < 8 := by
    rw [Nat.shiftRight_eq_div_pow]
    omega
  have upper : codePoint >>> 12 &&& 0x3f < 64 := by
    rw [mask_six]
    omega
  have middle : codePoint >>> 6 &&& 0x3f < 64 := by
    rw [mask_six]
    omega
  have low : codePoint &&& 0x3f < 64 := by
    rw [mask_six]
    omega
  obtain ⟨notAscii, notTwo, notThree, four, lead⟩ := lead_four _ high
  have second := continuation_byte _ upper
  have third := continuation_byte _ middle
  have fourth := continuation_byte _ low
  have point : codePoint >>> 18 <<< 18 ||| (codePoint >>> 12 &&& 0x3f) <<< 12 |||
      (codePoint >>> 6 &&& 0x3f) <<< 6 ||| (codePoint &&& 0x3f) = codePoint := by
    have lower := join_bits (codePoint >>> 6 &&& 0x3f) (show codePoint &&& 0x3f < 2 ^ 6 from low)
    rw [Nat.or_assoc, Nat.or_assoc, lower, join_bits (codePoint >>> 12 &&& 0x3f) (by omega),
      join_bits _ (by omega)]
    simp only [mask_six, Nat.shiftRight_eq_div_pow]
    omega
  have sequence : decodeSequence ((0xf0 ||| codePoint >>> 18) % 256)
      (UInt8.ofNat (0x80 ||| (codePoint >>> 12 &&& 0x3f)) ::
        UInt8.ofNat (0x80 ||| (codePoint >>> 6 &&& 0x3f)) ::
        UInt8.ofNat (0x80 ||| (codePoint &&& 0x3f)) :: rest) = (pointUnits codePoint, 3) := by
    rw [decodeSequence, if_neg notAscii, if_neg notTwo, if_neg notThree, if_pos four, lead]
    simp only [byteAt, List.getElem?_cons_zero, List.getElem?_cons_succ, Option.getD_some,
      UInt8.toNat_ofNat', Nat.reducePow]
    rw [second, third, fourth, point, surrogates above bound]
  have notShort : ¬codePoint < 0x80 := by omega
  have notMiddle : ¬codePoint < 0x800 := by omega
  simp only [encodePoint, if_neg notShort, if_neg notMiddle, if_neg above, List.map_cons, List.map_nil,
    List.cons_append, List.nil_append, decodeFrom, UInt8.toNat_ofNat', Nat.reducePow, sequence]

/-- The decoder returns the units of an encoded code point. -/
theorem decodeFrom_encodePoint (bound : codePoint < 0x110000) :
    decodeFrom 0 (encodePoint codePoint ++ rest) = pointUnits codePoint ++ decodeFrom 0 rest := by
  by_cases large : codePoint < 0x10000
  · rw [pointUnits, if_pos large]
    by_cases one : codePoint < 0x80
    · exact decode_one rest one
    · by_cases two : codePoint < 0x800
      · exact decode_two rest one two
      · exact decode_three rest two large
  · exact decode_four rest large bound

end

theorem decodeFrom_unit (unit : UInt16) (rest : List UInt8) :
    decodeFrom 0 (encodePoint unit.toNat ++ rest) = unit :: decodeFrom 0 rest := by
  have bound := unit.toNat_lt
  rw [decodeFrom_encodePoint rest (by omega), pointUnits, if_pos (by omega), UInt16.ofNat_toNat]
  rfl

/-- A surrogate pair has the code point that splits into the pair. -/
theorem pointUnits_pair {unit next : UInt16} (paired : pairs unit next = true) :
    pointUnits (0x10000 + ((unit.toNat &&& 0x3ff) <<< 10) + (next.toNat &&& 0x3ff)) = [unit, next] := by
  have mask (value : Nat) : value &&& 0x3ff = value % 1024 := Nat.and_two_pow_sub_one_eq_mod value 10
  simp only [pairs, Bool.and_eq_true, decide_eq_true_eq, UInt16.le_iff_toNat_le, UInt16.reduceToNat]
    at paired
  obtain ⟨⟨⟨low, high⟩, nextLow⟩, nextHigh⟩ := paired
  generalize codePoint : 0x10000 + ((unit.toNat &&& 0x3ff) <<< 10) + (next.toNat &&& 0x3ff) = point
  rw [mask, mask, Nat.shiftLeft_eq] at codePoint
  have first : UInt16.ofNat (0xd800 + (point - 0x10000) / 0x400) = unit := by
    apply UInt16.toNat_inj.mp
    rw [UInt16.toNat_ofNat']
    omega
  have second : UInt16.ofNat (0xdc00 + (point - 0x10000) % 0x400) = next := by
    apply UInt16.toNat_inj.mp
    rw [UInt16.toNat_ofNat']
    omega
  rw [pointUnits, if_neg (by omega), first, second]

/-- Every string returns from its UTF-8 encoding, lone surrogates included. -/
theorem decode_encode (text : JsString) : decode (encode text) = text := by
  unfold decode
  fun_induction encode text with
  | case1 => rfl
  | case2 unit =>
      have step := decodeFrom_unit unit []
      rwa [List.append_nil] at step
  | case3 unit next rest paired ih =>
      have masked (value : Nat) : value &&& 0x3ff < 1024 :=
        Nat.and_lt_two_pow value (by decide : 0x3ff < 2 ^ 10)
      have first := masked unit.toNat
      have second := masked next.toNat
      rw [decodeFrom_encodePoint _ (by rw [Nat.shiftLeft_eq]; omega), pointUnits_pair paired, ih]
      rfl
  | case4 unit next rest notPaired ih => rw [decodeFrom_unit, ih]

end Utf8

namespace Base64

theorem indexOf_charAt : ∀ index < 64, indexOf (some (charAt index)) = some index := by
  decide +kernel

theorem charAt_ne_pad : ∀ index < 64, charAt index ≠ pad := by
  decide +kernel

theorem paddedIndexOf_charAt {index : Nat} (bound : index < 64) :
    paddedIndexOf (some (charAt index)) = some index := by
  have different := charAt_ne_pad index bound
  simp [paddedIndexOf, different, indexOf_charAt index bound]

section Sextets
variable (b0 b1 b2 : Nat)

/-- The first byte is in the first two sextets. -/
theorem first_byte {low : Nat} (bound : low < 16) :
    b0 >>> 2 <<< 2 ||| ((b0 &&& 0x03) <<< 4 ||| low) >>> 4 = b0 := by
  have mask : b0 &&& 0x03 = b0 % 4 := Nat.and_two_pow_sub_one_eq_mod b0 2
  have shifted : ((b0 &&& 0x03) <<< 4 ||| low) >>> 4 = b0 % 4 := by
    rw [join_bits _ bound, mask, Nat.shiftRight_eq_div_pow]
    omega
  rw [shifted, join_bits _ (by omega), Nat.shiftRight_eq_div_pow]
  omega

theorem second_byte {high low : Nat} (byte : b1 < 256) (bound : low < 4) :
    (((high <<< 4 ||| b1 >>> 4) &&& 0x0f) <<< 4 ||| ((b1 &&& 0x0f) <<< 2 ||| low) >>> 2) = b1 := by
  have mask (value : Nat) : value &&& 0x0f = value % 16 := Nat.and_two_pow_sub_one_eq_mod value 4
  have top : b1 >>> 4 < 16 := by
    rw [Nat.shiftRight_eq_div_pow]
    omega
  have shifted : ((b1 &&& 0x0f) <<< 2 ||| low) >>> 2 = b1 % 16 := by
    rw [join_bits _ bound, mask, Nat.shiftRight_eq_div_pow]
    omega
  have masked : (high <<< 4 ||| b1 >>> 4) &&& 0x0f = b1 / 16 := by
    rw [join_bits _ top, mask, Nat.shiftRight_eq_div_pow]
    omega
  rw [shifted, masked, join_bits _ (by omega)]
  omega

theorem third_byte {high : Nat} (byte : b2 < 256) :
    ((high <<< 2 ||| b2 >>> 6) &&& 0x03) <<< 6 ||| (b2 &&& 0x3f) = b2 := by
  have mask (value : Nat) : value &&& 0x03 = value % 4 := Nat.and_two_pow_sub_one_eq_mod value 2
  have low : b2 &&& 0x3f = b2 % 64 := Nat.and_two_pow_sub_one_eq_mod b2 6
  have top : b2 >>> 6 < 4 := by
    rw [Nat.shiftRight_eq_div_pow]
    omega
  have masked : (high <<< 2 ||| b2 >>> 6) &&& 0x03 = b2 / 64 := by
    rw [join_bits _ top, mask, Nat.shiftRight_eq_div_pow]
    omega
  rw [masked, low, join_bits _ (by omega)]
  omega

end Sextets

section Blocks
variable (i : Nat) (b0 b1 b2 : UInt8)

theorem charAt_shifted {high low shift : Nat} (bound : low < 2 ^ shift)
    (room : high * 2 ^ shift + low < 64) : high <<< shift ||| low < 64 := by
  rwa [join_bits _ bound]

theorem mask_two (value : Nat) : value &&& 0x03 < 4 :=
  Nat.and_lt_two_pow value (by decide : 0x03 < 2 ^ 2)

theorem mask_four (value : Nat) : value &&& 0x0f < 16 :=
  Nat.and_lt_two_pow value (by decide : 0x0f < 2 ^ 4)

theorem shifted_lt (byte : UInt8) (shift : Nat) {bound : Nat} (room : 256 ≤ bound * 2 ^ shift) :
    byte.toNat >>> shift < bound := by
  have small := byte.toNat_lt
  rw [Nat.shiftRight_eq_div_pow]
  apply Nat.div_lt_of_lt_mul
  rw [Nat.mul_comm]
  omega

/-- The sextets of a block are below 64. -/
theorem sextet_zero : b0.toNat >>> 2 < 64 := shifted_lt b0 2 (by decide)

theorem sextet_one : (b0.toNat &&& 0x03) <<< 4 ||| b1.toNat >>> 4 < 64 := by
  have high := mask_two b0.toNat
  have low : b1.toNat >>> 4 < 16 := shifted_lt b1 4 (by decide)
  exact charAt_shifted low (by omega)

theorem sextet_two : (b1.toNat &&& 0x0f) <<< 2 ||| b2.toNat >>> 6 < 64 := by
  have high := mask_four b1.toNat
  have low : b2.toNat >>> 6 < 4 := shifted_lt b2 6 (by decide)
  exact charAt_shifted low (by omega)

theorem sextet_three : b2.toNat &&& 0x3f < 64 := Nat.and_lt_two_pow _ (by decide : 0x3f < 2 ^ 6)

/-- A full block returns its three bytes. -/
theorem decodeBlock_three :
    decodeBlock i (some (charAt (b0.toNat >>> 2)))
      (some (charAt ((b0.toNat &&& 0x03) <<< 4 ||| b1.toNat >>> 4)))
      (some (charAt ((b1.toNat &&& 0x0f) <<< 2 ||| b2.toNat >>> 6)))
      (some (charAt (b2.toNat &&& 0x3f))) = .ok [b0, b1, b2] := by
  have third := charAt_ne_pad _ (sextet_two b1 b2)
  have fourth := charAt_ne_pad _ (sextet_three b2)
  simp only [decodeBlock, indexOf_charAt _ (sextet_zero b0), indexOf_charAt _ (sextet_one b0 b1),
    paddedIndexOf_charAt (sextet_two b1 b2), paddedIndexOf_charAt (sextet_three b2), Option.some.injEq,
    ne_eq, third, fourth, not_false_eq_true, if_true]
  rw [first_byte b0.toNat (shifted_lt b1 4 (by decide)),
    second_byte b1.toNat b1.toNat_lt (shifted_lt b2 6 (by decide)), third_byte b2.toNat b2.toNat_lt]
  simp

/-- A block with one padding character returns two bytes. -/
theorem decodeBlock_two :
    decodeBlock i (some (charAt (b0.toNat >>> 2)))
      (some (charAt ((b0.toNat &&& 0x03) <<< 4 ||| b1.toNat >>> 4)))
      (some (charAt ((b1.toNat &&& 0x0f) <<< 2 ||| (0 : UInt8).toNat >>> 6))) (some pad) =
        .ok [b0, b1] := by
  have third := charAt_ne_pad _ (sextet_two b1 0)
  simp only [decodeBlock, indexOf_charAt _ (sextet_zero b0), indexOf_charAt _ (sextet_one b0 b1),
    paddedIndexOf_charAt (sextet_two b1 0), show paddedIndexOf (some pad) = some 0 from rfl,
    Option.some.injEq, ne_eq, third, not_false_eq_true, if_true, not_true_eq_false, if_false]
  rw [first_byte b0.toNat (shifted_lt b1 4 (by decide)),
    second_byte b1.toNat b1.toNat_lt (shifted_lt 0 6 (by decide))]
  simp

/-- A block with two padding characters returns one byte. -/
theorem decodeBlock_one :
    decodeBlock i (some (charAt (b0.toNat >>> 2)))
      (some (charAt ((b0.toNat &&& 0x03) <<< 4 ||| (0 : UInt8).toNat >>> 4))) (some pad) (some pad) =
        .ok [b0] := by
  simp only [decodeBlock, indexOf_charAt _ (sextet_zero b0), indexOf_charAt _ (sextet_one b0 0),
    show paddedIndexOf (some pad) = some 0 from rfl, ne_eq, not_true_eq_false, if_false]
  rw [first_byte b0.toNat (shifted_lt 0 4 (by decide))]
  simp

end Blocks

/-- The loop decodes one block and continues with the rest. -/
theorem decodeFrom_block {i : Nat} {u0 u1 u2 u3 : UInt16} {text : JsString} {bytes later : List UInt8}
    (block : decodeBlock i (some u0) (some u1) (some u2) (some u3) = .ok bytes)
    (rest : decodeFrom (i + 4) text = .ok later) :
    decodeFrom i (u0 :: u1 :: u2 :: u3 :: text) = .ok (bytes ++ later) := by
  rw [decodeFrom, block, rest]
  rfl

theorem decodeFrom_encode (i : Nat) (bytes : List UInt8) : decodeFrom i (encode bytes) = .ok bytes := by
  fun_induction encode bytes generalizing i with
  | case1 => rfl
  | case2 b0 => exact decodeFrom_block (decodeBlock_one i b0) rfl
  | case3 b0 b1 => exact decodeFrom_block (decodeBlock_two i b0 b1) rfl
  | case4 b0 b1 b2 rest ih => exact decodeFrom_block (decodeBlock_three i b0 b1 b2) (ih (i + 4))

/-- Every byte list returns from its base64 text. -/
theorem decode_encode (bytes : List UInt8) : decode (encode bytes) = .ok bytes :=
  decodeFrom_encode 0 bytes

end Base64
end Barton.Tlv
