import BartonCore.Construction.Tlv.Reader

namespace Barton.Tlv
open Parsing
open Rounding (toDoubleInt toDoubleInt_eq toDoubleInt_nonneg)

theorem reads_readByte (byte : UInt8) : Reads readByte [byte] byte := by
  intro reader rest _ starts
  rw [readByte, Cursor.getElem?_offset starts]
  rfl

theorem reads_readBytes (content : List UInt8) : Reads (readBytes content.length) content content := by
  intro reader rest inside starts
  have fits := Cursor.advance_inside inside starts
  change reader.offset + content.length ≤ reader.tokens.length at fits
  rw [readBytes, if_neg (by omega), starts, List.take_left]

section Words
variable (bits : BitVec 32)

/-- The signed shift does not reach the lower bytes. -/
theorem shiftedByte_eq {i : Nat} (bound : i < 4) : shiftedByte bits i = ⟨bits.extractLsb' (i * 8) 8⟩ := by
  unfold shiftedByte
  congr 1
  apply BitVec.eq_of_getLsbD_eq
  intro j small
  have mask : (0xff : BitVec 32).getLsbD j = true := by
    revert j
    decide
  have inside : i * 8 + j < 32 := by omega
  rw [BitVec.getLsbD_setWidth, BitVec.getLsbD_and, BitVec.getLsbD_sshiftRight,
    BitVec.getLsbD_extractLsb', mask, if_pos inside]
  simp [small, show ¬32 ≤ j by omega]

/-- These are the low bytes of a number. -/
theorem shiftedByte_ofInt (value : ℤ) {i : Nat} (bound : i < 4) :
    shiftedByte (BitVec.ofInt 32 value) i = UInt8.ofInt (value / 256 ^ i) := by
  rw [shiftedByte_eq _ bound]
  apply UInt8.toNat_inj.mp
  have word : (BitVec.ofInt 32 value).toNat = (value % 4294967296).toNat := BitVec.toNat_ofInt _
  change ((BitVec.ofInt 32 value).extractLsb' (i * 8) 8).toNat = (UInt8.ofNat (value / 256 ^ i % 256).toNat).toNat
  rw [BitVec.extractLsb'_toNat, word, UInt8.toNat_ofNat', Nat.shiftRight_eq_div_pow]
  interval_cases i <;> omega

/-- The next byte extends the joined bytes. -/
theorem join_byte (k : Nat) :
    (bits.setWidth (8 * k)).setWidth 32 ||| (bits.extractLsb' (k * 8) 8).setWidth 32 <<< (k * 8) =
      (bits.setWidth (8 * (k + 1))).setWidth 32 := by
  apply BitVec.eq_of_getLsbD_eq
  intro j small
  simp
  grind

theorem reads_readShifted (k count : Nat) (bound : k + count ≤ 4) :
    Reads (readShifted ((bits.setWidth (8 * k)).setWidth 32) k count)
      ((List.range' k count).map (shiftedByte bits)) ((bits.setWidth (8 * (k + count))).setWidth 32) := by
  induction count generalizing k with
  | zero => exact Reads.pure _
  | succ count ih =>
      have next := ih (k + 1) (by omega)
      rw [← join_byte, show k + 1 + count = k + (count + 1) by omega] at next
      have byte := reads_readByte (shiftedByte bits k)
      rw [List.range'_succ, List.map_cons, ← List.singleton_append]
      apply byte.bind
      rw [shiftedByte_eq bits (by omega)]
      exact next

/-- At most four bytes return the low bits as an unsigned number. -/
theorem reads_readWord {size : Nat} (bound : size ≤ 4) :
    Reads (readWord size) ((List.range size).map (shiftedByte bits))
      ((bits.toNat % 2 ^ (8 * size) : Nat) : ℤ) := by
  have joined := reads_readShifted bits 0 size (by omega)
  rw [Nat.zero_add] at joined
  have start : (bits.setWidth (8 * 0)).setWidth 32 = (0 : BitVec 32) := by
    apply BitVec.eq_of_toNat_eq
    rw [BitVec.toNat_setWidth, BitVec.toNat_setWidth, Nat.mul_zero, Nat.pow_zero, Nat.mod_one]
    rfl
  rw [start, ← List.range_eq_range'] at joined
  have natural : ((bits.setWidth (8 * size)).setWidth 32).toNat = bits.toNat % 2 ^ (8 * size) := by
    rw [BitVec.toNat_setWidth, BitVec.toNat_setWidth]
    apply Nat.mod_eq_of_lt
    exact Nat.lt_of_le_of_lt (Nat.mod_le _ _) bits.isLt
  have value := joined.map fun value : BitVec 32 =>
    if size = 4 ∧ value.toInt < 0 then (value.toNat : ℤ) else value.toInt
  have unsigned : (if size = 4 ∧ ((bits.setWidth (8 * size)).setWidth 32).toInt < 0 then
        (((bits.setWidth (8 * size)).setWidth 32).toNat : ℤ)
      else ((bits.setWidth (8 * size)).setWidth 32).toInt) = ((bits.toNat % 2 ^ (8 * size) : Nat) : ℤ) := by
    rw [BitVec.toInt_eq_toNat_cond, natural]
    interval_cases size <;> omega
  rw [unsigned] at value
  exact value

end Words

section Integers
variable (value : ℤ)

/-- A number of at most four bytes returns modulo its width. -/
theorem reads_readUint {size : Nat} (bound : size ≤ 4) :
    Reads (readUint size) (writeUint (.finite value) size) (value % 2 ^ (8 * size)) := by
  have word := reads_readWord (BitVec.ofInt 32 value) bound
  have result : (((BitVec.ofInt 32 value).toNat % 2 ^ (8 * size) : Nat) : ℤ) = value % 2 ^ (8 * size) := by
    rw [BitVec.toNat_ofInt]
    interval_cases size <;> omega
  rw [result] at word
  rw [readUint, if_pos bound, writeUint, if_pos bound]
  exact word

/-- Each byte that is joined adds eight bits. -/
theorem readShifted_lt {start result : BitVec 32} {i count : Nat} (small : start.toNat < 2 ^ (8 * i))
    {reader after : TlvReader} (read : readShifted start i count reader = .ok (result, after)) :
    result.toNat < 2 ^ (8 * (i + count)) := by
  induction count generalizing start i reader with
  | zero =>
      cases read
      exact small
  | succ count ih =>
      obtain ⟨⟨byte, later⟩, -, next⟩ := ok_of_bind read
      have shifted : (byte.toBitVec.setWidth 32 <<< (i * 8)).toNat < 2 ^ (8 * (i + 1)) := by
        have narrow : byte.toBitVec.toNat % 2 ^ 32 < 2 ^ 8 := (Nat.mod_le _ _).trans_lt byte.toBitVec.isLt
        have exponent : 8 * (i + 1) = 8 + i * 8 := by omega
        rw [BitVec.toNat_shiftLeft, BitVec.toNat_setWidth, Nat.shiftLeft_eq, exponent, Nat.pow_add]
        exact (Nat.mod_le _ _).trans_lt (Nat.mul_lt_mul_of_pos_right narrow (Nat.two_pow_pos (i * 8)))
      have widened : start.toNat < 2 ^ (8 * (i + 1)) := small.trans_le (Nat.pow_le_pow_right two_pos (by omega))
      have joined := Nat.or_lt_two_pow widened shifted
      rw [← BitVec.toNat_or] at joined
      have bound := ih joined next
      rwa [Nat.add_right_comm] at bound

/-- A number of at most four bytes has no sign. -/
theorem readUint_nonneg {size : Nat} (bound : size ≤ 4) {reader after : TlvReader} {result : ℤ}
    (read : readUint size reader = .ok (result, after)) : 0 ≤ result := by
  rw [readUint, if_pos bound] at read
  obtain ⟨⟨joined, later⟩, shifted, done⟩ := ok_of_bind read
  have start : (0 : BitVec 32).toNat < 2 ^ (8 * 0) := by decide
  have small := readShifted_lt start shifted
  cases done
  split
  · exact Int.natCast_nonneg _
  · rename_i other
    rw [BitVec.toInt_eq_toNat_cond] at other ⊢
    interval_cases size <;> omega

/-- A length of several bytes is the number that is read. -/
theorem readUint_of_readLength {sizeIndicator length : Nat} (several : sizeIndicator = 1 ∨ sizeIndicator = 2)
    {reader after : TlvReader} (read : readLength sizeIndicator reader = .ok (length, after)) :
    readUint (2 * sizeIndicator) reader = .ok ((length : ℤ), after) := by
  rcases several with rfl | rfl <;>
  · obtain ⟨⟨result, later⟩, number, done⟩ := ok_of_bind read
    cases done
    rw [Int.toNat_of_nonneg (readUint_nonneg (by decide) number)]
    exact number

theorem toNat_low : ((halves (.finite value)).1.toNat : ℤ) = value % 2 ^ 32 := by
  change ((BitVec.ofInt 32 (value - value / 4294967296 * 4294967296)).toNat : ℤ) = _
  rw [BitVec.toNat_ofInt]
  omega

theorem toNat_high : ((halves (.finite value)).2.toNat : ℤ) = value / 2 ^ 32 % 2 ^ 32 := by
  change ((BitVec.ofInt 32 (value / 4294967296)).toNat : ℤ) = _
  rw [BitVec.toNat_ofInt]
  omega

theorem reads_half (bits : BitVec 32) :
    Reads (readWord 4) ((List.range 4).map (shiftedByte bits)) (bits.toNat : ℤ) := by
  have word := reads_readWord bits (Nat.le_refl 4)
  rwa [Nat.mod_eq_of_lt bits.isLt] at word

/-- A number of eight bytes returns modulo 2^64, rounded. -/
theorem reads_readUint_wide : Reads (readUint 8) (writeUint (.finite value) 8) (toDoubleInt (value % 2 ^ 64)) := by
  have low := reads_half (halves (.finite value)).1
  have high := reads_half (halves (.finite value)).2
  rw [toNat_low] at low
  rw [toNat_high] at high
  rw [readUint, if_neg (by decide), writeUint, if_neg (by decide)]
  apply low.bind
  have joined := high.map fun high => toDoubleInt (high * 4294967296 + value % 2 ^ 32)
  rw [show value / 2 ^ 32 % 2 ^ 32 * 4294967296 + value % 2 ^ 32 = value % 2 ^ 64 by omega] at joined
  exact joined

/-- A signed number inside its width returns unchanged. -/
theorem reads_readInt {size : Nat} (positive : 0 < size) (bound : size ≤ 4)
    (above : -2 ^ (size * 8 - 1) ≤ value) (below : value < 2 ^ (size * 8 - 1)) :
    Reads (readInt size) (writeUint (.finite value) size) value := by
  have unsigned := (reads_readUint value bound).map fun unsigned =>
    if 2 ^ (size * 8 - 1) ≤ unsigned then unsigned - 2 ^ (size * 8) else unsigned
  have extended : (if 2 ^ (size * 8 - 1) ≤ value % 2 ^ (8 * size) then
      value % 2 ^ (8 * size) - 2 ^ (size * 8) else value % 2 ^ (8 * size)) = value := by
    interval_cases size <;> omega
  rw [extended] at unsigned
  rw [readInt, if_pos bound]
  exact unsigned

theorem reads_readInt_wide (above : -2 ^ 53 < value) (below : value < 2 ^ 53) :
    Reads (readInt 8) (writeUint (.finite value) 8) value := by
  have low := reads_half (halves (.finite value)).1
  have high := reads_half (halves (.finite value)).2
  rw [toNat_low] at low
  rw [toNat_high] at high
  rw [readInt, if_neg (by decide), writeUint, if_neg (by decide)]
  apply low.bind
  have joined := high.map fun high =>
    toDoubleInt ((BitVec.ofInt 32 high).toInt * 4294967296 + value % 2 ^ 32)
  have signedHigh : (BitVec.ofInt 32 (value / 2 ^ 32 % 2 ^ 32)).toInt = value / 2 ^ 32 := by
    rw [BitVec.toInt_ofInt, Int.bmod_def]
    omega
  rw [signedHigh, show value / 2 ^ 32 * 4294967296 + value % 2 ^ 32 = value by omega,
    toDoubleInt_eq above below] at joined
  exact joined

end Integers
end Barton.Tlv
