/-
This file contains numbers as bytes with the least significant byte first.
-/

import Mathlib.Data.Nat.Digits.Lemmas
import Mathlib.Tactic

namespace Barton.LittleEndian

/-- The low bytes of a number. -/
def encode : (width : Nat) → Nat → List UInt8
  | 0, _ => []
  | width + 1, number => UInt8.ofNat number :: encode width (number / 256)

/-- The number that bytes denote. -/
def decode (bytes : List UInt8) : Nat := Nat.ofDigits 256 (bytes.map UInt8.toNat)

@[simp] theorem encode_length (width number : Nat) : (encode width number).length = width := by
  induction width generalizing number with
  | zero => rfl
  | succ width ih => rw [encode, List.length_cons, ih]

theorem decode_cons (byte : UInt8) (bytes : List UInt8) : decode (byte :: bytes) = byte.toNat + 256 * decode bytes := by
  rw [decode, List.map_cons, Nat.ofDigits_cons]
  rfl

theorem decode_encode (width number : Nat) : decode (encode width number) = number % 256 ^ width := by
  induction width generalizing number with
  | zero => rw [Nat.pow_zero, Nat.mod_one]; rfl
  | succ width ih =>
      rw [encode, decode_cons, ih, Nat.pow_succ', Nat.mod_mul, UInt8.toNat_ofNat']

theorem encode_decode (bytes : List UInt8) : encode bytes.length (decode bytes) = bytes := by
  induction bytes with
  | nil => rfl
  | cons byte bytes ih =>
      have low : UInt8.ofNat (byte.toNat + 256 * decode bytes) = byte := by
        rw [← UInt8.toNat_inj, UInt8.toNat_ofNat', Nat.add_mul_mod_self_left, Nat.mod_eq_of_lt byte.toNat_lt]
      have high : (byte.toNat + 256 * decode bytes) / 256 = decode bytes := by
        rw [Nat.add_mul_div_left _ _ (by decide), Nat.div_eq_of_lt byte.toNat_lt, Nat.zero_add]
      rw [decode_cons, List.length_cons, encode, low, high, ih]

theorem decode_lt (bytes : List UInt8) : decode bytes < 256 ^ bytes.length := by
  have bounded := Nat.ofDigits_lt_base_pow_length (b := 256) (l := bytes.map UInt8.toNat) (by decide) (by
    intro digit member
    obtain ⟨byte, _, rfl⟩ := List.mem_map.mp member
    exact byte.toNat_lt)
  rwa [List.length_map] at bounded

end Barton.LittleEndian
