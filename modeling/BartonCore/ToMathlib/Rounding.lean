import Mathlib.Tactic

namespace Barton.Rounding

/-- A `double` keeps the 53 leading bits of an integer and rounds half to even. -/
def toDouble (value : Nat) : Nat :=
  let shift := value.log2 - 52
  let kept := value >>> shift
  let dropped := value % 2 ^ shift
  if value < 2 ^ 53 then value
  else if 2 ^ shift < 2 * dropped ∨ (2 * dropped = 2 ^ shift ∧ kept % 2 = 1) then
    (kept + 1) <<< shift
  else kept <<< shift

/-- The rounding of an integer is symmetric around zero. -/
def toDoubleInt : ℤ → ℤ
  | .ofNat value => toDouble value
  | .negSucc value => -(toDouble (value + 1) : ℤ)

theorem toDouble_eq {value : Nat} (small : value < 2 ^ 53) : toDouble value = value := by
  unfold toDouble
  rw [if_pos small]

/-- An integer from 2^53 on stays there. -/
theorem le_toDouble {value : Nat} (large : 2 ^ 53 ≤ value) : 2 ^ 53 ≤ toDouble value := by
  have nonzero : value ≠ 0 := by omega
  have log : 53 ≤ value.log2 := (Nat.le_log2 nonzero).mpr large
  have kept : 2 ^ 53 ≤ (value >>> (value.log2 - 52)) <<< (value.log2 - 52) := by
    rw [Nat.shiftRight_eq_div_pow, Nat.shiftLeft_eq]
    have leading : 2 ^ 52 ≤ value / 2 ^ (value.log2 - 52) := by
      rw [Nat.le_div_iff_mul_le (Nat.two_pow_pos _), ← Nat.pow_add, Nat.add_sub_cancel' (by omega)]
      exact Nat.log2_self_le nonzero
    have shift : 2 ^ 1 ≤ 2 ^ (value.log2 - 52) := Nat.pow_le_pow_right (by decide) (by omega)
    calc 2 ^ 53 = 2 ^ 52 * 2 ^ 1 := by decide
      _ ≤ _ := Nat.mul_le_mul leading shift
  unfold toDouble
  dsimp only
  rw [if_neg (by omega)]
  split
  · refine kept.trans ?_
    rw [Nat.shiftLeft_eq, Nat.shiftLeft_eq]
    exact Nat.mul_le_mul_right _ (Nat.le_succ _)
  · exact kept

/-- An integer below 2^53 in magnitude is a `double`. -/
theorem toDoubleInt_eq {value : ℤ} (above : -2 ^ 53 < value) (below : value < 2 ^ 53) :
    toDoubleInt value = value := by
  cases value with
  | ofNat value =>
      have small : value < 2 ^ 53 := by
        change (value : ℤ) < 2 ^ 53 at below
        omega
      change (toDouble value : ℤ) = value
      rw [toDouble_eq small]
  | negSucc value =>
      have small : value + 1 < 2 ^ 53 := by omega
      change -(toDouble (value + 1) : ℤ) = Int.negSucc value
      rw [toDouble_eq small]
      omega

theorem toDoubleInt_nonneg {value : ℤ} (nonnegative : 0 ≤ value) : 0 ≤ toDoubleInt value := by
  obtain ⟨natural, rfl⟩ := Int.eq_ofNat_of_zero_le nonnegative
  change (0 : ℤ) ≤ (toDouble natural : ℤ)
  exact Int.natCast_nonneg _

end Barton.Rounding
