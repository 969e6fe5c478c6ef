import Mathlib

namespace Barton.Doubles
open Float.Model (UnpackedFloat)

section Ranks

/-- The numbers are ordered by their classes, then by their exponents and mantissas. -/
def rank : UnpackedFloat → Option (ℤ ×ₗ ℤ ×ₗ ℤ)
  | .notANumber => none
  | .infinity .negative => some (toLex (-2, toLex (0, 0)))
  | .finite .negative mantissa exponent _ => some (toLex (-1, toLex (-exponent, -(mantissa : ℤ))))
  | .zero _ => some (toLex (0, toLex (0, 0)))
  | .finite .positive mantissa exponent _ => some (toLex (1, toLex (exponent, (mantissa : ℤ))))
  | .infinity .positive => some (toLex (2, toLex (0, 0)))

theorem compare_cast (first second : Nat) : compare (first : ℤ) (second : ℤ) = compare first second := by
  rcases lt_trichotomy first second with below | rfl | above
  · rw [compare_lt_iff_lt.mpr below, compare_lt_iff_lt.mpr (by exact_mod_cast below)]
  · rw [compare_eq_iff_eq.mpr rfl, compare_eq_iff_eq.mpr rfl]
  · rw [compare_gt_iff_gt.mpr above, compare_gt_iff_gt.mpr (by exact_mod_cast above)]

theorem compare_negated (first second : ℤ) : compare (-first) (-second) = (compare first second).swap := by
  rcases lt_trichotomy first second with below | rfl | above
  · rw [compare_lt_iff_lt.mpr below, compare_gt_iff_gt.mpr (neg_lt_neg below)]
    rfl
  · rw [compare_eq_iff_eq.mpr rfl, compare_eq_iff_eq.mpr rfl]
    rfl
  · rw [compare_gt_iff_gt.mpr above, compare_lt_iff_lt.mpr (neg_lt_neg above)]
    rfl

/-- The comparison of two floats is the comparison of their ranks. -/
theorem compare_rank (left right : UnpackedFloat) : left.compare right =
    (rank left).bind fun first => (rank right).map fun second => compare first second := by
  rcases left with sign | _ | sign | ⟨sign, mantissa, exponent, positive⟩ <;>
    rcases right with sign' | _ | sign' | ⟨sign', mantissa', exponent', positive'⟩ <;>
    (try cases sign) <;> (try cases sign') <;> try rfl
  case finite.finite.negative.negative =>
    change some ((compare exponent exponent').then (compare mantissa mantissa')).swap =
      some ((compare (-exponent) (-exponent')).then (compare (-(mantissa : ℤ)) (-(mantissa' : ℤ))))
    rw [compare_negated, compare_negated, compare_cast, Ordering.swap_then]
  case finite.finite.positive.positive =>
    change some ((compare exponent exponent').then (compare mantissa mantissa')) =
      some ((compare exponent exponent').then (compare (mantissa : ℤ) (mantissa' : ℤ)))
    rw [compare_cast]

end Ranks

section Order
variable {first second third : Float}

/-- A number has a rank. -/
def key (value : Float) : Option (ℤ ×ₗ ℤ ×ₗ ℤ) := rank value.toModel.unpack

theorem isNaN_iff : first.isNaN = true ↔ key first = none := by
  change (first.toModel.unpack).isNaN = true ↔ rank first.toModel.unpack = none
  rcases first.toModel.unpack with sign | _ | sign | ⟨sign, mantissa, exponent, positive⟩ <;>
    (try cases sign) <;> simp [UnpackedFloat.isNaN, rank]

theorem le_iff : first ≤ second ↔ ∃ left ∈ key first, ∃ right ∈ key second, left ≤ right := by
  change decide (first.toModel.unpack.le second.toModel.unpack = true) = true ↔ _
  rw [decide_eq_true_iff]
  unfold UnpackedFloat.le
  rw [compare_rank]
  change _ ↔ ∃ left ∈ rank first.toModel.unpack, ∃ right ∈ rank second.toModel.unpack, left ≤ right
  cases rank first.toModel.unpack <;> cases rank second.toModel.unpack <;>
    simp [← compare_le_iff_le, Ordering.isLE_iff_ne_gt]

theorem lt_iff : first < second ↔ ∃ left ∈ key first, ∃ right ∈ key second, left < right := by
  change decide (first.toModel.unpack.lt second.toModel.unpack = true) = true ↔ _
  rw [decide_eq_true_iff]
  unfold UnpackedFloat.lt
  rw [compare_rank]
  change _ ↔ ∃ left ∈ rank first.toModel.unpack, ∃ right ∈ rank second.toModel.unpack, left < right
  cases rank first.toModel.unpack <;> cases rank second.toModel.unpack <;> simp [← compare_lt_iff_lt]

theorem exists_key (number : first.isNaN = false) : ∃ left, key first = some left := by
  refine Option.ne_none_iff_exists'.mp ?_
  rw [Ne, ← isNaN_iff, number]
  exact Bool.false_ne_true

theorem le_refl (number : first.isNaN = false) : first ≤ first := by
  obtain ⟨left, same⟩ := exists_key number
  exact le_iff.mpr ⟨left, same, left, same, le_rfl⟩

theorem le_trans (before : first ≤ second) (after : second ≤ third) : first ≤ third := by
  obtain ⟨left, first, middle, second, below⟩ := le_iff.mp before
  obtain ⟨other, same, right, third, above⟩ := le_iff.mp after
  rw [Option.mem_def] at second same
  rw [second, Option.some.injEq] at same
  subst same
  exact le_iff.mpr ⟨left, first, right, third, below.trans above⟩

theorem le_of_lt (before : first < second) : first ≤ second := by
  obtain ⟨left, first, right, second, below⟩ := lt_iff.mp before
  exact le_iff.mpr ⟨left, first, right, second, below.le⟩

/-- Two numbers are ordered one way or the other. -/
theorem le_of_not_lt (number : first.isNaN = false) (other : second.isNaN = false) (before : ¬second < first) :
    first ≤ second := by
  obtain ⟨left, same⟩ := exists_key number
  obtain ⟨right, equal⟩ := exists_key other
  refine le_iff.mpr ⟨left, same, right, equal, ?_⟩
  by_contra above
  exact before (lt_iff.mpr ⟨right, equal, left, same, not_le.mp above⟩)

end Order
end Barton.Doubles
