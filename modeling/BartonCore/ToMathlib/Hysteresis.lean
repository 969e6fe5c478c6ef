/-
This file contains a level that follows samples with a margin in each direction.
-/

import Mathlib.Algebra.Order.Group.Defs
import Mathlib.Algebra.Order.Group.Unbundled.Basic
import Mathlib.Data.List.Destutter
import Mathlib.Order.Interval.Set.UnorderedInterval
import Mathlib.Tactic

namespace Barton.Hysteresis

section Settle
variable {Sample Level : Type} [AddCommGroup Sample] [LinearOrder Sample] [LinearOrder Level]

/-- A sample must pass a margin before the level moves to its side. -/
structure Margins (Sample Level : Type) [AddCommGroup Sample] [LinearOrder Sample] [LinearOrder Level] where
  level : Sample → Level
  monotone : Monotone level
  above : Sample
  above_nonneg : 0 ≤ above
  below : Sample
  below_nonneg : 0 ≤ below

variable (margins : Margins Sample Level)

def Margins.settle (previous : Level) (sample : Sample) : Level :=
  if margins.level sample < previous then margins.level (sample + margins.below)
  else if previous < margins.level sample then margins.level (sample - margins.above)
  else margins.level sample

/-- A sample that has not reached the level does not pass it with the margin. -/
structure Margins.Narrow (previous : Level) : Prop where
  below : ∀ sample, margins.level sample < previous → margins.level (sample + margins.below) ≤ previous
  above : ∀ sample, previous < margins.level sample → previous ≤ margins.level (sample - margins.above)

variable {previous : Level} {sample low high : Sample}

theorem Margins.settle_of_lt (lower : margins.level sample < previous) :
    margins.settle previous sample = margins.level (sample + margins.below) := if_pos lower

theorem Margins.settle_of_gt (higher : previous < margins.level sample) :
    margins.settle previous sample = margins.level (sample - margins.above) := by
  rw [settle, if_neg higher.asymm, if_pos higher]

theorem Margins.settle_of_eq (same : margins.level sample = previous) : margins.settle previous sample = previous := by
  rw [settle, if_neg same.not_lt, if_neg same.symm.not_lt, same]

variable {margins} [IsOrderedAddMonoid Sample]

/-- The level settles between the previous one and the level of the sample. -/
theorem Margins.settle_mem_uIcc (narrow : margins.Narrow previous) (sample : Sample) :
    margins.settle previous sample ∈ Set.uIcc previous (margins.level sample) := by
  rcases lt_trichotomy (margins.level sample) previous with lower | same | higher
  · rw [margins.settle_of_lt lower, Set.uIcc_of_ge lower.le]
    exact ⟨margins.monotone (le_add_of_nonneg_right margins.below_nonneg), narrow.below sample lower⟩
  · rw [margins.settle_of_eq same]
    exact Set.left_mem_uIcc
  · rw [margins.settle_of_gt higher, Set.uIcc_of_le higher.le]
    exact ⟨narrow.above sample higher, margins.monotone (sub_le_self sample margins.above_nonneg)⟩

/-- A better sample does not settle at a worse level. -/
theorem Margins.settle_monotone (narrow : margins.Narrow previous) : Monotone (margins.settle previous) := by
  intro low high ordered
  have levels := margins.monotone ordered
  rcases lt_trichotomy (margins.level high) previous with lower | same | higher
  · rw [margins.settle_of_lt lower, margins.settle_of_lt (levels.trans_lt lower)]
    exact margins.monotone (add_le_add_left ordered _)
  · have upper := margins.settle_mem_uIcc narrow low
    rw [Set.uIcc_of_ge (same ▸ levels)] at upper
    rw [margins.settle_of_eq same]
    exact upper.2
  · rcases lt_or_ge previous (margins.level low) with above | below
    · rw [margins.settle_of_gt higher, margins.settle_of_gt above]
      exact margins.monotone (sub_le_sub_right ordered _)
    · have upper := margins.settle_mem_uIcc narrow low
      have lower := margins.settle_mem_uIcc narrow high
      rw [Set.uIcc_of_ge below] at upper
      rw [Set.uIcc_of_le higher.le] at lower
      exact upper.2.trans lower.1

end Settle

section Changes
variable {Level : Type} [DecidableEq Level] {step : Level → Level → Prop} {final level : Level} {levels : List Level}

theorem destutter_final (stays : ∀ next, step final next → next = final) (chain : (final :: levels).IsChain step) :
    levels.destutter' (· ≠ ·) final = [final] := by
  induction levels with
  | nil => rfl
  | cons next levels ih =>
      obtain ⟨stepped, rest⟩ := List.isChain_cons_cons.mp chain
      rw [stays next stepped] at rest ⊢
      rw [List.destutter'_cons_neg _ (not_not.mpr rfl), ih rest]

/-- A level that only moves to a final level changes at most once. -/
theorem length_destutter_le_two (final : Level) (stays : ∀ next, step final next → next = final)
    (moves : ∀ level next, step level next → next = level ∨ next = final) (chain : (level :: levels).IsChain step) :
    (levels.destutter' (· ≠ ·) level).length ≤ 2 := by
  induction levels with
  | nil => exact Nat.le_succ 1
  | cons next levels ih =>
      obtain ⟨stepped, rest⟩ := List.isChain_cons_cons.mp chain
      by_cases same : level = next
      · rw [List.destutter'_cons_neg _ (not_not.mpr same)]
        exact ih (same ▸ rest)
      · have reached : next = final := (moves level next stepped).resolve_left fun other => same other.symm
        rw [List.destutter'_cons_pos _ same, List.length_cons, reached, destutter_final stays (reached ▸ rest)]
        exact le_rfl

end Changes
end Barton.Hysteresis
