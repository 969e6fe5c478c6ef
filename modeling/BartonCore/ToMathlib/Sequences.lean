/-
This file contains padded lists in the lexicographic order and the segments of a list between separators.
-/

import Mathlib.Order.PiLex
import Mathlib.Tactic

namespace Barton.Sequences

section Order
variable {Value : Type} [LinearOrder Value] {left right : Value}

/-- The comparison is negative if the left value is greater. -/
def signCompare (left right : Value) : Int8 := if right < left then -1 else if left < right then 1 else 0

theorem signCompare_of_gt (greater : right < left) : signCompare left right = -1 := if_pos greater

theorem signCompare_of_lt (less : left < right) : signCompare left right = 1 := by
  rw [signCompare, if_neg less.asymm, if_pos less]

theorem signCompare_self (value : Value) : signCompare value value = 0 := by
  rw [signCompare, if_neg (lt_irrefl value), if_neg (lt_irrefl value)]

theorem signCompare_congr {Other : Type} [LinearOrder Other] {first second : Other}
    (greater : right < left ↔ second < first) (less : left < right ↔ first < second) :
    signCompare left right = signCompare first second := by
  rw [signCompare, signCompare, if_congr greater rfl (if_congr less rfl rfl)]

theorem signCompare_swap (left right : Value) : signCompare right left = -signCompare left right := by
  rcases lt_trichotomy left right with less | rfl | greater
  · rw [signCompare_of_gt less, signCompare_of_lt less]
  · rw [signCompare_self]
    rfl
  · rw [signCompare_of_lt greater, signCompare_of_gt greater]
    rfl

/-- A comparison says which value is not greater. -/
theorem signCompare_nonneg (left right : Value) : 0 ≤ signCompare left right ↔ left ≤ right := by
  rcases lt_trichotomy left right with less | rfl | greater
  · rw [signCompare_of_lt less]
    exact iff_of_true (by decide) less.le
  · rw [signCompare_self]
    exact iff_of_true (by decide) le_rfl
  · rw [signCompare_of_gt greater]
    exact iff_of_false (by decide) greater.not_ge

theorem signCompare_eq_neg_one (left right : Value) : signCompare left right = -1 ↔ right < left := by
  rcases lt_trichotomy left right with less | rfl | greater
  · rw [signCompare_of_lt less]
    exact iff_of_false (by decide) less.asymm
  · rw [signCompare_self]
    exact iff_of_false (by decide) (lt_irrefl _)
  · exact iff_of_true (signCompare_of_gt greater) greater

end Order

section Padding
variable {Item : Type} (rest : Item)

/-- A list goes on with one item forever. -/
def padded (items : List Item) : Lex (ℕ → Item) := toLex fun index => items.getD index rest

theorem padded_nil : padded rest [] = padded rest [rest] := by
  apply congrArg toLex
  funext index
  cases index <;> rfl

theorem padded_replicate (items : List Item) (count : ℕ) :
    padded rest (items ++ List.replicate count rest) = padded rest items := by
  apply congrArg toLex
  funext index
  by_cases inside : index < items.length
  · rw [List.getD_eq_getElem?_getD, List.getElem?_append_left inside, ← List.getD_eq_getElem?_getD]
  · have outside := Nat.le_of_not_lt inside
    rw [List.getD_eq_getElem?_getD, List.getElem?_append_right outside, List.getD_eq_getElem?_getD,
      List.getElem?_eq_none outside, List.getElem?_replicate]
    split <;> rfl

/-- The first different item decides. -/
theorem padded_cons_lt [LT Item] (first second : Item) (left right : List Item) :
    padded rest (first :: left) < padded rest (second :: right) ↔
      first < second ∨ first = second ∧ padded rest left < padded rest right := by
  constructor
  · rintro ⟨index, same, less⟩
    cases index with
    | zero => exact Or.inl less
    | succ index => exact Or.inr ⟨same 0 index.succ_pos, index, fun other before =>
        same (other + 1) (Nat.succ_lt_succ before), less⟩
  · rintro (less | ⟨equal, index, same, less⟩)
    · exact ⟨0, fun other before => absurd before (Nat.not_lt_zero other), less⟩
    · refine ⟨index + 1, fun other before => ?_, less⟩
      cases other with
      | zero => exact equal
      | succ other => exact same other (Nat.lt_of_succ_lt_succ before)

end Padding

section Compare
variable {Item : Type} [LinearOrder Item] (rest : Item)

/-- The comparison of two lists that go on with the same item. -/
noncomputable def compareLists (left right : List Item) : Int8 := signCompare (padded rest left) (padded rest right)

theorem compareLists_nil_left (right : List Item) : compareLists rest [] right = compareLists rest [rest] right := by
  rw [compareLists, padded_nil, compareLists]

theorem compareLists_nil_right (left : List Item) : compareLists rest left [] = compareLists rest left [rest] := by
  rw [compareLists, padded_nil, compareLists]

theorem compareLists_of_gt {first second : Item} (greater : second < first) (left right : List Item) :
    compareLists rest (first :: left) (second :: right) = -1 :=
  signCompare_of_gt ((padded_cons_lt rest ..).mpr (Or.inl greater))

theorem compareLists_of_lt {first second : Item} (less : first < second) (left right : List Item) :
    compareLists rest (first :: left) (second :: right) = 1 :=
  signCompare_of_lt ((padded_cons_lt rest ..).mpr (Or.inl less))

theorem compareLists_cons (item : Item) (left right : List Item) :
    compareLists rest (item :: left) (item :: right) = compareLists rest left right := by
  have tail (one other : List Item) : padded rest (item :: one) < padded rest (item :: other) ↔
      padded rest one < padded rest other := by
    rw [padded_cons_lt]
    simp
  exact signCompare_congr (tail right left) (tail left right)

/-- Items of the padding at the end of a list do not count. -/
theorem compareLists_replicate (items : List Item) (count : ℕ) :
    compareLists rest items (items ++ List.replicate count rest) = 0 := by
  rw [compareLists, padded_replicate]
  exact signCompare_self _

end Compare

section Segments
variable {Item : Type} (separator : Item → Bool)

/-- A segment has items. -/
def kept (segments : List (List Item)) : List (List Item) := segments.filter fun segment => !segment.isEmpty

/-- The longest parts without a separator are the segments. -/
noncomputable def segments (items : List Item) : List (List Item) := kept (items.splitOnP separator)

/-- A segment is closed by the separator after it. -/
noncomputable def closedSegments (items : List Item) : List (List Item) := kept (items.splitOnP separator).dropLast

variable {separator} {front : List Item} (plain : ∀ item ∈ front, separator item = false)
include plain

theorem segments_plain : segments separator front = kept [front] := by
  rw [segments, List.splitOnP_eq_singleton plain]

theorem closedSegments_plain : closedSegments separator front = [] := by
  rw [closedSegments, List.splitOnP_eq_singleton plain]
  rfl

variable {item : Item} (separates : separator item = true) (items : List Item)
include separates

theorem segments_append : segments separator (front ++ item :: items) = kept [front] ++ segments separator items := by
  rw [segments, List.splitOnP_append_cons_of_forall_mem plain item separates]
  exact List.filter_append [front] _

theorem closedSegments_append :
    closedSegments separator (front ++ item :: items) = kept [front] ++ closedSegments separator items := by
  rw [closedSegments, List.splitOnP_append_cons_of_forall_mem plain item separates,
    List.dropLast_cons_of_ne_nil (List.splitOnP_ne_nil separator items)]
  exact List.filter_append [front] _

end Segments
end Barton.Sequences
