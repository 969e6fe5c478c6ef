/-
This file contains the search for the brace that closes a block, by positions in the source text. A character is one
byte, and the source has a length, so it may hold any byte.
-/

import Mathlib.Tactic

namespace Barton.Braces

abbrev Text := List Char

def apostrophe : Char := Char.ofNat 39
def quotationMark : Char := Char.ofNat 34
def backtick : Char := Char.ofNat 96
def backslash : Char := Char.ofNat 92

/-- This is the largest `int`. -/
def intMax : Nat := 2147483647

section Skips
variable (source : Text)

/-- The loop stops at the end of the line. -/
def skipLineComment (pos : Nat) : Nat :=
  if inside : pos < source.length then
    if source[pos] = '\n' then pos else skipLineComment (pos + 1)
  else pos
  termination_by source.length - pos

/-- The loop stops before the end mark of the comment, or at the last character. -/
def skipBlockComment (pos : Nat) : Nat :=
  if inside : pos + 1 < source.length then
    if source[pos] = '*' ∧ source[pos + 1] = '/' then pos else skipBlockComment (pos + 1)
  else pos
  termination_by source.length - pos

/-- The loop stops at the next quote without a backslash before it. -/
def skipLiteral (quote : Char) (pos : Nat) : Nat :=
  if inside : pos < source.length then
    if source[pos] = quote then pos
    else if source[pos] = backslash then skipLiteral quote (pos + 2)
    else skipLiteral quote (pos + 1)
  else pos
  termination_by source.length - pos

theorem le_skipLineComment (pos : Nat) : pos ≤ skipLineComment source pos := by
  induction pos using skipLineComment.induct source with
  | case1 pos inside found =>
      rw [skipLineComment, dif_pos inside, if_pos found]
  | case2 pos inside other ih =>
      rw [skipLineComment, dif_pos inside, if_neg other]
      exact (Nat.le_succ pos).trans ih
  | case3 pos outside =>
      rw [skipLineComment, dif_neg outside]

theorem le_skipBlockComment (pos : Nat) : pos ≤ skipBlockComment source pos := by
  induction pos using skipBlockComment.induct source with
  | case1 pos inside found =>
      rw [skipBlockComment, dif_pos inside, if_pos found]
  | case2 pos inside other ih =>
      rw [skipBlockComment, dif_pos inside, if_neg other]
      exact (Nat.le_succ pos).trans ih
  | case3 pos outside =>
      rw [skipBlockComment, dif_neg outside]

theorem le_skipLiteral (quote : Char) (pos : Nat) : pos ≤ skipLiteral source quote pos := by
  induction pos using skipLiteral.induct source quote with
  | case1 pos inside found =>
      rw [skipLiteral, dif_pos inside, if_pos found]
  | case2 pos inside other escape ih =>
      rw [skipLiteral, dif_pos inside, if_neg other, if_pos escape]
      exact (Nat.le_add_right pos 2).trans ih
  | case3 pos inside other plain ih =>
      rw [skipLiteral, dif_pos inside, if_neg other, if_neg plain]
      exact (Nat.le_succ pos).trans ih
  | case4 pos outside =>
      rw [skipLiteral, dif_neg outside]

/-- The first slash of a line comment is not the end of its line. -/
theorem lt_skipLineComment {pos : Nat} (inside : pos < source.length) (slash : source[pos] = '/') :
    pos < skipLineComment source pos := by
  rw [skipLineComment, dif_pos inside, if_neg (by rw [slash]; decide)]
  exact le_skipLineComment source (pos + 1)

end Skips

section Search
variable (source : Text)

/-- The loop ends with a position and a depth. The depth is an `int`, and an overflow is undefined. -/
def scan (pos depth : Nat) : Option (Nat × Nat) :=
  if inside : pos < source.length ∧ depth > 0 then
    let c := source[pos]
    if line : c = '/' ∧ source[pos + 1]? = some '/' then scan (skipLineComment source pos) depth
    else if c = '/' ∧ source[pos + 1]? = some '*' then scan (skipBlockComment source (pos + 2) + 2) depth
    else if c = quotationMark ∨ c = apostrophe then scan (skipLiteral source c (pos + 1) + 1) depth
    else if c = backtick then scan (skipLiteral source c (pos + 1) + 1) depth
    else if c = '{' then if depth < intMax then scan (pos + 1) (depth + 1) else none
    else if c = '}' then scan (pos + 1) (depth - 1)
    else scan (pos + 1) depth
  else some (pos, depth)
  termination_by source.length - pos
  decreasing_by
    · have later := lt_skipLineComment source inside.1 line.1
      omega
    · have later := le_skipBlockComment source (pos + 2)
      omega
    · have later := le_skipLiteral source source[pos] (pos + 1)
      omega
    · have later := le_skipLiteral source source[pos] (pos + 1)
      omega
    all_goals omega

/-- The result is the position of the closing brace, or nothing for `std::string::npos`. -/
def findMatchingBrace (openPos : Nat) : Option (Option Nat) :=
  if source[openPos]? = some '{' then
    (scan source (openPos + 1) 1).map fun (pos, depth) => if depth ≠ 0 then none else some (pos - 1)
  else some none

end Search
end Barton.Braces
