/-
This file contains the conversions `strtol` and `strtoul` with the base 0.
-/

import Mathlib.Data.List.TakeWhile
import Mathlib.Tactic

namespace Barton.Strtol

/-- A text is a list of characters without a terminator. -/
abbrev Text := List Char

/-- This is `isspace`. -/
def isSpace (character : Char) : Bool := character = ' ' || ('\t' ≤ character && character ≤ '\r')

section Conversion

/-- The value of a digit in the bases up to 36. -/
def digitValue (character : Char) : Option Nat :=
  if '0' ≤ character ∧ character ≤ '9' then some (character.toNat - 48)
  else if 'a' ≤ character ∧ character ≤ 'z' then some (character.toNat - 87)
  else if 'A' ≤ character ∧ character ≤ 'Z' then some (character.toNat - 55)
  else none

def isDigit (base : Nat) (character : Char) : Bool := (digitValue character).any fun value => value < base

/-- The leading digits of a text denote a number. -/
def readDigits (base value : Nat) : Text → Nat
  | [] => value
  | character :: rest =>
      match (digitValue character).filter fun digit => digit < base with
      | some digit => readDigits base (value * base + digit) rest
      | none => value

/-- A text has a base, and its digits follow the mark of the base. -/
def radix (text : Text) : Nat × Text :=
  if text.head? = some '0' then
    if (text[1]? = some 'x' ∨ text[1]? = some 'X') ∧ text[2]?.any (isDigit 16) then (16, text.drop 2) else (8, text)
  else (10, text)

def magnitude (text : Text) : Nat := readDigits (radix text).1 0 (radix text).2

/-- A `long` has 64 bits, and the conversion saturates. -/
def strtol (text : Text) : ℤ :=
  match text.dropWhile isSpace with
  | '-' :: rest => max (-(magnitude rest : ℤ)) (-2 ^ 63)
  | '+' :: rest => min (magnitude rest : ℤ) (2 ^ 63 - 1)
  | rest => min (magnitude rest : ℤ) (2 ^ 63 - 1)

/-- A numeral has digits only. -/
def numeral (text : Text) : Option Nat :=
  if (radix text).2 ≠ [] ∧ (radix text).2.all (isDigit (radix text).1) then some (magnitude text) else none

/-- A sign stands before the digits. -/
def sign : Text → Bool × Text
  | '-' :: rest => (true, rest)
  | '+' :: rest => (false, rest)
  | rest => (false, rest)

/-- The text is what follows the number, or the whole text where there is no number. A number of more than 64 bits
saturates, and a minus sign negates the number modulo its width. -/
def strtoul (text : Text) : UInt64 × Text :=
  let (negative, unsigned) := sign (text.dropWhile isSpace)
  let (base, digits) := radix unsigned
  if digits.takeWhile (isDigit base) = [] then (0, text)
  else
    let value := UInt64.ofNat (magnitude unsigned)
    (if 2 ^ 64 ≤ magnitude unsigned then 0xFFFFFFFFFFFFFFFF else if negative then -value else value,
      digits.dropWhile (isDigit base))

/-- A numeral may have a sign and blanks before it. -/
def signedNumeral (text : Text) : Option ℤ :=
  let (negative, unsigned) := sign (text.dropWhile isSpace)
  (numeral unsigned).map fun (number : Nat) => if negative then -(number : ℤ) else number

end Conversion

section Unsigned
variable {text : Text}

theorem numeral_isSome (unsigned : Text) : (numeral unsigned).isSome = true ↔
    (radix unsigned).2.takeWhile (isDigit (radix unsigned).1) ≠ [] ∧
      (radix unsigned).2.dropWhile (isDigit (radix unsigned).1) = [] := by
  unfold numeral
  generalize radix unsigned = marked
  obtain ⟨base, digits⟩ := marked
  dsimp only
  have whole : digits.all (isDigit base) = true ↔ digits.dropWhile (isDigit base) = [] := by
    rw [List.dropWhile_eq_nil_iff, List.all_eq_true]
  have split := List.takeWhile_append_dropWhile (p := isDigit base) (l := digits)
  split
  next both =>
    have read := whole.mp both.2
    rw [read, List.append_nil] at split
    simp only [Option.isSome_some, true_iff]
    exact ⟨split.symm ▸ both.1, read⟩
  next missing =>
    simp only [Option.isSome_none, Bool.false_eq_true, false_iff]
    rintro ⟨nonempty, read⟩
    rw [read, List.append_nil] at split
    exact missing ⟨split ▸ nonempty, whole.mpr read⟩

/-- The conversion ends at the end of the text exactly for a numeral. -/
theorem strtoul_whole_iff : ((strtoul text).2 = text ∨ (strtoul text).2 ≠ []) ↔ signedNumeral text = none := by
  have missing : signedNumeral text = none ↔
      ¬ (numeral (sign (text.dropWhile isSpace)).2).isSome = true := by
    unfold signedNumeral
    rw [Option.map_eq_none_iff, Option.not_isSome_iff_eq_none]
  rw [missing, numeral_isSome, not_and_or, not_not]
  unfold strtoul
  dsimp only
  split
  next empty => simp [empty]
  next nonempty =>
    simp only [nonempty, false_or]
    constructor
    · rintro (same | rest)
      · intro read
        rw [read] at same
        subst same
        exact nonempty (by decide)
      · exact rest
    · exact Or.inr

theorem magnitude_numeral {unsigned : Text} {value : Nat} (reads : numeral unsigned = some value) :
    magnitude unsigned = value := by
  unfold numeral at reads
  split at reads
  · exact Option.some.inj reads
  · cases reads

/-- A numeral of at most 64 bits is read. -/
theorem strtoul_value {number : ℤ} (reads : signedNumeral text = some number) (nonneg : 0 ≤ number)
    (fits : number < 2 ^ 64) : ((strtoul text).1.toNat : ℤ) = number := by
  unfold signedNumeral at reads
  unfold strtoul
  generalize sign (text.dropWhile isSpace) = signed at reads ⊢
  obtain ⟨negative, unsigned⟩ := signed
  dsimp only at reads ⊢
  obtain ⟨value, read, same⟩ := Option.map_eq_some_iff.mp reads
  have written := (numeral_isSome unsigned).mp (Option.isSome_of_eq_some read)
  rw [if_neg written.1, magnitude_numeral read]
  cases negative with
  | false =>
      simp only [Bool.false_eq_true, if_false] at same ⊢
      rw [if_neg (by omega), UInt64.toNat_ofNat', Nat.mod_eq_of_lt (by omega)]
      exact same
  | true =>
      simp only [if_true] at same ⊢
      have zero : value = 0 := by omega
      rw [if_neg (by omega), zero, ← same, zero]
      decide

end Unsigned

section Padding
variable {core after : Text} {number : Nat}

theorem toNat_space {character : Char} (blank : isSpace character = true) : character.toNat ≤ 32 := by
  unfold isSpace at blank
  rcases (Bool.or_eq_true ..).mp blank with space | control
  · rw [of_decide_eq_true space]
    decide
  · have upper : character ≤ '\r' := of_decide_eq_true ((Bool.and_eq_true ..).mp control).2
    have bound : character.toNat ≤ '\r'.toNat := upper
    exact bound.trans (by decide)

theorem digitValue_space {character : Char} (blank : isSpace character = true) : digitValue character = none := by
  have low := toNat_space blank
  unfold digitValue
  have above (other : Char) (high : 32 < other.toNat) : ¬ other ≤ character := fun less => by
    have bound : other.toNat ≤ character.toNat := less
    omega
  rw [if_neg fun both => above '0' (by decide) both.1, if_neg fun both => above 'a' (by decide) both.1,
    if_neg fun both => above 'A' (by decide) both.1]

/-- A blank ends a number. -/
theorem readDigits_append {base : Nat} (blanks : ∀ character ∈ after, isSpace character = true) (value : Nat)
    (digits : Text) : readDigits base value (digits ++ after) = readDigits base value digits := by
  induction digits generalizing value with
  | nil =>
      cases after with
      | nil => rfl
      | cons character rest =>
          have blank := digitValue_space (blanks character List.mem_cons_self)
          simp [readDigits, blank]
  | cons character rest ih =>
      rw [List.cons_append, readDigits, readDigits]
      cases (digitValue character).filter fun digit => digit < base with
      | none => rfl
      | some digit => exact ih _

/-- The last digit has the lowest weight. -/
theorem readDigits_concat {base digit : Nat} {digits : Text} {character : Char}
    (valid : ∀ one ∈ digits, isDigit base one = true) (reads : digitValue character = some digit)
    (small : digit < base) (value : Nat) :
    readDigits base value (digits ++ [character]) = readDigits base value digits * base + digit := by
  induction digits generalizing value with
  | nil =>
      have same : (digitValue character).filter (fun digit => digit < base) = some digit :=
        Option.filter_eq_some_iff.mpr ⟨reads, decide_eq_true small⟩
      simp only [List.nil_append, readDigits, same]
  | cons one digits ih =>
      rw [List.forall_mem_cons] at valid
      obtain ⟨first, known, bound⟩ := (Option.any_eq_true _ _).mp valid.1
      have same : (digitValue one).filter (fun digit => digit < base) = some first :=
        Option.filter_eq_some_iff.mpr ⟨known, bound⟩
      rw [List.cons_append, readDigits, same, readDigits, same]
      exact ih valid.2 _

theorem numeral_ne_nil (reads : numeral core = some number) : core ≠ [] := by
  rintro rfl
  unfold numeral at reads
  rw [if_neg] at reads
  · cases reads
  · exact fun both => both.1 rfl

/-- A numeral starts with a digit. -/
theorem numeral_head (reads : numeral core = some number) :
    ∃ first rest, core = first :: rest ∧ (digitValue first).isSome = true := by
  cases core with
  | nil => exact absurd rfl (numeral_ne_nil reads)
  | cons first rest =>
      refine ⟨first, rest, rfl, ?_⟩
      by_cases zero : first = '0'
      · subst zero
        rfl
      · have plain : radix (first :: rest) = (10, first :: rest) := by
          unfold radix
          rw [if_neg]
          simpa using zero
        unfold numeral at reads
        rw [plain] at reads
        split at reads
        · rename_i digits
          have head := List.all_eq_true.mp digits.2 first List.mem_cons_self
          unfold isDigit at head
          cases value : digitValue first with
          | none =>
              rw [value] at head
              cases head
          | some digit => rfl
        · cases reads

/-- The base of a numeral does not depend on the blanks behind it. -/
theorem radix_append (reads : numeral core = some number)
    (blanks : ∀ character ∈ after, isSpace character = true) :
    radix (core ++ after) = ((radix core).1, (radix core).2 ++ after) := by
  obtain ⟨first, rest, rfl, _⟩ := numeral_head reads
  by_cases zero : first = '0'
  · subst zero
    cases rest with
    | nil =>
        have unmarked : ∀ mark : Char, isSpace mark = false → after[0]? ≠ some mark := by
          intro mark visible found
          have blank := blanks mark (List.mem_of_getElem? found)
          rw [visible] at blank
          cases blank
        have lower := unmarked 'x' (by decide)
        have upper := unmarked 'X' (by decide)
        have octal : radix ['0'] = (8, ['0']) := by decide
        rw [octal]
        unfold radix
        simp [lower, upper]
    | cons mark digits =>
        cases digits with
        | nil =>
            have octal : radix ['0', mark] = (8, ['0', mark]) := by simp [radix]
            have digit : isDigit 8 mark = true := by
              unfold numeral at reads
              rw [octal] at reads
              split at reads
              · rename_i digits
                exact List.all_eq_true.mp digits.2 mark (List.mem_cons_of_mem _ List.mem_cons_self)
              · cases reads
            have unmarked : ¬ (mark = 'x' ∨ mark = 'X') := by
              rintro (rfl | rfl)
              · exact absurd digit (by decide)
              · exact absurd digit (by decide)
            rw [octal]
            unfold radix
            simp [unmarked]
        | cons digit digits =>
            unfold radix
            simp only [List.cons_append, List.head?_cons, List.getElem?_cons_succ, List.getElem?_cons_zero,
              List.drop_succ_cons, List.drop_zero, if_true]
            split
            · rfl
            · rfl
  · have different : (first :: rest).head? ≠ some '0' := by simpa using zero
    have appended : (first :: rest ++ after).head? ≠ some '0' := by simpa using zero
    unfold radix
    rw [if_neg different, if_neg appended]

theorem magnitude_append (reads : numeral core = some number)
    (blanks : ∀ character ∈ after, isSpace character = true) : magnitude (core ++ after) = number := by
  unfold magnitude
  rw [radix_append reads blanks, readDigits_append blanks]
  exact magnitude_numeral reads

/-- A numeral between blanks is read. -/
theorem strtol_numeral {before : Text} (reads : numeral core = some number)
    (leading : ∀ character ∈ before, isSpace character = true)
    (trailing : ∀ character ∈ after, isSpace character = true) :
    strtol (before ++ core ++ after) = min (number : ℤ) (2 ^ 63 - 1) := by
  have whole := magnitude_append reads trailing
  obtain ⟨first, rest, rfl, digit⟩ := numeral_head reads
  have visible : ¬ isSpace first = true := by
    intro blank
    rw [digitValue_space blank] at digit
    cases digit
  have remaining : (before ++ (first :: rest) ++ after).dropWhile isSpace = first :: (rest ++ after) := by
    rw [List.append_assoc, List.dropWhile_append_of_pos leading, List.cons_append,
      List.dropWhile_cons_of_neg visible]
  unfold strtol
  rw [remaining]
  split
  · rename_i same
    cases same
    exact absurd digit (by decide)
  · rename_i same
    cases same
    exact absurd digit (by decide)
  · rename_i same
    rw [← whole]
    rfl

/-- Blanks are read as zero. -/
theorem strtol_blank {text : Text} (blanks : ∀ character ∈ text, isSpace character = true) : strtol text = 0 := by
  unfold strtol
  rw [List.dropWhile_eq_nil_iff.mpr blanks]
  decide

end Padding
end Barton.Strtol
