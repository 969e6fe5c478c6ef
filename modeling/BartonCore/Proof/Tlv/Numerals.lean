import BartonCore.Construction.Tlv.Value

namespace Barton.Tlv
open Rounding (toDouble toDouble_eq)

theorem charUnits_digit {character : Char} (numeral : character.isDigit = true) :
    charUnits character = [UInt16.ofNat character.toNat] ∧
      digit (UInt16.ofNat character.toNat) = some (character.toNat - 48) := by
  have bounds : 48 ≤ character.toNat ∧ character.toNat ≤ 57 := Char.isDigit_iff_toNat.mp numeral
  have value : (UInt16.ofNat character.toNat).toNat = character.toNat := by
    rw [UInt16.toNat_ofNat']
    omega
  constructor
  · unfold charUnits
    rw [if_pos (by omega)]
  · unfold digit
    rw [if_pos, value]
    constructor
    · rw [UInt16.le_iff_toNat_le, value]
      exact bounds.1
    · rw [UInt16.le_iff_toNat_le, value]
      exact bounds.2

/-- A list of digits denotes the same number in both scripts. -/
theorem digits_flatMap {characters : List Char} (numerals : ∀ character ∈ characters, character.isDigit = true)
    (value : Nat) : digits value (characters.flatMap charUnits) = Nat.ofDigitChars 10 characters value := by
  induction characters generalizing value with
  | nil => rfl
  | cons character rest ih =>
      obtain ⟨single, denotes⟩ := charUnits_digit (numerals character List.mem_cons_self)
      rw [List.flatMap_cons, single, List.singleton_append, digits, denotes, Nat.ofDigitChars_cons,
        ← ih fun other member => numerals other (List.mem_cons_of_mem _ member)]
      dsimp only
      congr 1
      rw [Nat.mul_comm]
      rfl

/-- The digits are neither white space nor signs. -/
theorem digit_plain : ∀ value : Fin 10, isWhiteSpace (UInt16.ofNat (48 + value)) = false ∧
    UInt16.ofNat (48 + value) ≠ 0x2d ∧ UInt16.ofNat (48 + value) ≠ 0x2b := by decide

theorem digit_notSpace {character : Char} (numeral : character.isDigit = true) :
    isWhiteSpace (UInt16.ofNat character.toNat) = false ∧ UInt16.ofNat character.toNat ≠ 0x2d ∧
      UInt16.ofNat character.toNat ≠ 0x2b := by
  have bounds : 48 ≤ character.toNat ∧ character.toNat ≤ 57 := Char.isDigit_iff_toNat.mp numeral
  have plain := digit_plain ⟨character.toNat - 48, by omega⟩
  rwa [Nat.add_sub_cancel' bounds.1] at plain

/-- The numeral of a number is read as the number. -/
theorem parseInt_toString (number : Nat) : parseInt (units (toString number)) = some (toDouble number : ℤ) := by
  have numerals : ∀ character ∈ Nat.toDigits 10 number, character.isDigit = true :=
    fun character member => Nat.isDigit_of_mem_toDigits (by decide) (by decide) member
  have text : units (toString number) = (Nat.toDigits 10 number).flatMap charUnits := by
    unfold units
    rw [show toString number = number.repr from rfl, Nat.toList_repr]
  have denotes := digits_flatMap numerals 0
  rw [Nat.ofDigitChars_ten_toDigits] at denotes
  rw [text]
  cases list : Nat.toDigits 10 number with
  | nil => exact absurd list Nat.toDigits_ne_nil
  | cons character rest =>
      rw [list] at numerals denotes
      have numeral := numerals character List.mem_cons_self
      obtain ⟨single, value⟩ := charUnits_digit numeral
      obtain ⟨notSpace, notMinus, notPlus⟩ := digit_notSpace numeral
      rw [List.flatMap_cons, single, List.singleton_append] at denotes ⊢
      unfold parseInt
      rw [List.dropWhile_cons_of_neg (by rw [notSpace]; exact nofun)]
      split
      · rename_i same
        exact absurd (List.cons.inj same).1 notMinus
      · rename_i same
        exact absurd (List.cons.inj same).1 notPlus
      · rw [leadingDigits, value, Option.map_some, denotes]
        rfl

/-- The text of the property key of a number is its numeral. -/
theorem ofNumber_text (number : Nat) : (PropertyKey.ofNumber number).text = units (toString number) := by
  unfold PropertyKey.ofNumber
  split
  · rfl
  · rfl

theorem toDouble_exact {number : Nat} (small : number ≤ 2 ^ 53) : toDouble number = number := by
  rcases Nat.lt_or_eq_of_le small with below | same
  · exact toDouble_eq below
  · rw [same]
    decide +kernel

/-- The numbers up to 2^53 have different property keys. -/
theorem ofNumber_inj {first second : Nat} (smallFirst : first ≤ 2 ^ 53) (smallSecond : second ≤ 2 ^ 53)
    (same : PropertyKey.ofNumber first = PropertyKey.ofNumber second) : first = second := by
  have texts := congrArg (fun key => parseInt (PropertyKey.text key)) same
  rw [ofNumber_text, ofNumber_text, parseInt_toString, parseInt_toString, toDouble_exact smallFirst,
    toDouble_exact smallSecond] at texts
  exact Int.ofNat_inj.mp (Option.some.inj texts)

end Barton.Tlv
