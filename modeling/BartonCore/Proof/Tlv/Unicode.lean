import BartonCore.Proof.Tlv.Text

namespace Barton.Tlv.Utf8

/-- The first half of a surrogate pair. -/
def isHigh (unit : UInt16) : Bool := 0xd800 ≤ unit && unit ≤ 0xdbff

/-- The second half of a surrogate pair. -/
def isLow (unit : UInt16) : Bool := 0xdc00 ≤ unit && unit ≤ 0xdfff

/-- A unit is a low surrogate exactly when the unit before it is a high one. -/
def paired (afterHigh : Bool) : JsString → Bool
  | [] => !afterHigh
  | unit :: rest => isLow unit == afterHigh && paired (isHigh unit) rest

/-- Every surrogate of the text has its other half next to it. -/
def NoLoneSurrogate (text : JsString) : Prop := paired false text = true

instance (text : JsString) : Decidable (NoLoneSurrogate text) := inferInstanceAs (Decidable (_ = true))

section Characters

theorem pairs_eq (unit next : UInt16) : pairs unit next = (isHigh unit && isLow next) := by
  unfold pairs isHigh isLow
  rw [Bool.and_assoc, Bool.and_assoc]

theorem isHigh_iff (unit : UInt16) : isHigh unit = true ↔ 0xd800 ≤ unit.toNat ∧ unit.toNat ≤ 0xdbff := by
  simp [isHigh, UInt16.le_iff_toNat_le]

theorem isLow_iff (unit : UInt16) : isLow unit = true ↔ 0xdc00 ≤ unit.toNat ∧ unit.toNat ≤ 0xdfff := by
  simp [isLow, UInt16.le_iff_toNat_le]

/-- No unit is both halves of a pair. -/
theorem isLow_of_isHigh {unit : UInt16} (high : isHigh unit = true) : isLow unit = false := by
  rw [isHigh_iff] at high
  rw [Bool.eq_false_iff, ne_eq, isLow_iff]
  omega

theorem isHigh_of_isLow {unit : UInt16} (low : isLow unit = true) : isHigh unit = false := by
  rw [isLow_iff] at low
  rw [Bool.eq_false_iff, ne_eq, isHigh_iff]
  omega

/-- A character outside the basic plane is a pair, and any other character is one unit that is no surrogate. -/
theorem charUnits_cases (character : Char) :
    (∃ unit, charUnits character = [unit] ∧ unit.toNat = character.toNat ∧ isHigh unit = false ∧ isLow unit = false) ∨
      ∃ high low, charUnits character = [high, low] ∧ isHigh high = true ∧ isLow low = true ∧
        0x10000 + ((high.toNat &&& 0x3ff) <<< 10) + (low.toNat &&& 0x3ff) = character.toNat := by
  have valid : character.toNat < 0xd800 ∨ 0xdfff < character.toNat ∧ character.toNat < 0x110000 := character.valid
  have mask (value : Nat) : value &&& 0x3ff = value % 1024 := Nat.and_two_pow_sub_one_eq_mod value 10
  unfold charUnits
  dsimp only
  split
  · rename_i small
    have value : (UInt16.ofNat character.toNat).toNat = character.toNat := by
      rw [UInt16.toNat_ofNat']
      omega
    refine Or.inl ⟨_, rfl, value, ?_, ?_⟩
    · rw [Bool.eq_false_iff, ne_eq, isHigh_iff]
      omega
    · rw [Bool.eq_false_iff, ne_eq, isLow_iff]
      omega
  · rename_i large
    refine Or.inr ⟨_, _, rfl, ?_, ?_, ?_⟩
    · rw [isHigh_iff, UInt16.toNat_ofNat']
      omega
    · rw [isLow_iff, UInt16.toNat_ofNat']
      omega
    · rw [mask, mask, Nat.shiftLeft_eq, UInt16.toNat_ofNat', UInt16.toNat_ofNat']
      omega

theorem exists_char {point : Nat} (valid : point.isValidChar) : ∃ character : Char, character.toNat = point :=
  ⟨Char.ofNatAux point valid, rfl⟩

/-- A unit that is no surrogate is a character. -/
theorem exists_charUnits_single {unit : UInt16} (notHigh : isHigh unit = false) (notLow : isLow unit = false) :
    ∃ character, charUnits character = [unit] := by
  rw [Bool.eq_false_iff, ne_eq, isHigh_iff] at notHigh
  rw [Bool.eq_false_iff, ne_eq, isLow_iff] at notLow
  have bound := unit.toNat_lt
  obtain ⟨character, value⟩ := @exists_char unit.toNat (by unfold Nat.isValidChar; omega)
  refine ⟨character, ?_⟩
  unfold charUnits
  dsimp only
  rw [value, if_pos (by omega), UInt16.ofNat_toNat]

/-- The code point of a pair is a character. -/
theorem exists_charUnits_pair {high low : UInt16} (first : isHigh high = true) (second : isLow low = true) :
    ∃ character, charUnits character = [high, low] := by
  have halves := @pointUnits_pair high low (by rw [pairs_eq, first, second]; rfl)
  have mask (value : Nat) : value &&& 0x3ff = value % 1024 := Nat.and_two_pow_sub_one_eq_mod value 10
  generalize codePoint : 0x10000 + ((high.toNat &&& 0x3ff) <<< 10) + (low.toNat &&& 0x3ff) = point at halves
  rw [mask, mask, Nat.shiftLeft_eq] at codePoint
  obtain ⟨character, value⟩ := @exists_char point (by unfold Nat.isValidChar; omega)
  refine ⟨character, ?_⟩
  change pointUnits character.toNat = _
  rw [value, halves]

end Characters

section Texts

/-- The units of a list of characters have no lone surrogate. -/
theorem noLoneSurrogate_units (characters : List Char) : NoLoneSurrogate (characters.flatMap charUnits) := by
  induction characters with
  | nil => rfl
  | cons character rest ih =>
      rw [NoLoneSurrogate, List.flatMap_cons]
      rcases charUnits_cases character with ⟨unit, single, _, notHigh, notLow⟩ | ⟨high, low, pair, first, second, _⟩
      · rw [single, List.singleton_append, paired, notHigh, notLow]
        exact ih
      · rw [pair, List.cons_append, List.singleton_append, paired, paired, first, second, isLow_of_isHigh first,
          isHigh_of_isLow second]
        exact ih

/-- A text without lone surrogates is a list of characters. -/
theorem exists_characters {text : JsString} (whole : NoLoneSurrogate text) :
    ∃ characters : List Char, characters.flatMap charUnits = text := by
  fun_induction encode text with
  | case1 => exact ⟨[], rfl⟩
  | case2 unit =>
      simp only [NoLoneSurrogate, paired, Bool.and_eq_true, beq_iff_eq, Bool.not_eq_true'] at whole
      obtain ⟨character, single⟩ := exists_charUnits_single whole.2 whole.1
      exact ⟨[character], by rw [List.flatMap_singleton, single]⟩
  | case3 unit next rest pair ih =>
      rw [pairs_eq, Bool.and_eq_true] at pair
      obtain ⟨character, halves⟩ := exists_charUnits_pair pair.1 pair.2
      simp only [NoLoneSurrogate, paired, pair.1, pair.2, isHigh_of_isLow pair.2, Bool.and_eq_true] at whole
      obtain ⟨characters, later⟩ := ih whole.2.2
      exact ⟨character :: characters, by rw [List.flatMap_cons, halves, later]; rfl⟩
  | case4 unit next rest notPair ih =>
      simp only [NoLoneSurrogate, paired, Bool.and_eq_true, beq_iff_eq] at whole
      obtain ⟨notLow, follows, later⟩ := whole
      rw [pairs_eq, follows, Bool.and_self, Bool.not_eq_true] at notPair
      obtain ⟨character, single⟩ := exists_charUnits_single notPair notLow
      obtain ⟨characters, same⟩ := ih (by simp only [NoLoneSurrogate, paired, follows, notPair, later]; rfl)
      exact ⟨character :: characters, by rw [List.flatMap_cons, single, same]; rfl⟩

theorem or_tail : ∀ value < 64, 0x80 ||| value = value + 0x80 := by decide

theorem or_two : ∀ value < 32, 0xc0 ||| value = value % 32 + 0xc0 := by decide

theorem or_three : ∀ value < 16, 0xe0 ||| value = value % 16 + 0xe0 := by decide

theorem or_four : ∀ value < 8, 0xf0 ||| value = value % 8 + 0xf0 := by decide

/-- The encoder writes the standard bytes of a code point. -/
theorem encodePoint_char (character : Char) : encodePoint character.toNat = String.utf8EncodeChar character := by
  have valid : character.toNat < 0x110000 := by
    rcases character.valid with below | above
    · exact Nat.lt_trans below (by decide)
    · exact above.2
  have tail (value : Nat) : 0x80 ||| (value &&& 0x3f) = value % 64 + 0x80 := by
    rw [mask_six, or_tail _ (Nat.mod_lt _ (by decide))]
  change encodePoint character.val.toNat = _
  change character.val.toNat < 0x110000 at valid
  unfold encodePoint String.utf8EncodeChar
  dsimp only
  generalize character.val.toNat = point at valid
  simp only [tail, Nat.shiftRight_eq_div_pow]
  by_cases one : point < 0x80
  · rw [if_pos one, if_pos (show point ≤ 0x7f by omega)]
    rfl
  · rw [if_neg one, if_neg (show ¬point ≤ 0x7f by omega)]
    by_cases two : point < 0x800
    · rw [if_pos two, if_pos (show point ≤ 0x7ff by omega), or_two _ (by omega)]
      rfl
    · rw [if_neg two, if_neg (show ¬point ≤ 0x7ff by omega)]
      by_cases three : point < 0x10000
      · rw [if_pos three, if_pos (show point ≤ 0xffff by omega), or_three _ (by omega)]
        rfl
      · rw [if_neg three, if_neg (show ¬point ≤ 0xffff by omega), or_four _ (by omega)]
        rfl

/-- A character that starts a text is encoded on its own. -/
theorem encode_charUnits (character : Char) (rest : JsString) :
    encode (charUnits character ++ rest) = String.utf8EncodeChar character ++ encode rest := by
  rw [← encodePoint_char]
  rcases charUnits_cases character with ⟨unit, single, value, notHigh, _⟩ | ⟨high, low, pair, first, second, point⟩
  · rw [single, List.singleton_append, ← value]
    cases rest with
    | nil => exact (List.append_nil _).symm
    | cons next later =>
        have notPair : ¬pairs unit next = true := by
          rw [pairs_eq, notHigh, Bool.false_and]
          decide
        rw [encode, if_neg notPair]
  · have joined : pairs high low = true := by rw [pairs_eq, first, second]; rfl
    rw [pair, List.cons_append, List.singleton_append, encode, if_pos joined, point]

theorem encode_characters (characters : List Char) :
    encode (characters.flatMap charUnits) = characters.flatMap String.utf8EncodeChar := by
  induction characters with
  | nil => rfl
  | cons character rest ih => rw [List.flatMap_cons, List.flatMap_cons, encode_charUnits, ih]

/-- Every text returns from its encoding. A text has no lone surrogate exactly when it is the text of characters, and its
encoding is then their standard UTF-8 encoding. -/
theorem utf8_round_trip (text : JsString) : decode (encode text) = text ∧
    (NoLoneSurrogate text ↔ ∃ characters : String, units characters = text ∧
      encode text = characters.toByteArray.data.toList) := by
  refine ⟨decode_encode text, ?_, ?_⟩
  · intro whole
    obtain ⟨characters, rfl⟩ := exists_characters whole
    refine ⟨String.ofList characters, by rw [units, String.toList_ofList], ?_⟩
    rw [encode_characters, String.toByteArray_ofList, List.utf8Encode, List.toList_data_toByteArray]
  · rintro ⟨characters, rfl, _⟩
    exact noLoneSurrogate_units characters.toList

end Texts
end Barton.Tlv.Utf8
