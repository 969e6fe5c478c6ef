import Mathlib.Data.Nat.Digits.Defs
import BartonCore.Construction.Tlv.Encode
import BartonCore.Proof.Tlv.Schema
import BartonCore.Proof.Tlv.Truncation

namespace Barton.Tlv
open Parsing
open Rounding (toDouble toDouble_eq le_toDouble toDoubleInt toDoubleInt_eq)

/-- The text has the digits of the base with these values. -/
def Spells (base : Nat) (text : JsString) (values : List Nat) : Prop := text.map (radixDigit base) = values.map some

/-- A sign is nothing, a plus, or a minus, which negates. -/
inductive Sign : JsString → Bool → Prop where
  | none : Sign [] false
  | plus : Sign [0x2b] false
  | minus : Sign [0x2d] true

def signedNumber (negative : Bool) (magnitude : Nat) : ℤ := if negative then -magnitude else magnitude

/-- The text is an optionally signed numeral of the base after trimming. -/
def Numeral (base : Nat) (text : JsString) (number : ℤ) : Prop :=
  ∃ sign negative digits values, Sign sign negative ∧ Spells base digits values ∧ values ≠ [] ∧
    trim text = sign ++ digits ∧ number = signedNumber negative (Nat.ofDigits base values.reverse)

/-- The value is a number or a numeral of the base. -/
def Denotes (base : Nat) : JsValue → ℤ → Prop
  | .number value, number => value = .integral (.finite number)
  | .string text, number => Numeral base text number
  | _, _ => False

/-- The range of an integer type follows from its width. -/
def MatterType.range (type : MatterType) : Option (ℤ × ℤ) :=
  match type.signedWidth with
  | some width => some (-2 ^ (width - 1), 2 ^ (width - 1) - 1)
  | none => type.unsignedWidth.map fun width => (0, 2 ^ width - 1)

/-- The integer types of at most 32 bits. -/
def smallTypes : List MatterType :=
  [.int8, .int16, .int32, .uint8, .uint16, .uint32, .enum8, .enum16, .percent, .percent100ths, .bitmap8, .bitmap16,
    .bitmap32]

/-- These bases have a pattern. -/
def Base (base : Nat) : Prop := base = 2 ∨ base = 8 ∨ base = 10 ∨ base = 16

section Digits
variable {base : Nat} {unit : UInt16} {value : Nat}

theorem isSome_filter_below : ((some value).filter (· < base)).isSome = true ↔ value < base := by
  rw [Option.filter_some]
  split
  · next below => simpa using below
  · next above => simpa using above

/-- The pattern of a base has the digits of the base. -/
theorem inPattern_iff (known : Base base) : inPattern base unit = true ↔ (radixDigit base unit).isSome = true := by
  unfold radixDigit letterDigit inPattern
  simp only [UInt16.le_iff_toNat_le, UInt16.reduceToNat]
  rcases known with rfl | rfl | rfl | rfl
  all_goals
    simp only [Nat.reduceEqDiff, if_true, if_false, Bool.and_eq_true, Bool.or_eq_true, decide_eq_true_eq]
    split
    · rw [isSome_filter_below]
      omega
    · split
      · rw [isSome_filter_below]
        omega
      · split
        · rw [isSome_filter_below]
          omega
        · rw [Option.filter_none, Option.isSome_none]
          simp
          omega

/-- A digit is an ASCII digit or letter. -/
theorem digit_bounds (digit : radixDigit base unit = some value) : 0x30 ≤ unit.toNat ∧ unit.toNat ≤ 0x7a := by
  obtain ⟨letter, _⟩ := Option.filter_eq_some_iff.mp digit
  unfold letterDigit at letter
  simp only [UInt16.le_iff_toNat_le, UInt16.reduceToNat] at letter
  split at letter
  · omega
  · split at letter
    · omega
    · split at letter
      · omega
      · cases letter

theorem digit_not_sign (digit : radixDigit base unit = some value) : isSign unit = false := by
  have bounds := digit_bounds digit
  simp only [isSign, Bool.or_eq_false_iff, decide_eq_false_iff_not, ← UInt16.toNat_inj, UInt16.reduceToNat]
  omega

theorem digit_not_space (digit : radixDigit base unit = some value) : isWhiteSpace unit = false := by
  have bounds := digit_bounds digit
  simp only [isWhiteSpace, Bool.or_eq_false_iff, Bool.and_eq_false_iff, decide_eq_false_iff_not,
    UInt16.le_iff_toNat_le, UInt16.reduceToNat, List.contains_eq_mem, List.mem_cons, List.not_mem_nil, or_false,
    ← UInt16.toNat_inj]
  omega

/-- The letter of the prefix `0x` is no hexadecimal digit. -/
theorem prefix_not_digit : radixDigit 16 0x78 = none ∧ radixDigit 16 0x58 = none := by decide

end Digits

section Texts
variable {base : Nat} {text : JsString} {values : List Nat}

theorem all_inPattern (known : Base base) (text : JsString) :
    text.all (inPattern base) = true ↔ ∃ values, Spells base text values := by
  induction text with
  | nil => exact ⟨fun _ => ⟨[], rfl⟩, fun _ => rfl⟩
  | cons unit rest ih =>
      rw [List.all_cons, Bool.and_eq_true, ih, inPattern_iff known, Option.isSome_iff_exists]
      constructor
      · rintro ⟨⟨value, digit⟩, values, spells⟩
        refine ⟨value :: values, ?_⟩
        rw [Spells, List.map_cons, List.map_cons, digit, spells]
      · rintro ⟨values, spells⟩
        cases values with
        | nil => cases spells
        | cons value values =>
            rw [Spells, List.map_cons, List.map_cons, List.cons.injEq] at spells
            exact ⟨⟨value, spells.1⟩, values, spells.2⟩

theorem leadingValues_spells (spells : Spells base text values) : leadingValues base text = values := by
  induction text generalizing values with
  | nil =>
      cases values with
      | nil => rfl
      | cons value values => cases spells
  | cons unit rest ih =>
      cases values with
      | nil => cases spells
      | cons value values =>
          rw [Spells, List.map_cons, List.map_cons, List.cons.injEq] at spells
          rw [leadingValues, spells.1, ih spells.2]

theorem spells_length (spells : Spells base text values) : text.length = values.length := by
  rw [← List.length_map (radixDigit base), spells, List.length_map]

theorem spells_getElem (spells : Spells base text values) {unit : UInt16} (inside : unit ∈ text) :
    ∃ value, radixDigit base unit = some value := by
  have digit := List.mem_map_of_mem (f := radixDigit base) inside
  rw [spells] at digit
  obtain ⟨value, -, same⟩ := List.mem_map.mp digit
  exact ⟨value, same.symm⟩

theorem stripPrefix_spells (spells : Spells base text values) : stripPrefix base text = text := by
  rw [stripPrefix, if_neg]
  rintro ⟨rfl, marked⟩
  have second : (0x78 : UInt16) ∈ text ∨ (0x58 : UInt16) ∈ text := by
    rcases marked with marked | marked
    · left
      apply List.mem_of_mem_take (i := 2)
      rw [marked]
      exact List.mem_cons_of_mem _ List.mem_cons_self
    · right
      apply List.mem_of_mem_take (i := 2)
      rw [marked]
      exact List.mem_cons_of_mem _ List.mem_cons_self
  rcases second with inside | inside
  · obtain ⟨value, digit⟩ := spells_getElem spells inside
    rw [prefix_not_digit.1] at digit
    cases digit
  · obtain ⟨value, digit⟩ := spells_getElem spells inside
    rw [prefix_not_digit.2] at digit
    cases digit

/-- Every text is a sign and the rest. -/
theorem exists_sign (text : JsString) : ∃ sign negative, Sign sign negative ∧ text = sign ++ unsignedText text := by
  cases text with
  | nil => exact ⟨[], false, .none, rfl⟩
  | cons unit rest =>
      cases sign : isSign unit with
      | false => exact ⟨[], false, .none, by rw [unsignedText, sign]; rfl⟩
      | true =>
          have both := sign
          simp only [isSign, Bool.or_eq_true, decide_eq_true_eq] at both
          rcases both with rfl | rfl
          · exact ⟨[0x2d], true, .minus, by rw [unsignedText, sign]; rfl⟩
          · exact ⟨[0x2b], false, .plus, by rw [unsignedText, sign]; rfl⟩

variable {sign : JsString} {negative : Bool}

theorem spells_cons (spells : Spells base text values) (nonempty : values ≠ []) :
    ∃ unit rest value, text = unit :: rest ∧ radixDigit base unit = some value := by
  cases text with
  | nil => exact absurd (List.length_eq_zero_iff.mp (spells_length spells).symm) nonempty
  | cons unit rest =>
      obtain ⟨value, digit⟩ := spells_getElem spells List.mem_cons_self
      exact ⟨unit, rest, value, rfl, digit⟩

theorem unsignedText_signed (signs : Sign sign negative) (spells : Spells base text values) (nonempty : values ≠ []) :
    unsignedText (sign ++ text) = text := by
  cases signs with
  | none =>
      obtain ⟨unit, rest, value, rfl, digit⟩ := spells_cons spells nonempty
      rw [List.nil_append, unsignedText, digit_not_sign digit]
      rfl
  | plus => rfl
  | minus => rfl

theorem signed_not_space (signs : Sign sign negative) (spells : Spells base text values) (nonempty : values ≠ []) :
    (sign ++ text).dropWhile isWhiteSpace = sign ++ text := by
  cases signs with
  | none =>
      obtain ⟨unit, rest, value, rfl, digit⟩ := spells_cons spells nonempty
      exact List.dropWhile_cons_of_neg (by rw [digit_not_space digit]; exact Bool.false_ne_true)
  | plus | minus => exact List.dropWhile_cons_of_neg (by decide)

theorem signed_head (signs : Sign sign negative) (spells : Spells base text values) (nonempty : values ≠ []) :
    decide ((sign ++ text).head? = some 0x2d) = negative := by
  cases signs with
  | none =>
      obtain ⟨unit, rest, value, rfl, digit⟩ := spells_cons spells nonempty
      have other := digit_not_sign digit
      simp only [isSign, Bool.or_eq_false_iff, decide_eq_false_iff_not] at other
      rw [List.nil_append, List.head?_cons, decide_eq_false_iff_not, Option.some.injEq]
      exact other.1
  | plus => rfl
  | minus => rfl

/-- The number of a signed numeral is the rounded value of its digits. -/
theorem parseIntRadix_signed (signs : Sign sign negative) (spells : Spells base text values) (nonempty : values ≠ []) :
    parseIntRadix (sign ++ text) base = some (roundedInteger negative (Nat.ofDigits base values.reverse)) := by
  have folded : values.foldl (fun value next => value * base + next) 0 = Nat.ofDigits base values.reverse := by
    rw [Nat.ofDigits_eq_foldr, List.foldr_reverse]
    congr 1
    funext value next
    change value * base + next = next + base * value
    rw [Nat.mul_comm, Nat.add_comm]
  unfold parseIntRadix
  dsimp only
  rw [signed_not_space signs spells nonempty, unsignedText_signed signs spells nonempty, stripPrefix_spells spells,
    leadingValues_spells spells, signed_head signs spells nonempty]
  cases values with
  | nil => exact absurd rfl nonempty
  | cons value values => rw [← folded]

theorem baseOf_whole (known : Base base) : baseOf (.whole base) = some base := by
  rcases known with rfl | rfl | rfl | rfl <;> rfl

/-- The parser refuses a text that is no numeral. -/
theorem parseInteger_none (known : Base base) (refused : ∀ number, ¬Numeral base text number) :
    parseInteger (.whole base) text = none := by
  unfold parseInteger
  dsimp only
  split
  · rfl
  · rw [baseOf_whole known, Option.bind_some, if_neg]
    intro pattern
    rw [integerPattern, Bool.and_eq_true, decide_eq_true_eq, all_inPattern known] at pattern
    obtain ⟨nonempty, values, spells⟩ := pattern
    obtain ⟨sign, negative, signs, whole⟩ := exists_sign (trim text)
    refine refused _ ⟨sign, negative, _, values, signs, spells, ?_, whole, rfl⟩
    rintro rfl
    exact nonempty (List.length_eq_zero_iff.mp (spells_length spells))

/-- The parser rounds a numeral. -/
theorem parseInteger_some (known : Base base) {number : ℤ} (numeral : Numeral base text number) :
    ∃ negative magnitude, number = signedNumber negative magnitude ∧
      parseInteger (.whole base) text = some (roundedInteger negative magnitude) := by
  obtain ⟨sign, negative, digits, values, signs, spells, nonempty, trimmed, rfl⟩ := numeral
  refine ⟨negative, _, rfl, ?_⟩
  have unsigned := unsignedText_signed signs spells nonempty
  have pattern : integerPattern base (sign ++ digits) = true := by
    rw [integerPattern, unsigned, Bool.and_eq_true, decide_eq_true_eq, all_inPattern known]
    refine ⟨?_, values, spells⟩
    rintro rfl
    exact nonempty (List.length_eq_zero_iff.mp (spells_length spells).symm)
  unfold parseInteger
  dsimp only
  rw [trimmed, if_neg, baseOf_whole known, Option.bind_some, if_pos pattern,
    parseIntRadix_signed signs spells nonempty]
  intro empty
  rw [List.length_append, spells_length spells] at empty
  exact nonempty (List.length_eq_zero_iff.mp (by omega))

end Texts

section Rounded
variable {negative : Bool} {magnitude : Nat}

theorem lt_pow_of_small {magnitude bound : Nat} (small : magnitude < 2 ^ 53) (large : 53 ≤ bound) :
    magnitude < 2 ^ bound := Nat.lt_of_lt_of_le small (Nat.pow_le_pow_right (by decide) large)

/-- A number with 53 bits is not rounded. -/
theorem roundedInteger_exact (small : magnitude < 2 ^ 53) :
    roundedInteger negative magnitude = .finite (signedNumber negative magnitude) := by
  have finite := lt_pow_of_small small (show 53 ≤ 1024 by decide)
  rw [roundedInteger, toDouble_eq small, if_neg (Nat.not_le_of_lt finite)]
  rfl

/-- A range below 2^53 excludes a rounded number when it excludes the number. -/
theorem excludes_rounded {low high : ℤ} (above : -2 ^ 53 < low) (below : high < 2 ^ 53)
    (outside : ¬(low ≤ signedNumber negative magnitude ∧ signedNumber negative magnitude ≤ high)) :
    (IntegerRange.bounds low high).excludes (.integral (roundedInteger negative magnitude)) = true := by
  by_cases small : magnitude < 2 ^ 53
  · rw [roundedInteger_exact small]
    simp only [IntegerRange.excludes, Bool.or_eq_true, decide_eq_true_eq]
    omega
  · have large := le_toDouble (Nat.le_of_not_lt small)
    rw [roundedInteger]
    split
    · rfl
    · simp only [IntegerRange.excludes, Bool.or_eq_true, decide_eq_true_eq]
      split <;> omega

/-- A number inside a range below 2^53 is not rounded. -/
theorem rounded_of_exact (exact : Exact (signedNumber negative magnitude)) :
    roundedInteger negative magnitude = .finite (signedNumber negative magnitude) := by
  apply roundedInteger_exact
  obtain ⟨above, below⟩ := exact
  cases negative
  · change (magnitude : ℤ) < 2 ^ 53 at below
    omega
  · change -2 ^ 53 < -(magnitude : ℤ) at above
    omega

end Rounded

section Encoding
variable {toNumber : JsValue → JsNumber} {toText : JsValue → Except Failure JsString}
variable {inherited : PropertyKey → Inherited} {type : String} {low high : ℤ}

/-- The range table has the ranges of these types. -/
theorem lookup_integerRanges : ∀ matter ∈ smallTypes, integerRanges.lookup matter.name = matter.range := by decide

theorem small_width {matter : MatterType} (small : matter ∈ smallTypes) {width : Nat}
    (wide : matter.signedWidth = some width ∨ matter.unsignedWidth = some width) : width ≤ 32 := by
  have widths : ∀ matter ∈ smallTypes,
      matter.signedWidth.all (· ≤ 32) = true ∧ matter.unsignedWidth.all (· ≤ 32) = true := by decide
  obtain ⟨signed, unsigned⟩ := widths matter small
  rcases wide with wide | wide
  · rw [wide] at signed
    exact of_decide_eq_true signed
  · rw [wide] at unsigned
    exact of_decide_eq_true unsigned

/-- The bounds of a type have its width. -/
theorem range_cases {matter : MatterType} (range : matter.range = some (low, high)) : ∃ width : Nat,
    (matter.signedWidth = some width ∧ low = -2 ^ (width - 1) ∧ high = 2 ^ (width - 1) - 1) ∨
      (matter.unsignedWidth = some width ∧ low = 0 ∧ high = 2 ^ width - 1) := by
  unfold MatterType.range at range
  cases signed : matter.signedWidth with
  | some width =>
      rw [signed] at range
      injection range with same
      injection same with lowest highest
      exact ⟨width, .inl ⟨rfl, lowest.symm, highest.symm⟩⟩
  | none =>
      rw [signed] at range
      obtain ⟨width, unsigned, same⟩ := Option.map_eq_some_iff.mp range
      injection same with lowest highest
      exact ⟨width, .inr ⟨unsigned, lowest.symm, highest.symm⟩⟩

theorem pow_width_le {width : Nat} (wide : width ≤ 32) : (2 : ℤ) ^ width ≤ 2 ^ 32 :=
  pow_le_pow_right₀ (by decide) wide

variable {matter : MatterType}

theorem small_bounds (small : matter ∈ smallTypes) (range : matter.range = some (low, high)) :
    -2 ^ 53 < low ∧ high < 2 ^ 53 := by
  obtain ⟨width, ⟨signed, rfl, rfl⟩ | ⟨unsigned, rfl, rfl⟩⟩ := range_cases range
  · have wide := small_width small (.inl signed)
    have power := pow_width_le (show width - 1 ≤ 32 by omega)
    omega
  · have power := pow_width_le (small_width small (.inr unsigned))
    omega

/-- A number inside the range of a type has the type. -/
theorem small_declared (small : matter ∈ smallTypes) (range : matter.range = some (low, high)) {number : ℤ}
    (above : low ≤ number) (below : number ≤ high) : matter.nested = false ∧ Declared matter (.whole number) := by
  have bounds := small_bounds small range
  have exact : Exact number := ⟨by omega, by omega⟩
  obtain ⟨width, ⟨signed, rfl, rfl⟩ | ⟨unsigned, rfl, rfl⟩⟩ := range_cases range
  · exact ⟨scalar_of_width (.inl signed), .signed signed above (by omega) exact⟩
  · exact ⟨scalar_of_width (.inr unsigned), .unsigned unsigned above (by omega) exact⟩

/-- A returning value is decoded from its encoding. -/
theorem Returns.decodes {type : Option String} {value result : JsValue}
    (returns : Returns toNumber none type value result) :
    ∃ text, writeFresh toNumber type value = .ok (some text) ∧ decode (some text) = .ok result := by
  obtain ⟨bytes, elementType, written, nonempty, reads⟩ := returns
  refine ⟨Base64.encode bytes, ?_, ?_⟩
  · rw [writeFresh, written]
    rfl
  · have read := (reads (enoughFuel bytes) (by unfold enoughFuel; omega)).complete
    rw [decode_base64 nonempty, readFresh, read]
    rfl

/-- A number inside the range is encoded and decoded. -/
theorem writeChecked_inside (small : matter ∈ smallTypes) (range : matter.range = some (low, high)) {number : ℤ}
    (above : low ≤ number) (below : number ≤ high) : ∃ text,
      writeChecked toNumber (some (.bounds low high)) matter.name (.whole number) = .ok (some text) ∧
      decode (some text) = .ok (.whole number) := by
  obtain ⟨scalar, declared⟩ := small_declared small range above below
  have returns := declared_returns toNumber byteTag_none declared
  rw [fieldResult_scalar scalar] at returns
  obtain ⟨text, written, decoded⟩ := returns.decodes
  refine ⟨text, ?_, decoded⟩
  have included : ¬((IntegerRange.bounds low high).excludes (.integral (.finite number)) = true) := by
    simp only [IntegerRange.excludes, Bool.or_eq_true, decide_eq_true_eq]
    omega
  rw [JsValue.whole, writeChecked, if_neg included]
  exact written

theorem writeChecked_excluded {range : IntegerRange} {value : JsNumber} (excluded : range.excludes value = true) :
    writeChecked toNumber (some range) type (.number value) = .ok none := by
  rw [writeChecked, if_pos excluded]

/-- A range excludes every number except the integers inside. -/
theorem excludes_outside {value : JsNumber}
    (outside : ∀ number, value = .integral (.finite number) → ¬(low ≤ number ∧ number ≤ high)) :
    (IntegerRange.bounds low high).excludes value = true := by
  cases value with
  | fraction bits => rfl
  | integral value =>
      cases value with
      | infinite negative => rfl
      | finite number =>
          have apart := outside number rfl
          simp only [IntegerRange.excludes, Bool.or_eq_true, decide_eq_true_eq]
          omega

theorem encode_number (named : type ≠ "string") (value : JsNumber) (base : JsValue) :
    encode toNumber toText inherited (.number value) (some type) base =
      writeChecked toNumber (rangeOf inherited type) type (.number value) := by
  rw [encode, if_neg named]
  dsimp only
  cases rangeOf inherited type <;> rfl

theorem encode_ranged_text (named : type ≠ "string") {base : Nat} {range : IntegerRange}
    (ranged : rangeOf inherited type = some range) (text : JsString) :
    encode toNumber toText inherited (.string text) (some type) (.whole base) =
      match parseInteger (.whole base) text with
      | none => .ok none
      | some parsed => writeChecked toNumber (some range) type (.number (.integral parsed)) := by
  rw [encode, if_neg named, ranged]
  rfl

variable (toNumber : JsValue → JsNumber) (toText : JsValue → Except Failure JsString)
variable (inherited : PropertyKey → Inherited)

/-- Encoding by an integer type of at most 32 bits returns an encoding exactly for a number of the range or a
numeral of the base that denotes one, and the encoding is decoded to that number. -/
theorem encode_small {base : Nat} {value : JsValue} (small : matter ∈ smallTypes)
    (range : matter.range = some (low, high)) (known : Base base)
    (input : (∃ number, value = .number number) ∨ ∃ text, value = .string text) :
    (∃ number text, Denotes base value number ∧ (low ≤ number ∧ number ≤ high) ∧
      encode toNumber toText inherited value (some matter.name) (.whole base) = .ok (some text) ∧
      decode (some text) = .ok (.whole number)) ∨
    ((∀ number, Denotes base value number → ¬(low ≤ number ∧ number ≤ high)) ∧
      encode toNumber toText inherited value (some matter.name) (.whole base) = .ok none) := by
  have named : ∀ matter ∈ smallTypes, matter.name ≠ "string" := by decide
  replace named := named matter small
  have checked : rangeOf inherited matter.name = some (.bounds low high) := by
    rw [rangeOf, lookup_integerRanges matter small, range]
  obtain ⟨lowest, highest⟩ := small_bounds small range
  by_cases inside : ∃ number, Denotes base value number ∧ low ≤ number ∧ number ≤ high
  · left
    obtain ⟨number, denotes, above, below⟩ := inside
    obtain ⟨text, written, decoded⟩ := @writeChecked_inside toNumber _ _ _ small range _ above below
    refine ⟨number, text, denotes, ⟨above, below⟩, ?_, decoded⟩
    rcases input with ⟨value, rfl⟩ | ⟨source, rfl⟩
    · change value = .integral (.finite number) at denotes
      rw [encode_number named, checked, denotes]
      exact written
    · obtain ⟨negative, magnitude, rfl, parsed⟩ := parseInteger_some known denotes
      rw [encode_ranged_text named checked, parsed, rounded_of_exact ⟨by omega, by omega⟩]
      exact written
  · right
    have outside : ∀ number, Denotes base value number → ¬(low ≤ number ∧ number ≤ high) :=
      fun number denotes bounds => inside ⟨number, denotes, bounds⟩
    refine ⟨outside, ?_⟩
    rcases input with ⟨value, rfl⟩ | ⟨source, rfl⟩
    · rw [encode_number named, checked]
      exact writeChecked_excluded (excludes_outside outside)
    · rw [encode_ranged_text named checked]
      by_cases numeral : ∃ number, Numeral base source number
      · obtain ⟨number, spelled⟩ := numeral
        obtain ⟨negative, magnitude, rfl, parsed⟩ := parseInteger_some known spelled
        rw [parsed]
        exact writeChecked_excluded (excludes_rounded lowest highest (outside _ spelled))
      · rw [parseInteger_none known fun number spelled => numeral ⟨number, spelled⟩]

/-- The text `-80` in base 16 is the lowest number of the type `int8`. -/
theorem encode_small_sample :
    (∃ number text, Denotes 16 (.string (units " -80 ")) number ∧ (-2 ^ 7 ≤ number ∧ number ≤ 2 ^ 7 - 1) ∧
      encode sampleConversion (fun _ => .ok []) objectPrototype (.string (units " -80 ")) (some "int8")
        (.whole (16 : Nat)) = .ok (some text) ∧ decode (some text) = .ok (.whole number)) ∨
    ((∀ number, Denotes 16 (.string (units " -80 ")) number → ¬(-2 ^ 7 ≤ number ∧ number ≤ 2 ^ 7 - 1)) ∧
      encode sampleConversion (fun _ => .ok []) objectPrototype (.string (units " -80 ")) (some "int8")
        (.whole (16 : Nat)) = .ok none) :=
  @encode_small _ _ .int8 sampleConversion (fun _ => .ok []) objectPrototype _ _ (by decide) rfl
    (.inr (.inr (.inr rfl))) (.inr ⟨_, rfl⟩)

end Encoding

section Wide
variable {toNumber : JsValue → JsNumber} {toText : JsValue → Except Failure JsString}
variable {inherited : PropertyKey → Inherited} {type : String} {base : Nat} {value : JsValue}

/-- The integer types of 64 bits. -/
def wideTypes : List String := ["int64", "uint64", "bitmap64"]

/-- A type of 64 bits has no range unless `Object.prototype` has a property of its name. -/
theorem rangeOf_wide (wide : type ∈ wideTypes) (plain : inherited (.name (units type)) = .nothing) :
    rangeOf inherited type = none := by
  have absent : ∀ type ∈ wideTypes, integerRanges.lookup type = none := by decide
  rw [rangeOf, absent type wide]
  dsimp only
  rw [if_pos plain]

/-- Without a range the value is written without any check. -/
theorem encode_wide (wide : type ∈ wideTypes) (plain : inherited (.name (units type)) = .nothing)
    (value base : JsValue) : encode toNumber toText inherited value (some type) base = writeFresh toNumber (some type) value := by
  have named : ∀ type ∈ wideTypes, type ≠ "string" := by decide
  rw [encode, if_neg (named type wide), rangeOf_wide wide plain]
  rfl

/-- A number below 2^53 returns from the type `int64`, and a natural number returns from the other two. -/
theorem wide_returns (wide : type ∈ wideTypes) {number : ℤ} (exact : Exact number)
    (fits : type = "int64" ∨ 0 ≤ number) : Returns toNumber none (some type) (.whole number) (.whole number) := by
  obtain ⟨above, below⟩ := exact
  have cases : type = "int64" ∨ signedType (some type) = false ∧ unsignedClass (.finite number) (some type) = 3 := by
    simp only [wideTypes, List.mem_cons, List.not_mem_nil, or_false] at wide
    rcases wide with rfl | rfl | rfl
    · exact .inl rfl
    · exact .inr ⟨by decide, by simp [unsignedClass, typed]⟩
    · exact .inr ⟨by decide, by simp [unsignedClass, typed]⟩
  by_cases named : type = "int64"
  · subst named
    have signed : MatterType.int64.signedWidth = some 64 := rfl
    exact signed_returns toNumber byteTag_none (by decide)
      (signedClass_fits signed (show -2 ^ 63 ≤ number by omega) (show number < 2 ^ 63 by omega)) ⟨above, below⟩
  · have natural := fits.resolve_left named
    obtain ⟨unsigned, class8⟩ := cases.resolve_left named
    have returns := unsigned_returns toNumber byteTag_none number unsigned
    have result : unsignedResult 3 number = number := by
      change toDoubleInt (number % 2 ^ 64) = number
      rw [show number % 2 ^ 64 = number by omega, toDoubleInt_eq above below]
    rw [class8, result] at returns
    exact returns

/-- The body of a text element is a text. -/
theorem readBody_text {container : Read (List Element)} {tag : Option ℤ} {size : Nat} (bound : size ≤ 2)
    {reader after : TlvReader} {element : Element}
    (read : readBody container tag (typeUtf8String + UInt8.ofNat size) reader = .ok (element, after)) :
    ∃ text, element.value = .string text := by
  have body : readBody container tag (typeUtf8String + UInt8.ofNat size) =
      (readLength size >>= readBytes) >>= fun bytes => pure (.item tag (.string (Utf8.decode bytes)) (typeUtf8String + UInt8.ofNat size)) := by
    rw [bind_assoc]
    interval_cases size <;> rfl
  rw [body, run_bind] at read
  obtain ⟨pair, -, last⟩ := ok_of_bind read
  injection last with last
  injection last with same
  subst same
  exact ⟨_, rfl⟩

/-- The encoding of a text is never decoded to anything but a text. -/
theorem decode_written_text (content : List UInt8) {result : JsValue}
    (decoded : decode (some (Base64.encode (writeCounted none typeUtf8String content))) = .ok result) :
    ∃ text, result = .string text := by
  have bound := lengthClass_le content.length
  have small := toNat_counted (show typeUtf8String.toNat < 30 by decide) content.length
  have split : writeCounted none typeUtf8String content =
      writeHead none (typeUtf8String + UInt8.ofNat (lengthClass content.length)) ++
        (lengthBytes content.length ++ content) := by
    rw [writeCounted, List.append_assoc]
    rfl
  rw [split] at decoded
  generalize lengthBytes content.length ++ content = body at decoded
  rw [decode_base64 (List.append_ne_nil_of_left_ne_nil (writeHead_ne_nil _ _) _)] at decoded
  obtain ⟨⟨element, after⟩, read, same⟩ := ok_of_bind decoded
  injection same with same
  have head := reads_readHead none small ⟨_, 0⟩ body (Nat.zero_le _) rfl
  rw [readFresh, enoughFuel, readElement_succ, run_bind, head] at read
  change readBody _ _ (control none _ &&& 0x1f) _ = _ at read
  rw [(control_split none small).1] at read
  obtain ⟨text, holds⟩ := readBody_text bound read
  exact ⟨text, same.symm.trans holds⟩

/-- A text given for a type of 64 bits is never decoded to a number and never refused. -/
theorem encode_wide_text (wide : type ∈ wideTypes) (plain : inherited (.name (units type)) = .nothing)
    (source : JsString) (base : JsValue) :
    ∃ text, encode toNumber toText inherited (.string source) (some type) base = .ok (some text) ∧
      ∀ number, decode (some text) ≠ .ok (.whole number) := by
  refine ⟨Base64.encode (writeCounted none typeUtf8String (Utf8.encode source)), ?_, ?_⟩
  · rw [encode_wide wide plain, writeFresh, writeElement]
    rfl
  · intro number decoded
    obtain ⟨text, same⟩ := decode_written_text _ decoded
    cases same

variable (toNumber : JsValue → JsNumber) (toText : JsValue → Except Failure JsString)
variable (inherited : PropertyKey → Inherited) (type : String) (base : Nat) (value : JsValue)

/-- A number of the type returns from its encoding. Another number and a text that is no numeral are refused. -/
def EncodesWide : Prop :=
  (∀ number, Exact number → Denotes base value number →
    if type = "int64" ∨ 0 ≤ number then
      ∃ text, encode toNumber toText inherited value (some type) (.whole base) = .ok (some text) ∧
        decode (some text) = .ok (.whole number)
    else encode toNumber toText inherited value (some type) (.whole base) = .ok none) ∧
  ∀ source, value = .string source → (∀ number, ¬Numeral base source number) →
    encode toNumber toText inherited value (some type) (.whole base) = .ok none

/-- The types of 64 bits encode exactly the numbers, and for the unsigned types exactly the natural numbers. -/
theorem encodesWide_iff {type : String} {base : Nat} {value : JsValue} (wide : type ∈ wideTypes)
    (plain : inherited (.name (units type)) = .nothing)
    (input : (∃ number, Exact number ∧ Denotes base value number) ∨
      ∃ source, value = .string source ∧ ∀ number, ¬Numeral base source number) :
    EncodesWide toNumber toText inherited type base value ↔
      ∃ number, value = .whole number ∧ (type = "int64" ∨ 0 ≤ number) := by
  constructor
  · rintro ⟨numbers, texts⟩
    rcases input with ⟨number, exact, denotes⟩ | ⟨source, rfl, refused⟩
    · have law := numbers number exact denotes
      cases value with
      | number value =>
          change value = .integral (.finite number) at denotes
          subst denotes
          refine ⟨number, rfl, ?_⟩
          by_contra outside
          rw [if_neg outside, encode_wide wide plain, writeFresh, writeElement] at law
          cases law
      | string source =>
          obtain ⟨text, written, other⟩ := @encode_wide_text toNumber toText _ _ wide plain source (.whole base)
          rw [written] at law
          split at law
          · obtain ⟨_, same, decoded⟩ := law
            injection same with same
            injection same with same
            subst same
            exact absurd decoded (other number)
          · cases law
      | undefined | null | boolean _ | bytes _ | array _ | object _ | function => exact denotes.elim
    · obtain ⟨text, written, -⟩ := @encode_wide_text toNumber toText _ _ wide plain source (.whole base)
      have law := texts source rfl refused
      rw [written] at law
      cases law
  · rintro ⟨number, rfl, fits⟩
    constructor
    · intro other exact denotes
      injection denotes with same
      injection same with same
      subst same
      rw [if_pos fits, encode_wide wide plain]
      exact (wide_returns wide exact fits).decodes
    · intro source same
      cases same

theorem encodesWide_iff_sample :
    EncodesWide sampleConversion (fun _ => .ok []) objectPrototype "uint64" 10 (.whole 4294967296) ↔
      ∃ number, JsValue.whole 4294967296 = .whole number ∧ ("uint64" = "int64" ∨ 0 ≤ number) :=
  encodesWide_iff sampleConversion (fun _ => .ok []) objectPrototype (by decide) (by decide +kernel)
    (.inl ⟨4294967296, ⟨by decide, by decide⟩, rfl⟩)

/-- The numeral `5` is encoded as a text for the type `int64`, and the number -1 is encoded for the type `uint64`. -/
theorem not_encodesWide :
    ¬EncodesWide sampleConversion (fun _ => .ok []) objectPrototype "int64" 10 (.string (units "5")) ∧
      ¬EncodesWide sampleConversion (fun _ => .ok []) objectPrototype "uint64" 10 (.whole (-1)) := by
  constructor
  · rintro ⟨numbers, -⟩
    have numeral : Numeral 10 (units "5") 5 :=
      ⟨[], false, [0x35], [5], .none, rfl, by decide, by decide, rfl⟩
    have law := numbers 5 ⟨by decide, by decide⟩ numeral
    rw [if_pos (.inl rfl)] at law
    obtain ⟨text, written, decoded⟩ := law
    obtain ⟨other, encoded, differs⟩ := @encode_wide_text sampleConversion (fun _ => .ok []) objectPrototype "int64"
      (by decide) (by decide +kernel) (units "5") (.whole (10 : Nat))
    rw [encoded] at written
    injection written with same
    injection same with same
    subst same
    exact differs 5 decoded
  · rintro ⟨numbers, -⟩
    have law := numbers (-1) ⟨by decide, by decide⟩ rfl
    rw [if_neg (by decide), encode_wide (by decide) (by decide +kernel), writeFresh, JsValue.whole, writeElement] at law
    cases law

end Wide
end Barton.Tlv
