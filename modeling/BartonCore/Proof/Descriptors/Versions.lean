import BartonCore.Construction.Descriptors.Versions
import Mathlib

namespace Barton.Descriptors
open Strtol

section Grammar

/-- A version has no blanks and no marks of the specification. -/
def isVersionCharacter (character : Char) : Bool :=
  !isSpace character && character ≠ ',' && character ≠ '-' && character ≠ '*'

/-- A text of version characters between blanks. -/
structure Padded where
  before : Text
  core : Text
  after : Text
  leading : ∀ character ∈ before, isSpace character = true
  plain : ∀ character ∈ core, isVersionCharacter character = true
  trailing : ∀ character ∈ after, isSpace character = true

def Padded.render (text : Padded) : Text := text.before ++ text.core ++ text.after

/-- An item is a version, or a range whose ends may be empty. -/
inductive Item where
  | version (text : Padded) (present : text.core ≠ [])
  | range (first second : Padded)

def Item.render : Item → Text
  | .version text _ => text.render
  | .range first second => first.render ++ '-' :: second.render

def Item.version? : Item → Option Padded
  | .version text _ => some text
  | .range _ _ => none

def Item.range? : Item → Option (Padded × Padded)
  | .version _ _ => none
  | .range first second => some (first, second)

/-- A specification is the wildcard or a list of items. -/
inductive Specification where
  | wildcard
  | items (first : Item) (rest : List Item)

def Specification.list : Specification → List Item
  | .wildcard => []
  | .items first rest => first :: rest

def Specification.versions (specification : Specification) : List Padded :=
  specification.list.filterMap Item.version?

def Specification.ranges (specification : Specification) : List (Padded × Padded) :=
  specification.list.filterMap Item.range?

def Specification.render : Specification → Text
  | .wildcard => ['*']
  | .items first rest => [','].intercalate ((first :: rest).map Item.render)

end Grammar

section Plain
variable {character : Char}

theorem not_mark_of_space (blank : isSpace character = true) :
    character ≠ ',' ∧ character ≠ '-' ∧ character ≠ '*' := by
  refine ⟨?_, ?_, ?_⟩ <;>
  · rintro rfl
    exact absurd blank (by decide)

theorem not_mark_of_version (plain : isVersionCharacter character = true) :
    character ≠ ',' ∧ character ≠ '-' ∧ character ≠ '*' := by
  unfold isVersionCharacter at plain
  simp only [Bool.and_eq_true, decide_eq_true_eq] at plain
  exact ⟨plain.1.1.2, plain.1.2, plain.2⟩

theorem Padded.not_mark (text : Padded) (member : character ∈ text.render) :
    character ≠ ',' ∧ character ≠ '-' ∧ character ≠ '*' := by
  rcases List.mem_append.mp member with inside | after
  · rcases List.mem_append.mp inside with before | core
    · exact not_mark_of_space (text.leading _ before)
    · exact not_mark_of_version (text.plain _ core)
  · exact not_mark_of_space (text.trailing _ after)

theorem Item.not_mark (item : Item) (member : character ∈ item.render) : character ≠ ',' ∧ character ≠ '*' := by
  cases item with
  | version text present =>
      obtain ⟨comma, _, star⟩ := text.not_mark member
      exact ⟨comma, star⟩
  | range first second =>
      rcases List.mem_append.mp member with left | right
      · obtain ⟨comma, _, star⟩ := first.not_mark left
        exact ⟨comma, star⟩
      · rcases List.mem_cons.mp right with rfl | right
        · decide
        · obtain ⟨comma, _, star⟩ := second.not_mark right
          exact ⟨comma, star⟩

/-- The core of a text has no blanks to trim. -/
theorem Padded.trimmed (text : Padded) : Trimmed text.core := by
  have visible (character : Char) (member : character ∈ text.core) : isSpace character = false := by
    have plain := text.plain character member
    unfold isVersionCharacter at plain
    simp only [Bool.and_eq_true, Bool.not_eq_true'] at plain
    exact plain.1.1.1
  exact ⟨fun character first => visible character (List.mem_of_mem_head? first),
    fun character last => visible character (List.mem_of_mem_getLast? last)⟩

/-- A list of items does not start with the wildcard. -/
theorem head_render (first : Item) (rest : List Item) : (Specification.items first rest).render.head? ≠ some '*' := by
  have star (items : List Item) : '*' ∉ [','].intercalate (items.map Item.render) := by
    induction items with
    | nil => exact List.not_mem_nil
    | cons item later ih =>
        cases later with
        | nil =>
            rw [List.map_singleton, List.intercalate_singleton]
            exact fun member => (item.not_mark member).2 rfl
        | cons second later =>
            rw [List.map_cons, List.map_cons, List.intercalate_cons_cons, List.append_assoc]
            intro member
            rcases List.mem_append.mp member with own | other
            · exact (item.not_mark own).2 rfl
            · rcases List.mem_append.mp other with comma | other
              · exact absurd (List.mem_singleton.mp comma) (by decide)
              · exact ih other
  intro head
  exact star (first :: rest) (List.mem_of_mem_head? head)

end Plain

section Parse
variable (utils : StringUtils) (forceDecimal : Bool)

/-- The stored form of an item's text. -/
def Padded.value (text : Padded) : Text := versionValue utils forceDecimal text.render

/-- The stored form of a range. -/
def storedRange (range : Padded × Padded) : VersionRange :=
  ⟨range.1.value utils forceDecimal, range.2.value utils forceDecimal⟩

theorem parseZigbeeDeviceVersionRange_render (first second : Padded) :
    parseZigbeeDeviceVersionRange utils (first.render ++ '-' :: second.render) forceDecimal =
      storedRange utils forceDecimal (first, second) := by
  have left : '-' ∉ first.render := fun member => (first.not_mark member).2.1 rfl
  have right : '-' ∉ second.render := fun member => (second.not_mark member).2.1 rfl
  unfold parseZigbeeDeviceVersionRange
  rw [List.splitOn_append_cons_self_of_not_mem left, List.splitOn_eq_singleton right]
  rfl

/-- A token adds a version, or it takes the place of the range. -/
theorem parseToken_render (list : DeviceVersionList) (item : Item) (plain : list.listType ≠ .wildcard) :
    (parseToken utils forceDecimal list item.render).listType ≠ .wildcard ∧
      (parseToken utils forceDecimal list item.render).versionList =
        list.versionList.map (fun versions =>
          versions ++ item.version?.toList.map (Padded.value utils forceDecimal)) ∧
      (parseToken utils forceDecimal list item.render).versionRange =
        (item.range?.map (storedRange utils forceDecimal)).or list.versionRange := by
  unfold parseToken
  cases item with
  | version text present =>
      have unmarked : '-' ∉ (Item.version text present).render := fun member => (text.not_mark member).2.1 rfl
      rw [if_neg unmarked]
      exact ⟨plain, rfl, rfl⟩
  | range first second =>
      have marked : '-' ∈ (Item.range first second).render :=
        List.mem_append_right _ List.mem_cons_self
      rw [if_pos marked]
      refine ⟨nofun, ?_, ?_⟩
      · simp [Item.version?]
      · exact congrArg some (parseZigbeeDeviceVersionRange_render utils forceDecimal first second)

/-- The tokens add their versions, and the last range stays. -/
theorem foldl_parseToken (items : List Item) (list : DeviceVersionList) {versions : List Text}
    (plain : list.listType ≠ .wildcard) (known : list.versionList = some versions) :
    ((items.map Item.render).foldl (parseToken utils forceDecimal) list).listType ≠ .wildcard ∧
      ((items.map Item.render).foldl (parseToken utils forceDecimal) list).versionList =
        some (versions ++ (items.filterMap Item.version?).map (Padded.value utils forceDecimal)) ∧
      ((items.map Item.render).foldl (parseToken utils forceDecimal) list).versionRange =
        ((items.filterMap Item.range?).getLast?.map (storedRange utils forceDecimal)).or list.versionRange := by
  induction items generalizing list versions with
  | nil => simpa using ⟨plain, known⟩
  | cons item rest ih =>
      obtain ⟨later, added, range⟩ := parseToken_render utils forceDecimal list item plain
      rw [known, Option.map_some] at added
      obtain ⟨plain, versions, ranges⟩ := ih _ later added
      rw [List.map_cons, List.foldl_cons]
      refine ⟨plain, ?_, ?_⟩
      · rw [versions]
        cases item with
        | version text present => simp [Item.version?]
        | range first second =>
            have skipped : (Item.range first second).version? = none := rfl
            rw [List.filterMap_cons_none skipped, skipped]
            simp
      · rw [ranges, range]
        cases item with
        | version text present => simp [Item.range?]
        | range first second =>
            have taken : (Item.range first second).range? = some (first, second) := rfl
            rw [List.filterMap_cons_some taken, List.getLast?_cons, taken]
            cases (rest.filterMap Item.range?).getLast? with
            | none | some => rfl

theorem stringToLowerCase_idem (text : Text) : stringToLowerCase (stringToLowerCase text) = stringToLowerCase text := by
  unfold stringToLowerCase
  rw [List.map_map]
  apply List.map_congr_left
  intro character _
  exact Char.toLower_toLower_eq_toLower character

/-- The case of an allowed version does not matter. -/
theorem stringCompare_lower (allowedVersion versionInput : Text) :
    utils.stringCompare (stringToLowerCase allowedVersion) versionInput true = 0 ↔
      utils.stringCompare allowedVersion versionInput true = 0 := by
  rw [utils.stringCompare_ignoreCase, utils.stringCompare_ignoreCase, stringToLowerCase_idem]

theorem versionInAllowedList_iff (versionInput : Text) (versions : List Text) :
    versionInAllowedList utils versionInput (some versions) = true ↔
      ∃ allowedVersion ∈ versions, utils.stringCompare allowedVersion versionInput true = 0 := by
  unfold versionInAllowedList
  rw [Option.getD_some, List.any_eq_true]
  simp only [decide_eq_true_eq]

theorem versionInRange_of_list {list : DeviceVersionList} (plain : list.listType ≠ .wildcard) (versionInput : Text) :
    versionInRange utils versionInput list = true ↔
      versionInAllowedList utils versionInput list.versionList = true ∨
        versionInAllowedRange utils versionInput list.versionRange = true := by
  unfold versionInRange
  rw [if_neg plain, Bool.or_eq_true]

/-- A parsed list accepts its versions and its last range. -/
theorem versionInRange_items (first : Item) (rest : List Item) (versionInput : Text) :
    versionInRange utils versionInput
        (parseZigbeeDeviceVersion utils (Specification.items first rest).render forceDecimal) = true ↔
      (∃ text ∈ (Specification.items first rest).versions,
        utils.stringCompare (text.value utils forceDecimal) versionInput true = 0) ∨
      versionInAllowedRange utils versionInput
        ((Specification.items first rest).ranges.getLast?.map (storedRange utils forceDecimal)) = true := by
  unfold parseZigbeeDeviceVersion
  rw [if_neg (head_render first rest)]
  cases rest with
  | nil =>
      have alone : (Specification.items first []).render = first.render := List.intercalate_singleton
      have unmarked : ',' ∉ first.render := fun member => (first.not_mark member).1 rfl
      rw [alone, if_neg unmarked]
      cases first with
      | version text present =>
          have single : '-' ∉ (Item.version text present).render := fun member => (text.not_mark member).2.1 rfl
          rw [if_neg single]
          refine (versionInRange_of_list utils (by exact nofun) versionInput).trans (or_congr ?_ Iff.rfl)
          rw [versionInAllowedList_iff]
          have versions : (Specification.items (.version text present) []).versions = [text] := rfl
          rw [versions]
          simp only [List.mem_singleton, exists_eq_left]
          unfold Padded.value versionValue
          cases forceDecimal with
          | true => exact Iff.rfl
          | false => exact (stringCompare_lower utils _ _).symm
      | range first second =>
          have marked : '-' ∈ (Item.range first second).render := List.mem_append_right _ List.mem_cons_self
          rw [if_pos marked]
          have stored := parseZigbeeDeviceVersionRange_render utils forceDecimal first second
          unfold Item.render
          dsimp only
          rw [stored]
          refine (versionInRange_of_list utils (by exact nofun) versionInput).trans (or_congr ?_ Iff.rfl)
          constructor
          · intro found
            cases found
          · rintro ⟨text, member, _⟩
            cases member
  | cons second later =>
      have text : (Specification.items first (second :: later)).render =
          [','].intercalate ((first :: second :: later).map Item.render) := rfl
      have marked : ',' ∈ (Specification.items first (second :: later)).render := by
        rw [text, List.map_cons, List.map_cons, List.intercalate_cons_cons, List.append_assoc]
        exact List.mem_append_right _ (List.mem_append_left _ (List.mem_singleton_self _))
      have split : (Specification.items first (second :: later)).render.splitOn ',' =
          (first :: second :: later).map Item.render := by
        rw [text]
        apply List.splitOn_intercalate
        · intro render member
          obtain ⟨item, _, rfl⟩ := List.mem_map.mp member
          exact fun comma => (item.not_mark comma).1 rfl
        · exact List.cons_ne_nil _ _
      obtain ⟨plain, versions, ranges⟩ := foldl_parseToken utils forceDecimal (first :: second :: later)
        ⟨.list, some [], none⟩ nofun rfl
      rw [if_pos marked, split, versionInRange_of_list utils plain, versions, ranges, List.nil_append,
        versionInAllowedList_iff, Option.or_none]
      apply or_congr _ Iff.rfl
      constructor
      · rintro ⟨allowedVersion, member, same⟩
        obtain ⟨text, inside, rfl⟩ := List.mem_map.mp member
        exact ⟨text, inside, same⟩
      · rintro ⟨text, inside, same⟩
        exact ⟨_, List.mem_map_of_mem inside, same⟩

end Parse

section Law

/-- A specification accepts everything, or its listed versions and ranges. -/
def Accepted (equal : Text → Prop) (within : Text → Text → Prop) : Specification → Prop
  | .wildcard => True
  | .items first rest =>
      (∃ text ∈ (Specification.items first rest).versions, equal text.core) ∨
        ∃ range ∈ (Specification.items first rest).ranges, within range.1.core range.2.core

variable (utils : StringUtils)

/-- The firmware version lies between the ends, and an empty end is unbounded. -/
def FirmwareWithin (versionInput fromRange toRange : Text) : Prop :=
  ∃ input, utils.stringToUint64 versionInput = some input ∧
    (fromRange = [] ∨ ∃ minValue, utils.stringToUint64 fromRange = some minValue ∧ minValue ≤ input) ∧
    (toRange = [] ∨ ∃ maxValue, utils.stringToUint64 toRange = some maxValue ∧ input ≤ maxValue)

def FirmwareEqual (versionInput version : Text) : Prop := utils.stringCompare version versionInput true = 0

/-- The hardware version lies between the ends, and an empty end is unbounded. -/
def HardwareWithin (number : Nat) (fromRange toRange : Text) : Prop :=
  (fromRange = [] ∨ ∃ minValue, numeral fromRange = some minValue ∧ minValue ≤ number) ∧
    (toRange = [] ∨ ∃ maxValue, numeral toRange = some maxValue ∧ number ≤ maxValue)

def HardwareEqual (number : Nat) (version : Text) : Prop := numeral version = some number

/-- The versions and the ends of the ranges are numerals. -/
structure Specification.Numeric (specification : Specification) : Prop where
  versions : ∀ text ∈ specification.versions, ∃ number, numeral text.core = some number
  ranges : ∀ range ∈ specification.ranges, (range.1.core = [] ∨ ∃ number, numeral range.1.core = some number) ∧
    (range.2.core = [] ∨ ∃ number, numeral range.2.core = some number)

/-- The firmware version of a device is a text. -/
def FirmwareLaw (specification : Specification) : Prop := ∀ versionInput,
  versionInRange utils versionInput (parseZigbeeDeviceVersion utils specification.render false) = true ↔
    Accepted (FirmwareEqual utils versionInput) (FirmwareWithin utils versionInput) specification

/-- The hardware version of a device is a decimal numeral. -/
def HardwareLaw (specification : Specification) : Prop := ∀ number,
  versionInRange utils (decimal number) (parseZigbeeDeviceVersion utils specification.render true) = true ↔
    Accepted (HardwareEqual number) (HardwareWithin number) specification

end Law

section Conditions

/-- The last range and the listed versions cover the other ranges. -/
def FirmwareCovered (utils : StringUtils) (specification : Specification) : Prop :=
  ∀ versionInput, ∀ range ∈ specification.ranges, FirmwareWithin utils versionInput range.1.core range.2.core →
    (∃ text ∈ specification.versions, FirmwareEqual utils versionInput text.core) ∨
      ∃ last, specification.ranges.getLast? = some last ∧
        FirmwareWithin utils versionInput last.1.core last.2.core

/-- A numeral is stored with 32 bits, and an empty end is stored as zero. -/
def reading (core : Text) : Nat := ((numeral core).elim 0 fun number => min number (2 ^ 63 - 1)) % 2 ^ 32

/-- The number lies between the stored ends of the last range. -/
def Stored (number : Nat) (specification : Specification) : Prop :=
  ∃ last, specification.ranges.getLast? = some last ∧ reading last.1.core ≤ number ∧ number ≤ reading last.2.core

/-- The versions and the upper ends fit 32 bits, and the stored range covers the others. -/
structure HardwareCovered (specification : Specification) : Prop where
  versions : ∀ text ∈ specification.versions, ∀ number, numeral text.core = some number → number < 2 ^ 32
  bounded : ∀ range ∈ specification.ranges, (∃ number, numeral range.2.core = some number ∧ number < 2 ^ 32) ∨
    ∀ number, ¬ HardwareWithin number range.1.core range.2.core
  covered : ∀ range ∈ specification.ranges, ∀ number, HardwareWithin number range.1.core range.2.core →
    (∃ text ∈ specification.versions, HardwareEqual number text.core) ∨ Stored number specification
  stored : ∀ number, Stored number specification →
    (∃ text ∈ specification.versions, HardwareEqual number text.core) ∨
      ∃ range ∈ specification.ranges, HardwareWithin number range.1.core range.2.core

end Conditions

section Firmware
variable {utils : StringUtils} {versionInput : Text}

theorem versionInAllowedRange_iff (range : VersionRange) :
    versionInAllowedRange utils versionInput (some range) = true ↔ ∃ input,
      utils.stringToUint64 versionInput = some input ∧
      (∃ minValue, endValue utils range.fromRange 0 = some minValue ∧ minValue ≤ input) ∧
      ∃ maxValue, endValue utils range.toRange 18446744073709551615 = some maxValue ∧ input ≤ maxValue := by
  unfold versionInAllowedRange
  cases utils.stringToUint64 versionInput with
  | none => simp
  | some input =>
      cases low : endValue utils range.fromRange 0 with
      | none => simp [low]
      | some minValue =>
          cases high : endValue utils range.toRange 18446744073709551615 with
          | none | some => simp [low, high]

/-- A default that passes the comparison leaves an empty end unbounded. -/
theorem endValue_iff (version : Text) {default_ : UInt64} {property : UInt64 → Prop} (holds : property default_) :
    (∃ value, endValue utils version default_ = some value ∧ property value) ↔
      version = [] ∨ ∃ value, utils.stringToUint64 version = some value ∧ property value := by
  unfold endValue
  by_cases empty : version = []
  · rw [if_pos empty]
    exact iff_of_true ⟨default_, rfl, holds⟩ (Or.inl empty)
  · rw [if_neg empty]
    exact (or_iff_right empty).symm

theorem endValue_lower (version : Text) (default_ : UInt64) :
    endValue utils (stringToLowerCase version) default_ = endValue utils version default_ := by
  unfold endValue
  rw [utils.stringToUint64_lower]
  unfold stringToLowerCase
  simp only [List.map_eq_nil_iff]

theorem value_firmware (text : Padded) : text.value utils false = stringToLowerCase text.core := by
  have trims := utils.trimString_eq text.before text.core text.after text.leading text.trailing text.trimmed
  exact congrArg stringToLowerCase trims

theorem storedRange_firmware (range : Padded × Padded) :
    versionInAllowedRange utils versionInput (some (storedRange utils false range)) = true ↔
      FirmwareWithin utils versionInput range.1.core range.2.core := by
  have lowest (input : UInt64) : (0 : UInt64) ≤ input := UInt64.zero_le
  have highest (input : UInt64) : input ≤ 18446744073709551615 := by
    rw [UInt64.le_iff_toNat_le]
    have bound := input.toNat_lt
    have top : UInt64.toNat 18446744073709551615 = 18446744073709551615 := rfl
    omega
  rw [versionInAllowedRange_iff]
  unfold storedRange FirmwareWithin
  dsimp only
  rw [value_firmware, value_firmware, endValue_lower, endValue_lower]
  apply exists_congr
  intro input
  apply and_congr_right
  intro _
  apply and_congr
  · exact endValue_iff range.1.core (lowest input)
  · exact endValue_iff range.2.core (highest input)

/-- The parsed firmware versions accept the listed versions and the last range. -/
theorem versionInRange_firmware (first : Item) (rest : List Item) :
    versionInRange utils versionInput
        (parseZigbeeDeviceVersion utils (Specification.items first rest).render false) = true ↔
      (∃ text ∈ (Specification.items first rest).versions, FirmwareEqual utils versionInput text.core) ∨
      ∃ last, (Specification.items first rest).ranges.getLast? = some last ∧
        FirmwareWithin utils versionInput last.1.core last.2.core := by
  rw [versionInRange_items]
  simp only [value_firmware, stringCompare_lower]
  apply or_congr Iff.rfl
  cases (Specification.items first rest).ranges.getLast? with
  | none => simp [versionInAllowedRange]
  | some last => simp [storedRange_firmware]

/-- The firmware law holds when the last range covers the others. -/
theorem firmwareLaw_iff (specification : Specification) :
    FirmwareLaw utils specification ↔ FirmwareCovered utils specification := by
  cases specification with
  | wildcard =>
      apply iff_of_true
      · exact fun versionInput => iff_of_true rfl trivial
      · intro versionInput range member
        cases member
  | items first rest =>
      constructor
      · intro law versionInput range member within
        exact (versionInRange_firmware first rest).mp ((law versionInput).mpr (Or.inr ⟨range, member, within⟩))
      · intro covered versionInput
        rw [versionInRange_firmware]
        constructor
        · rintro (listed | ⟨last, position, within⟩)
          · exact Or.inl listed
          · exact Or.inr ⟨last, List.mem_of_getLast? position, within⟩
        · rintro (listed | ⟨range, member, within⟩)
          · exact Or.inl listed
          · exact covered versionInput range member within

end Firmware

section Hardware
variable {utils : StringUtils}

theorem decimal_ne_nil (number : Nat) : decimal number ≠ [] := Nat.toDigits_ne_nil

theorem decimal_inj {first second : Nat} (same : decimal first = decimal second) : first = second := by
  have equal := congrArg (fun digits => Nat.ofDigitChars 10 digits 0) same
  unfold decimal at equal
  rwa [Nat.ofDigitChars_ten_toDigits, Nat.ofDigitChars_ten_toDigits] at equal

theorem isDigit_decimal {number : Nat} {character : Char} (member : character ∈ decimal number) :
    48 ≤ character.toNat ∧ character.toNat ≤ 57 :=
  Char.isDigit_iff_toNat.mp (Nat.isDigit_of_mem_toDigits (by decide) (by decide) member)

/-- The numerals have no blanks. -/
theorem trimmed_decimal (number : Nat) : Trimmed (decimal number) := by
  have visible (character : Char) (member : character ∈ decimal number) : isSpace character = false := by
    obtain ⟨low, _⟩ := isDigit_decimal member
    by_contra blank
    have bound := toNat_space (Bool.of_not_eq_false blank)
    omega
  exact ⟨fun character first => visible character (List.mem_of_mem_head? first),
    fun character last => visible character (List.mem_of_mem_getLast? last)⟩

/-- The numerals have no letters. -/
theorem stringToLowerCase_decimal (number : Nat) : stringToLowerCase (decimal number) = decimal number := by
  unfold stringToLowerCase
  apply (List.map_congr_left _).trans (List.map_id _)
  intro character member
  obtain ⟨_, high⟩ := isDigit_decimal member
  have small : ¬ character.isUpper = true := by
    intro upper
    have bound : 65 ≤ character.toNat := by
      simp [Char.isUpper, UInt32.le_iff_toNat_le] at upper
      exact upper.1
    omega
  exact Char.toLower_eq_of_not_isUpper small

theorem stringCompare_decimal (first second : Nat) :
    utils.stringCompare (decimal first) (decimal second) true = 0 ↔ first = second := by
  rw [utils.stringCompare_ignoreCase, stringToLowerCase_decimal, stringToLowerCase_decimal]
  exact ⟨decimal_inj, congrArg decimal⟩

theorem reading_lt (core : Text) : reading core < 2 ^ 32 := Nat.mod_lt _ (by decide)

/-- A version or an end is stored as the numeral of its reading. -/
theorem value_hardware (text : Padded) (reads : text.core = [] ∨ ∃ number, numeral text.core = some number) :
    text.value utils true = decimal (reading text.core) := by
  have read : (strtol text.render % 2 ^ 32).toNat = reading text.core := by
    unfold Padded.render reading
    rcases reads with empty | ⟨number, known⟩
    · have blanks : ∀ character ∈ text.before ++ text.core ++ text.after, isSpace character = true := by
        rw [empty, List.append_nil]
        intro character member
        exact (List.mem_append.mp member).elim (text.leading character) (text.trailing character)
      rw [strtol_blank blanks, empty]
      rfl
    · rw [strtol_numeral known text.leading text.trailing, known, Option.elim_some]
      omega
  have trims := utils.trimString_eq [] (decimal (reading text.core)) [] nofun nofun (trimmed_decimal _)
  rw [List.nil_append, List.append_nil] at trims
  unfold Padded.value versionValue versionStringToDecimalString
  rw [if_pos rfl, read, trims]

theorem endValue_decimal {number : Nat} (small : number < 2 ^ 64) (default_ : UInt64) :
    endValue utils (decimal number) default_ = some (UInt64.ofNat number) := by
  unfold endValue
  rw [if_neg (decimal_ne_nil number), utils.stringToUint64_decimal, if_pos small]

/-- A numeral lies between two stored ends. -/
theorem versionInAllowedRange_decimal {low high : Nat} (small : low < 2 ^ 64) (bound : high < 2 ^ 64) (number : Nat) :
    versionInAllowedRange utils (decimal number) (some ⟨decimal low, decimal high⟩) = true ↔
      low ≤ number ∧ number ≤ high := by
  rw [versionInAllowedRange_iff]
  dsimp only
  rw [endValue_decimal small, endValue_decimal bound, utils.stringToUint64_decimal]
  simp only [Option.some.injEq, exists_eq_left']
  by_cases fits : number < 2 ^ 64
  · rw [if_pos fits]
    simp only [Option.some.injEq, exists_eq_left', UInt64.le_iff_toNat_le, UInt64.toNat_ofNat_of_lt' fits,
      UInt64.toNat_ofNat_of_lt' small, UInt64.toNat_ofNat_of_lt' bound]
  · rw [if_neg fits]
    constructor
    · rintro ⟨input, absent, _⟩
      cases absent
    · rintro ⟨_, upper⟩
      omega

/-- The parsed hardware versions accept the stored versions and the stored range. -/
theorem versionInRange_hardware (utils : StringUtils) (first : Item) (rest : List Item)
    (numeric : (Specification.items first rest).Numeric) (number : Nat) :
    versionInRange utils (decimal number)
        (parseZigbeeDeviceVersion utils (Specification.items first rest).render true) = true ↔
      (∃ text ∈ (Specification.items first rest).versions, reading text.core = number) ∨
        Stored number (Specification.items first rest) := by
  rw [versionInRange_items]
  apply or_congr
  · apply exists_congr
    intro text
    apply and_congr_right
    intro listed
    rw [value_hardware text (Or.inr (numeric.versions text listed)), stringCompare_decimal]
  · unfold Stored
    cases position : (Specification.items first rest).ranges.getLast? with
    | none => simp [versionInAllowedRange]
    | some last =>
        obtain ⟨lower, upper⟩ := numeric.ranges last (List.mem_of_getLast? position)
        have small := reading_lt last.1.core
        have bound := reading_lt last.2.core
        rw [Option.map_some]
        unfold storedRange
        rw [value_hardware last.1 lower, value_hardware last.2 upper,
          versionInAllowedRange_decimal (small.trans (by decide)) (bound.trans (by decide))]
        simp only [Option.some.injEq, exists_eq_left']

theorem reading_numeral {core : Text} {number : Nat} (known : numeral core = some number) (small : number < 2 ^ 32) :
    reading core = number := by
  unfold reading
  rw [known, Option.elim_some]
  omega

/-- A stored number fits 32 bits. -/
theorem Stored.lt {number : Nat} {specification : Specification} (stored : Stored number specification) :
    number < 2 ^ 32 := by
  obtain ⟨last, _, _, upper⟩ := stored
  exact upper.trans_lt (reading_lt last.2.core)

/-- A range without an upper end that fits 32 bits has a number that does not fit them. -/
theorem exists_large {lower upper : Text} {number : Nat} (within : HardwareWithin number lower upper)
    (unfit : ¬ ∃ maximum, numeral upper = some maximum ∧ maximum < 2 ^ 32) :
    ∃ large, HardwareWithin large lower upper ∧ 2 ^ 32 ≤ large := by
  obtain ⟨low, high⟩ := within
  have raised (larger : Nat) (above : number ≤ larger) :
      lower = [] ∨ ∃ minValue, numeral lower = some minValue ∧ minValue ≤ larger := by
    rcases low with empty | ⟨minValue, known, below⟩
    · exact Or.inl empty
    · exact Or.inr ⟨minValue, known, below.trans above⟩
  rcases high with empty | ⟨maxValue, known, above⟩
  · exact ⟨max number (2 ^ 32), ⟨raised _ (Nat.le_max_left _ _), Or.inl empty⟩, Nat.le_max_right _ _⟩
  · have large : 2 ^ 32 ≤ maxValue := by
      by_contra small
      exact unfit ⟨maxValue, known, Nat.lt_of_not_le small⟩
    exact ⟨maxValue, ⟨raised _ above, Or.inr ⟨maxValue, known, Nat.le_refl _⟩⟩, large⟩

/-- Small versions are stored as they are. -/
theorem listed_iff {specification : Specification} (numeric : specification.Numeric)
    (small : ∀ text ∈ specification.versions, ∀ number, numeral text.core = some number → number < 2 ^ 32)
    (number : Nat) : (∃ text ∈ specification.versions, reading text.core = number) ↔
      ∃ text ∈ specification.versions, HardwareEqual number text.core := by
  apply exists_congr
  intro text
  apply and_congr_right
  intro listed
  obtain ⟨value, known⟩ := numeric.versions text listed
  unfold HardwareEqual
  rw [reading_numeral known (small text listed value known), known, Option.some.injEq]

/-- The law leaves no number that is not stored. -/
theorem HardwareLaw.covered {first : Item} {rest : List Item} (numeric : (Specification.items first rest).Numeric)
    (law : HardwareLaw utils (.items first rest)) : HardwareCovered (.items first rest) := by
  have stores (number : Nat)
      (allowed : Accepted (HardwareEqual number) (HardwareWithin number) (Specification.items first rest)) :
      (∃ text ∈ (Specification.items first rest).versions, reading text.core = number) ∨
        Stored number (Specification.items first rest) :=
    (versionInRange_hardware utils first rest numeric number).mp ((law number).mpr allowed)
  have fits (number : Nat)
      (allowed : Accepted (HardwareEqual number) (HardwareWithin number) (Specification.items first rest)) :
      number < 2 ^ 32 := by
    rcases stores number allowed with ⟨text, _, rfl⟩ | stored
    · exact reading_lt text.core
    · exact stored.lt
  have small : ∀ text ∈ (Specification.items first rest).versions, ∀ number,
      numeral text.core = some number → number < 2 ^ 32 :=
    fun text listed number known => fits number (Or.inl ⟨text, listed, known⟩)
  constructor
  · exact small
  · intro range member
    by_contra unbounded
    obtain ⟨unfit, inhabited⟩ := not_or.mp unbounded
    obtain ⟨number, within⟩ := not_forall_not.mp inhabited
    obtain ⟨large, inside, above⟩ := exists_large within unfit
    have below := fits large (Or.inr ⟨range, member, inside⟩)
    omega
  · intro range member number within
    exact (stores number (Or.inr ⟨range, member, within⟩)).imp_left (listed_iff numeric small number).mp
  · intro number stored
    exact (law number).mp ((versionInRange_hardware utils first rest numeric number).mpr (Or.inr stored))

theorem HardwareCovered.law {first : Item} {rest : List Item} (numeric : (Specification.items first rest).Numeric)
    (covered : HardwareCovered (.items first rest)) : HardwareLaw utils (.items first rest) := by
  intro number
  rw [versionInRange_hardware utils first rest numeric number, listed_iff numeric covered.versions]
  constructor
  · rintro (listed | stored)
    · exact Or.inl listed
    · exact covered.stored number stored
  · rintro (listed | ⟨range, member, within⟩)
    · exact Or.inl listed
    · exact covered.covered range member number within

/-- The hardware law holds when the stored versions and the stored range cover the specification. -/
theorem hardwareLaw_iff (specification : Specification) (numeric : specification.Numeric) :
    HardwareLaw utils specification ↔ HardwareCovered specification := by
  cases specification with
  | wildcard =>
      apply iff_of_true
      · exact fun number => iff_of_true rfl trivial
      · refine ⟨nofun, nofun, nofun, ?_⟩
        rintro number ⟨last, position, _⟩
        cases position
  | items first rest => exact ⟨HardwareLaw.covered numeric, HardwareCovered.law numeric⟩

end Hardware

section Law

/-- The laws hold exactly for the specifications that the stored versions and the stored range cover. -/
theorem versionInRange_iff (utils : StringUtils) (specification : Specification) :
    (FirmwareLaw utils specification ↔ FirmwareCovered utils specification) ∧
      (specification.Numeric → (HardwareLaw utils specification ↔ HardwareCovered specification)) :=
  ⟨firmwareLaw_iff specification, hardwareLaw_iff specification⟩

end Law

section Ascii

def trimAscii (text : Text) : Text := ((text.dropWhile isSpace).reverse.dropWhile isSpace).reverse

/-- The decimal numerals of 64 bits are read. -/
def readAscii (text : Text) : Option UInt64 :=
  let number := Nat.ofDigitChars 10 (stringToLowerCase text) 0
  if decimal number = stringToLowerCase text ∧ number < 2 ^ 64 then some (UInt64.ofNat number) else none

def compareAscii (first second : Text) (ignoreCase : Bool) : ℤ :=
  if ignoreCase then (if stringToLowerCase first = stringToLowerCase second then 0 else 1)
  else if first = second then 0 else 1

theorem trimAscii_eq {before core after : Text} (leading : ∀ character ∈ before, isSpace character = true)
    (trailing : ∀ character ∈ after, isSpace character = true) (trimmed : Trimmed core) :
    trimAscii (before ++ core ++ after) = core := by
  have kept (text : Text) (visible : ∀ character ∈ text.head?, isSpace character = false) :
      text.dropWhile isSpace = text := by
    cases text with
    | nil => rfl
    | cons first rest => exact List.dropWhile_cons_of_neg (by simp [visible first rfl])
  have backwards : ∀ character ∈ after.reverse, isSpace character = true :=
    fun character member => trailing character (List.mem_reverse.mp member)
  unfold trimAscii
  rw [List.append_assoc, List.dropWhile_append_of_pos leading]
  by_cases empty : core = []
  · rw [empty, List.nil_append, List.dropWhile_eq_nil_iff.mpr trailing]
    rfl
  · obtain ⟨first, rest, rfl⟩ := List.exists_cons_of_ne_nil empty
    have visible := trimmed.1 first rfl
    rw [List.cons_append, List.dropWhile_cons_of_neg (by simp [visible]), ← List.cons_append, List.reverse_append,
      List.dropWhile_append_of_pos backwards, kept _ (by rw [List.head?_reverse]; exact trimmed.2),
      List.reverse_reverse]

/-- These functions behave as documented. -/
def asciiUtils : StringUtils where
  trimString := trimAscii
  stringToUint64 := readAscii
  stringCompare := compareAscii
  trimString_eq := fun _ _ _ => trimAscii_eq
  stringToUint64_decimal := by
    intro number
    unfold readAscii
    dsimp only
    rw [stringToLowerCase_decimal]
    have reads : Nat.ofDigitChars 10 (decimal number) 0 = number := Nat.ofDigitChars_ten_toDigits
    rw [reads]
    by_cases fits : number < 2 ^ 64
    · rw [if_pos ⟨rfl, fits⟩, if_pos fits]
    · rw [if_neg fun both => fits both.2, if_neg fits]
  stringToUint64_lower := by
    intro text
    unfold readAscii
    dsimp only
    rw [stringToLowerCase_idem]
  stringCompare_ignoreCase := by
    intro first second
    unfold compareAscii
    rw [if_pos rfl]
    by_cases same : stringToLowerCase first = stringToLowerCase second
    · rw [if_pos same]
      exact iff_of_true rfl same
    · rw [if_neg same]
      exact iff_of_false (by decide) same

def plainText (core : Text) (plain : core.all isVersionCharacter = true) : Padded :=
  ⟨[], core, [], nofun, List.all_eq_true.mp plain, nofun⟩

/-- This is the range from 5 without an upper end. -/
def openRange : Specification := .items (.range (plainText ['5'] (by decide)) (plainText [] (by decide))) []

/-- These are the ranges from 1 to 3 and from 7 to 9. -/
def twoRanges : Specification := .items
  (.range (plainText ['1'] (by decide)) (plainText ['3'] (by decide)))
  [.range (plainText ['7'] (by decide)) (plainText ['9'] (by decide))]

theorem openRange_ranges {range : Padded × Padded} (member : range ∈ openRange.ranges) :
    range.1.core = ['5'] ∧ range.2.core = [] := by
  cases List.mem_singleton.mp member
  exact ⟨rfl, rfl⟩

theorem numeric_openRange : openRange.Numeric := by
  refine ⟨nofun, ?_⟩
  intro range member
  obtain ⟨first, second⟩ := openRange_ranges member
  rw [first, second]
  exact ⟨Or.inr ⟨5, by decide⟩, Or.inl rfl⟩

theorem versionInRange_iff_open : FirmwareLaw asciiUtils openRange ∧ ¬ HardwareLaw asciiUtils openRange := by
  obtain ⟨firmware, hardware⟩ := versionInRange_iff asciiUtils openRange
  constructor
  · rw [firmware]
    intro versionInput range member within
    refine Or.inr ⟨range, ?_, within⟩
    cases List.mem_singleton.mp member
    rfl
  · rw [hardware numeric_openRange]
    intro covered
    rcases covered.bounded _ List.mem_cons_self with ⟨number, known, _⟩ | absent
    · cases known
    · exact absent 5 ⟨Or.inr ⟨5, by decide, Nat.le_refl _⟩, Or.inl rfl⟩

theorem not_versionInRange : (¬ ∀ (utils : StringUtils) (specification : Specification), FirmwareLaw utils specification) ∧
    ¬ ∀ (utils : StringUtils) (specification : Specification), specification.Numeric →
      HardwareLaw utils specification := by
  constructor
  · intro law
    have rejected : versionInRange asciiUtils ['2']
        (parseZigbeeDeviceVersion asciiUtils twoRanges.render false) = false := by decide
    have inside : FirmwareWithin asciiUtils ['2'] ['1'] ['3'] :=
      ⟨2, by decide, Or.inr ⟨1, by decide, by decide⟩, Or.inr ⟨3, by decide, by decide⟩⟩
    have accepted := (law asciiUtils twoRanges ['2']).mpr (Or.inr ⟨_, List.mem_cons_self, inside⟩)
    rw [rejected] at accepted
    cases accepted
  · intro law
    have rejected : versionInRange asciiUtils (decimal 7)
        (parseZigbeeDeviceVersion asciiUtils openRange.render true) = false := by decide
    have inside : HardwareWithin 7 ['5'] [] := ⟨Or.inr ⟨5, by decide, by decide⟩, Or.inl rfl⟩
    have accepted := (law asciiUtils openRange numeric_openRange 7).mpr
      (Or.inr ⟨_, List.mem_cons_self, inside⟩)
    rw [rejected] at accepted
    cases accepted

end Ascii
end Barton.Descriptors
