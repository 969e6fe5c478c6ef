import BartonCore.Proof.Tlv.Text

namespace Barton.Tlv.Base64

/-- Padded base64 has whole groups of four, and its last one or two characters can be padding. -/
def WellFormed (text : JsString) : Prop :=
  text.length % 4 = 0 ∧ ∃ body count, text = body ++ List.replicate count pad ∧ count ≤ 2 ∧ ∀ unit ∈ body, unit ∈ chars

/-- A group has two characters of the alphabet and two more that can be padding. -/
def inGroups : JsString → Bool
  | [] => true
  | u0 :: u1 :: u2 :: u3 :: rest => u0 ∈ chars && u1 ∈ chars && (u2 ∈ chars || u2 = pad) && (u3 ∈ chars || u3 = pad) &&
      inGroups rest
  | [_] | [_, _] | [_, _, _] => false

/-- Only padding follows the first padding character. -/
def paddedAtEnd (text : JsString) : Bool := (text.dropWhile (· ≠ pad)).all (· = pad)

/-- The decoder returns bytes for padded base64 and throws for any other text. -/
def DecodesBase64 (text : JsString) : Prop :=
  (WellFormed text → ∃ bytes, decode text = .ok bytes) ∧
    (¬WellFormed text → ∃ message, decode text = .error (.thrown message))

section Groups

theorem pad_notMem : pad ∉ chars := by decide +kernel

theorem indexOf_isSome (unit : UInt16) : (indexOf (some unit)).isSome = true ↔ unit ∈ chars := by
  rw [indexOf, Option.bind_some, List.isSome_idxOf?]

theorem paddedIndexOf_isSome (unit : UInt16) :
    (paddedIndexOf (some unit)).isSome = true ↔ unit ∈ chars ∨ unit = pad := by
  unfold paddedIndexOf
  by_cases padding : unit = pad
  · simp [padding]
  · rw [if_neg fun same => padding (Option.some.inj same), indexOf_isSome]
    simp [padding]

/-- A block returns bytes when its characters have their places in the alphabet, and it throws otherwise. -/
theorem decodeBlock_cases (i : Nat) (u0 u1 u2 u3 : Option UInt16) :
    ((∃ bytes, decodeBlock i u0 u1 u2 u3 = .ok bytes) ∧ (indexOf u0).isSome = true ∧ (indexOf u1).isSome = true ∧
        (paddedIndexOf u2).isSome = true ∧ (paddedIndexOf u3).isSome = true) ∨
      ((∃ message, decodeBlock i u0 u1 u2 u3 = .error (.thrown message)) ∧
        ¬((indexOf u0).isSome = true ∧ (indexOf u1).isSome = true ∧ (paddedIndexOf u2).isSome = true ∧
          (paddedIndexOf u3).isSome = true)) := by
  unfold decodeBlock
  split
  · rename_i first second third fourth
    exact Or.inl ⟨⟨_, rfl⟩, by simp [first, second, third, fourth]⟩
  · rename_i missing
    exact Or.inr ⟨⟨_, rfl⟩, by simp [missing]⟩
  · rename_i missing _
    exact Or.inr ⟨⟨_, rfl⟩, by simp [missing]⟩
  · rename_i missing _ _
    exact Or.inr ⟨⟨_, rfl⟩, by simp [missing]⟩
  · rename_i missing _ _ _
    exact Or.inr ⟨⟨_, rfl⟩, by simp [missing]⟩

/-- The loop returns bytes for a text in groups, and it throws otherwise. -/
theorem decodeFrom_cases (i : Nat) (text : JsString) :
    ((∃ bytes, decodeFrom i text = .ok bytes) ∧ inGroups text = true) ∨
      ((∃ message, decodeFrom i text = .error (.thrown message)) ∧ inGroups text = false) := by
  fun_induction decodeFrom i text with
  | case1 => exact Or.inl ⟨⟨_, rfl⟩, rfl⟩
  | case2 i u0 u1 u2 u3 rest ih =>
      have block := decodeBlock_cases i (some u0) (some u1) (some u2) (some u3)
      simp only [indexOf_isSome, paddedIndexOf_isSome] at block
      rcases block with ⟨⟨bytes, decoded⟩, first, second, third, fourth⟩ | ⟨⟨message, thrown⟩, outside⟩
      · have group : inGroups (u0 :: u1 :: u2 :: u3 :: rest) = inGroups rest := by
          simp [inGroups, first, second, third, fourth]
        rw [group, decoded]
        rcases ih with ⟨⟨later, decodedRest⟩, rest⟩ | ⟨⟨message, thrown⟩, rest⟩
        · exact Or.inl ⟨⟨bytes ++ later, by rw [decodedRest]; rfl⟩, rest⟩
        · exact Or.inr ⟨⟨message, by rw [thrown]; rfl⟩, rest⟩
      · refine Or.inr ⟨⟨message, by rw [thrown]; rfl⟩, ?_⟩
        rw [inGroups, Bool.eq_false_iff]
        intro group
        simp only [Bool.and_eq_true, Bool.or_eq_true, decide_eq_true_eq] at group
        exact outside ⟨group.1.1.1.1, group.1.1.1.2, group.1.1.2, group.1.2⟩
  | case3 i short nonempty shorter =>
      have last : (paddedIndexOf none).isSome = false := rfl
      have block := decodeBlock_cases i short[0]? short[1]? short[2]? none
      rw [last] at block
      rcases block with ⟨_, _, _, _, impossible⟩ | ⟨thrown, _⟩
      · cases impossible
      · refine Or.inr ⟨thrown, ?_⟩
        unfold inGroups
        split
        · exact absurd rfl nonempty
        · exact absurd rfl (shorter _ _ _ _ _)
        · rfl
        · rfl
        · rfl

/-- A text in groups has its characters in their places. -/
theorem inGroups_iff (text : JsString) : inGroups text = true ↔ text.length % 4 = 0 ∧
    ∀ index unit, text[index]? = some unit → unit ∈ chars ∨ unit = pad ∧ 2 ≤ index % 4 := by
  fun_induction inGroups text with
  | case1 => simp
  | case2 u0 u1 u2 u3 rest ih =>
      simp only [Bool.and_eq_true, Bool.or_eq_true, decide_eq_true_eq, ih, List.length_cons]
      constructor
      · rintro ⟨⟨⟨⟨first, second⟩, third⟩, fourth⟩, whole, later⟩
        refine ⟨by omega, fun index unit held => ?_⟩
        rcases index with _ | _ | _ | _ | index
        · exact Or.inl (Option.some.inj held ▸ first)
        · exact Or.inl (Option.some.inj held ▸ second)
        · exact (Option.some.inj held ▸ third).imp_right fun padding => ⟨padding, by decide⟩
        · exact (Option.some.inj held ▸ fourth).imp_right fun padding => ⟨padding, by decide⟩
        · rw [show index + 1 + 1 + 1 + 1 = index + 4 from rfl, Nat.add_mod_right]
          exact later index unit held
      · rintro ⟨whole, each⟩
        refine ⟨⟨⟨⟨?_, ?_⟩, ?_⟩, ?_⟩, by omega, fun index unit held => ?_⟩
        · exact (each 0 u0 rfl).resolve_right fun padding => absurd padding.2 (by decide)
        · exact (each 1 u1 rfl).resolve_right fun padding => absurd padding.2 (by decide)
        · exact (each 2 u2 rfl).imp_right And.left
        · exact (each 3 u3 rfl).imp_right And.left
        · rw [← Nat.add_mod_right]
          exact each (index + 4) unit held
  | case3 u0 => simp
  | case4 u0 u1 => simp
  | case5 u0 u1 u2 => simp

/-- Padded base64 is a text in groups whose padding is at its end. -/
theorem wellFormed_iff (text : JsString) : WellFormed text ↔ inGroups text = true ∧ paddedAtEnd text = true := by
  rw [inGroups_iff]
  constructor
  · rintro ⟨whole, body, count, rfl, few, alphabet⟩
    refine ⟨⟨whole, fun index unit held => ?_⟩, ?_⟩
    · by_cases inside : index < body.length
      · rw [List.getElem?_append_left inside] at held
        exact Or.inl (alphabet unit (List.mem_of_getElem? held))
      · rw [List.getElem?_append_right (Nat.le_of_not_lt inside), List.getElem?_replicate] at held
        split at held
        · cases held
          rw [List.length_append, List.length_replicate] at whole
          exact Or.inr ⟨rfl, by omega⟩
        · cases held
    · have plain : ∀ unit ∈ body, decide (unit ≠ pad) = true := by
        intro unit member
        rw [decide_eq_true_eq]
        rintro rfl
        exact pad_notMem (alphabet pad member)
      rw [paddedAtEnd, List.dropWhile_append_of_pos plain]
      refine List.all_eq_true.mpr fun unit member => decide_eq_true ?_
      exact List.eq_of_mem_replicate ((List.dropWhile_suffix _).subset member)
  · rintro ⟨⟨whole, each⟩, last⟩
    have split := (List.takeWhile_append_dropWhile (p := fun unit => decide (unit ≠ pad)) (l := text)).symm
    have plain : ∀ unit ∈ text.takeWhile (· ≠ pad), unit ≠ pad :=
      fun unit member => of_decide_eq_true (List.all_eq_true.mp List.all_takeWhile unit member)
    have padding : text.dropWhile (· ≠ pad) = List.replicate (text.dropWhile (· ≠ pad)).length pad :=
      List.eq_replicate_of_mem fun unit member => of_decide_eq_true (List.all_eq_true.mp last unit member)
    rw [padding] at split
    generalize text.takeWhile (· ≠ pad) = body at split plain
    generalize (text.dropWhile (· ≠ pad)).length = count at split
    refine ⟨whole, body, count, split, ?_, fun unit member => ?_⟩
    · by_contra many
      -- The third padding character from the end would be in the second place of its group.
      have size : text.length = body.length + count := by rw [split, List.length_append, List.length_replicate]
      have held : text[text.length - 3]? = some pad := by
        rw [split, List.getElem?_append_right (by simp; omega), List.getElem?_replicate, if_pos (by simp; omega)]
      rcases each _ _ held with alphabet | ⟨_, place⟩
      · exact pad_notMem alphabet
      · omega
    · obtain ⟨index, held⟩ := List.mem_iff_getElem?.mp (split ▸ List.mem_append_left _ member : unit ∈ text)
      exact (each index unit held).resolve_right fun padded => plain unit member padded.1

end Groups

/-- Every byte list returns from its base64 text, and the decoder meets the base64 format exactly for the texts that do
not have a misplaced padding character as their only defect. -/
theorem decodesBase64_iff (bytes : List UInt8) (text : JsString) : decode (encode bytes) = .ok bytes ∧
    (DecodesBase64 text ↔ (inGroups text = true → paddedAtEnd text = true)) := by
  refine ⟨decode_encode bytes, ?_⟩
  unfold DecodesBase64
  rw [wellFormed_iff]
  rcases decodeFrom_cases 0 text with ⟨⟨bytes, decoded⟩, groups⟩ | ⟨⟨message, thrown⟩, groups⟩
  · have returned : decode text = .ok bytes := decoded
    simp only [groups, true_and, returned, forall_const]
    constructor
    · intro law
      by_contra misplaced
      obtain ⟨message, impossible⟩ := law.2 misplaced
      cases impossible
    · exact fun last => ⟨fun _ => ⟨bytes, rfl⟩, fun misplaced => absurd last misplaced⟩
  · have failed : decode text = .error (.thrown message) := thrown
    simp [groups, failed]

/-- The text `AA=A` has its padding in the third place of the group. -/
theorem not_decodesBase64 : ¬ ∀ text, DecodesBase64 text := by
  intro claim
  have misplaced := (wellFormed_iff (units "AA=A")).not.mpr (by decide +kernel)
  obtain ⟨message, thrown⟩ := (claim (units "AA=A")).2 misplaced
  have returned : decode (units "AA=A") = .ok [0, 0] := by decide +kernel
  rw [returned] at thrown
  cases thrown

end Barton.Tlv.Base64
