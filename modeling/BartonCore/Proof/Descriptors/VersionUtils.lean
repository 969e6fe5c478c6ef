import BartonCore.Construction.Descriptors.VersionUtils
import BartonCore.ToMathlib.Sequences

namespace Barton.VersionUtils
open Strtol Sequences

section Runs

/-- Every character but a digit is a separator. -/
def isSeparator (character : Char) : Bool := !isdigit character

/-- The longest parts of digits, in order. -/
noncomputable def digitRuns (versionStr : Text) : List Text := segments isSeparator versionStr

/-- A run of digits is closed by the character after it. -/
noncomputable def closedRuns (versionStr : Text) : List Text := closedSegments isSeparator versionStr

/-- The number that a run of digits denotes. -/
def numberOf (run : Text) : Nat := readDigits 10 0 run

/-- The loop reaches a run of digits if the array is not full before it. -/
structure Reaches (room i : Nat) (digits rest : Text) : Prop where
  short : ∀ run ∈ (digitRuns (digits ++ rest)).take room, run.length < defaultBuffLen
  position : i + rest.length ≤ intMax ∨ room ≤ (closedRuns (digits ++ rest.take (intMax - i))).length

/-- A version that can be read has at most 31 digits in each of its first 16 runs, and the position of the loop stays
an `int`. A Zigbee version has a digit after its mark. -/
def Readable (versionStr : Text) : Prop :=
  if isHexVersion versionStr then versionStr[2]?.any (isDigit 16) = true
  else Reaches defaultArrayLen 0 [] versionStr

theorem separator_of_digit {character : Char} (digit : isdigit character = true) : isSeparator character = false := by
  rw [isSeparator, digit]
  rfl

theorem separator_of_other {character : Char} (other : ¬isdigit character = true) : isSeparator character = true := by
  rw [isSeparator, Bool.eq_false_iff.mpr other]
  rfl

theorem plain_append {digits : Text} {character : Char} (plain : ∀ one ∈ digits, isSeparator one = false)
    (digit : isdigit character = true) : ∀ one ∈ digits ++ [character], isSeparator one = false := by
  intro one member
  rcases List.mem_append.mp member with before | last
  · exact plain one before
  · rw [List.mem_singleton.mp last]
    exact separator_of_digit digit

theorem kept_length_le (digits : Text) : (kept [digits]).length ≤ 1 := List.length_filter_le ..

/-- The first run starts with the digits that were already read. -/
theorem digitRuns_front {digits : Text} (plain : ∀ one ∈ digits, isSeparator one = false) (present : digits ≠ [])
    (rest : Text) : ∃ more runs, digitRuns (digits ++ rest) = (digits ++ more) :: runs := by
  have own : kept [digits] = [digits] := by
    rw [kept, List.filter_singleton, List.isEmpty_eq_false_iff.mpr present]
    rfl
  induction rest generalizing digits with
  | nil =>
      refine ⟨[], [], ?_⟩
      rw [List.append_nil, digitRuns, segments_plain plain, own]
  | cons character rest ih =>
      by_cases digit : isdigit character = true
      · have longer : digits ++ [character] ≠ [] := List.append_ne_nil_of_right_ne_nil _ (List.cons_ne_nil _ _)
        obtain ⟨more, runs, same⟩ := ih (plain_append plain digit) longer (by
          rw [kept, List.filter_singleton, List.isEmpty_eq_false_iff.mpr longer]
          rfl)
        refine ⟨character :: more, runs, ?_⟩
        rw [List.append_cons, same, List.append_assoc, List.singleton_append]
      · refine ⟨[], digitRuns rest, ?_⟩
        rw [digitRuns, segments_append plain (separator_of_other digit), own, List.append_nil]
        rfl

end Runs

section Positions
variable {room i : Nat} {digits rest : Text} {character : Char} (plain : ∀ one ∈ digits, isSeparator one = false)
include plain

theorem Reaches.nil (short : digits.length < defaultBuffLen) (inside : i ≤ intMax) : Reaches room i digits [] := by
  refine ⟨fun run member => ?_, Or.inl inside⟩
  rw [List.append_nil, digitRuns, segments_plain plain] at member
  have own := List.mem_of_mem_filter (List.mem_of_mem_take member)
  rwa [List.mem_singleton.mp own]

theorem Reaches.position_lt (reaches : Reaches room i digits (character :: rest)) (vacant : 0 < room) : i < intMax := by
  rcases reaches.position with inside | closed
  · rw [List.length_cons] at inside
    omega
  · by_contra beyond
    rw [Nat.sub_eq_zero_of_le (Nat.le_of_not_lt beyond), List.take_zero, List.append_nil, closedRuns,
      closedSegments_plain plain] at closed
    exact absurd closed (Nat.not_le_of_lt vacant)

/-- A digit is appended to the digits before it. -/
theorem reaches_digit (digit : isdigit character = true) (vacant : 0 < room) :
    Reaches room i digits (character :: rest) ↔
      digits.length + 1 < defaultBuffLen ∧ i < intMax ∧ Reaches room (i + 1) (digits ++ [character]) rest := by
  have moved (inside : i < intMax) : digits ++ (character :: rest).take (intMax - i) =
      digits ++ [character] ++ rest.take (intMax - (i + 1)) := by
    obtain ⟨left, amount⟩ := Nat.exists_eq_add_of_lt inside
    rw [show intMax - i = left + 1 by omega, show intMax - (i + 1) = left by omega, List.take_succ_cons,
      List.append_cons]
  constructor
  · intro reaches
    have inside := reaches.position_lt plain vacant
    refine ⟨?_, inside, ?_, ?_⟩
    · obtain ⟨more, runs, first⟩ := digitRuns_front (plain_append plain digit)
        (List.append_ne_nil_of_right_ne_nil _ (List.cons_ne_nil _ _)) rest
      obtain ⟨count, rfl⟩ := Nat.exists_eq_add_of_lt vacant
      have bound := reaches.short (digits ++ [character] ++ more) (by
        rw [List.append_cons, first, Nat.zero_add, List.take_succ_cons]
        exact List.mem_cons_self)
      simp only [List.length_append, List.length_singleton] at bound
      omega
    · rw [← List.append_cons]
      exact reaches.short
    · rcases reaches.position with short | closed
      · rw [List.length_cons] at short
        exact Or.inl (by omega)
      · rw [moved inside] at closed
        exact Or.inr closed
  · rintro ⟨_, inside, short, position⟩
    refine ⟨by rwa [List.append_cons], ?_⟩
    rcases position with left | closed
    · exact Or.inl (by rw [List.length_cons]; omega)
    · exact Or.inr (by rwa [moved inside])

/-- Another character closes the run before it. -/
theorem reaches_separator (other : ¬isdigit character = true) (vacant : 0 < room)
    (short : digits.length < defaultBuffLen) :
    Reaches room i digits (character :: rest) ↔
      i < intMax ∧ Reaches (room - (kept [digits]).length) (i + 1) [] rest := by
  have separates := separator_of_other other
  have count := kept_length_le digits
  have runs : (digitRuns (digits ++ character :: rest)).take room =
      kept [digits] ++ (digitRuns rest).take (room - (kept [digits]).length) := by
    rw [digitRuns, segments_append plain separates, List.take_append, List.take_of_length_le (by omega)]
    rfl
  have closed (inside : i < intMax) : (closedRuns (digits ++ (character :: rest).take (intMax - i))).length =
      (kept [digits]).length + (closedRuns (rest.take (intMax - (i + 1)))).length := by
    obtain ⟨left, amount⟩ := Nat.exists_eq_add_of_lt inside
    rw [show intMax - i = left + 1 by omega, show intMax - (i + 1) = left by omega, List.take_succ_cons, closedRuns,
      closedSegments_append plain separates, List.length_append]
    rfl
  constructor
  · intro reaches
    have inside := reaches.position_lt plain vacant
    refine ⟨inside, fun run member => reaches.short run ?_, ?_⟩
    · rw [runs]
      exact List.mem_append_right _ member
    · rcases reaches.position with left | enough
      · rw [List.length_cons] at left
        exact Or.inl (by omega)
      · rw [closed inside] at enough
        exact Or.inr (by rw [List.nil_append]; omega)
  · rintro ⟨inside, later, position⟩
    refine ⟨fun run member => ?_, ?_⟩
    · rw [runs] at member
      rcases List.mem_append.mp member with own | after
      · rwa [List.mem_singleton.mp (List.mem_of_mem_filter own)]
      · exact later run after
    · rcases position with left | enough
      · exact Or.inl (by rw [List.length_cons]; omega)
      · refine Or.inr ?_
        rw [closed inside]
        rw [List.nil_append] at enough
        omega

end Positions

section Buffer

theorem store_append {Item : Type} (front rest : List Item) (old item : Item) :
    store (front ++ old :: rest) front.length item = some (front ++ item :: rest) := by
  rw [store, if_pos (by rw [List.length_append, List.length_cons]; omega), List.set_append_right _ _ le_rfl,
    Nat.sub_self, List.set_cons_zero]

theorem cString_append {digits : Text} (plain : ∀ one ∈ digits, one ≠ '\x00') (rest : List (Option Char)) :
    cString (digits.map some ++ some '\x00' :: rest) = some digits := by
  induction digits with
  | nil => rfl
  | cons digit digits ih =>
      rw [List.forall_mem_cons] at plain
      rw [List.map_cons, List.cons_append, cString, if_neg plain.1, ih plain.2]
      rfl

/-- The buffer holds the digits of the current run, and the array holds the numbers of the runs before it. -/
structure Holds (state : State) (done : List Text) (digits : Text) : Prop where
  arrayLen : state.arrayLen = done.length
  room : done.length ≤ defaultArrayLen
  retVal : state.retVal = done.map atoi ++ List.replicate (defaultArrayLen - done.length) 0
  bufferLen : state.bufferLen = digits.length
  short : digits.length < defaultBuffLen
  plain : ∀ one ∈ digits, isdigit one = true
  full : done.length = defaultArrayLen → digits = []
  contents : ∃ rest, state.buffer = digits.map some ++ rest ∧ digits.length + rest.length = defaultBuffLen ∧
    (digits ≠ [] → ∃ later, rest = some '\x00' :: later)

theorem start_holds : Holds start [] [] where
  arrayLen := rfl
  room := Nat.zero_le _
  retVal := rfl
  bufferLen := rfl
  short := by decide
  plain := fun one member => absurd member List.not_mem_nil
  full := fun _ => rfl
  contents := ⟨List.replicate defaultBuffLen none, rfl, rfl, fun present => absurd rfl present⟩

variable {state : State} {done : List Text} {digits : Text} (holds : Holds state done digits)
include holds

theorem Holds.separate : ∀ one ∈ digits, isSeparator one = false :=
  fun one member => separator_of_digit (holds.plain one member)

/-- A digit and the terminator after it fit into the buffer, or the terminator is written behind it. -/
theorem appendDigit_spec {character : Char} (digit : isdigit character = true) (vacant : done.length < defaultArrayLen) :
    if digits.length + 1 < defaultBuffLen then
      ∃ next, appendDigit state character = some next ∧ next.i = state.i ∧ Holds next done (digits ++ [character])
    else appendDigit state character = none := by
  obtain ⟨rest, filled, capacity, _⟩ := holds.contents
  have short := holds.short
  obtain ⟨old, rest, rfl⟩ := List.exists_cons_of_length_pos (l := rest) (by omega)
  have first : store state.buffer state.bufferLen (some character) =
      some ((digits ++ [character]).map some ++ rest) := by
    have written := store_append (digits.map some) rest old (some character)
    rw [List.length_map] at written
    rw [filled, holds.bufferLen, written, List.map_append, List.append_assoc]
    rfl
  rw [List.length_cons] at capacity
  split
  · rename_i fits
    obtain ⟨behind, rest, rfl⟩ := List.exists_cons_of_length_pos (l := rest) (by omega)
    have second : store ((digits ++ [character]).map some ++ behind :: rest) (state.bufferLen + 1) (some '\x00') =
        some ((digits ++ [character]).map some ++ some '\x00' :: rest) := by
      have written := store_append ((digits ++ [character]).map some) rest behind (some '\x00')
      rwa [List.length_map, List.length_append, List.length_singleton, ← holds.bufferLen] at written
    refine ⟨{ state with
      buffer := (digits ++ [character]).map some ++ some '\x00' :: rest
      bufferLen := state.bufferLen + 1 }, ?_, rfl, ?_⟩
    · rw [appendDigit, first, Option.bind_eq_bind, Option.bind_some, second]
      rfl
    · rw [List.length_cons] at capacity
      exact {
        arrayLen := holds.arrayLen
        room := holds.room
        retVal := holds.retVal
        bufferLen := by rw [List.length_append, ← holds.bufferLen]; rfl
        short := by rwa [List.length_append]
        plain := fun one member => (List.mem_append.mp member).elim (holds.plain one) fun last => by
          rwa [List.mem_singleton.mp last]
        full := fun same => absurd same vacant.ne
        contents := ⟨some '\x00' :: rest, rfl, by
          rw [List.length_append, List.length_singleton, List.length_cons]
          omega, fun _ => ⟨rest, rfl⟩⟩ }
  · rename_i filled_up
    have second : store ((digits ++ [character]).map some ++ rest) (state.bufferLen + 1) (some '\x00') = none := by
      rw [store, if_neg]
      rw [List.length_append, List.length_map, List.length_append, List.length_singleton, holds.bufferLen]
      omega
    rw [appendDigit, first, Option.bind_eq_bind, Option.bind_some, second]
    rfl

/-- The number of a run is saved in the array. -/
theorem saveNumber_spec : ∃ next, saveNumber state = some next ∧ next.i = state.i ∧
    Holds next (done ++ kept [digits]) [] := by
  obtain ⟨rest, filled, capacity, terminated⟩ := holds.contents
  have unread : ∃ others : List (Option Char), state.buffer = ([] : Text).map some ++ others ∧
      ([] : Text).length + others.length = defaultBuffLen ∧
        (([] : Text) ≠ [] → ∃ later, others = some '\x00' :: later) := by
    refine ⟨state.buffer, rfl, ?_, fun present => absurd rfl present⟩
    rw [filled, List.length_nil, List.length_append, List.length_map]
    omega
  cases digits with
  | nil =>
      refine ⟨state, ?_, rfl, ?_⟩
      · rw [saveNumber, if_neg (by rw [holds.bufferLen]; exact lt_irrefl 0)]
      · exact { holds with
          arrayLen := by rw [holds.arrayLen]; simp [kept]
          room := by simpa [kept] using holds.room
          retVal := by rw [holds.retVal]; simp [kept]
          full := fun _ => rfl }
  | cons digit others =>
      obtain ⟨later, rfl⟩ := terminated (List.cons_ne_nil _ _)
      have vacant : done.length < defaultArrayLen :=
        lt_of_le_of_ne holds.room fun same => List.cons_ne_nil _ _ (holds.full same)
      have visible : ∀ one ∈ digit :: others, one ≠ '\x00' := by
        rintro one member rfl
        exact absurd (holds.plain _ member) (by decide)
      obtain ⟨left, amount⟩ := Nat.exists_eq_add_of_lt vacant
      have saved : store state.retVal state.arrayLen (atoi (digit :: others)) =
          some (done.map atoi ++ atoi (digit :: others) :: List.replicate left 0) := by
        have written := store_append (done.map atoi) (List.replicate left 0) 0 (atoi (digit :: others))
        rw [List.length_map] at written
        rw [holds.retVal, holds.arrayLen, show defaultArrayLen - done.length = left + 1 by omega,
          List.replicate_succ, written]
      refine ⟨{ state with
        retVal := done.map atoi ++ atoi (digit :: others) :: List.replicate left 0
        arrayLen := state.arrayLen + 1
        bufferLen := 0 }, ?_, rfl, ?_⟩
      · rw [saveNumber, if_pos (by rw [holds.bufferLen]; exact Nat.succ_pos _), filled, cString_append visible,
          Option.bind_eq_bind, Option.bind_some, saved]
        rfl
      · exact {
          arrayLen := by rw [List.length_append, holds.arrayLen]; rfl
          room := by rw [List.length_append]; exact vacant
          retVal := by
            rw [List.map_append, List.append_assoc, List.length_append]
            show _ = done.map atoi ++ (atoi (digit :: others) :: List.replicate (defaultArrayLen - (done.length + 1)) 0)
            rw [show defaultArrayLen - (done.length + 1) = left by omega]
          bufferLen := rfl
          short := by decide
          plain := fun one member => absurd member List.not_mem_nil
          full := fun _ => rfl
          contents := unread }

end Buffer

section Scan

theorem advance_spec {state : State} {done : List Text} {digits : Text} (holds : Holds state done digits)
    (inside : state.i < intMax) :
    ∃ next, advance state = some next ∧ next.i = state.i + 1 ∧ Holds next done digits := by
  refine ⟨{ state with i := state.i + 1 }, if_pos inside, rfl, ?_⟩
  exact { holds with }

/-- The loop collects the first runs. The last of them may still be in the buffer. -/
theorem scan_spec {state : State} {done : List Text} {digits : Text} (holds : Holds state done digits)
    (inside : state.i ≤ intMax) (rest : Text) :
    (Reaches (defaultArrayLen - done.length) state.i digits rest → ∃ final before last,
      scan state rest = some final ∧ Holds final before last ∧
      before ++ kept [last] = done ++ (digitRuns (digits ++ rest)).take (defaultArrayLen - done.length)) ∧
    (¬Reaches (defaultArrayLen - done.length) state.i digits rest → scan state rest = none) := by
  induction rest generalizing state done digits with
  | nil =>
      have ends : Reaches (defaultArrayLen - done.length) state.i digits [] :=
        Reaches.nil holds.separate holds.short inside
      refine ⟨fun _ => ⟨state, done, digits, rfl, holds, ?_⟩, fun unreached => absurd ends unreached⟩
      rw [List.append_nil, digitRuns, segments_plain holds.separate]
      by_cases full : done.length = defaultArrayLen
      · rw [holds.full full, full]
        rfl
      · have vacant := lt_of_le_of_ne holds.room full
        have count := kept_length_le digits
        rw [List.take_of_length_le (by omega)]
  | cons character rest ih =>
      by_cases vacant : done.length < defaultArrayLen
      · have room : 0 < defaultArrayLen - done.length := Nat.sub_pos_of_lt vacant
        have enters : state.arrayLen < defaultArrayLen := by rwa [holds.arrayLen]
        by_cases digit : isdigit character = true
        · have appended := appendDigit_spec holds digit vacant
          rw [reaches_digit holds.separate digit room, scan, if_pos enters, examine, if_pos digit,
            List.append_cons digits character rest]
          split at appended
          · rename_i fits
            obtain ⟨next, added, same, kept_⟩ := appended
            rw [added, Option.bind_some]
            by_cases before : state.i < intMax
            · obtain ⟨moved, step, position, later⟩ := advance_spec kept_ (by rwa [same])
              rw [step, Option.bind_some]
              have continued := ih later (by rw [position, same]; exact before)
              rw [position, same] at continued
              exact ⟨fun reaches => continued.1 reaches.2.2, fun unreached => continued.2 fun reaches =>
                unreached ⟨fits, before, reaches⟩⟩
            · exact ⟨fun reaches => absurd reaches.2.1 before, fun _ => by
                rw [advance, same, if_neg before, Option.bind_none]⟩
          · rename_i filled
            rw [appended]
            exact ⟨fun reaches => absurd reaches.1 filled, fun _ => rfl⟩
        · have separates := separator_of_other digit
          have count := kept_length_le digits
          obtain ⟨next, saved, same, kept_⟩ := saveNumber_spec holds
          rw [reaches_separator holds.separate digit room holds.short, scan, if_pos enters, examine, if_neg digit,
            saved, Option.bind_some]
          by_cases before : state.i < intMax
          · obtain ⟨moved, step, position, later⟩ := advance_spec kept_ (by rwa [same])
            rw [step, Option.bind_some]
            have continued := ih later (by rw [position, same]; exact before)
            rw [position, same, List.length_append, ← Nat.sub_sub] at continued
            refine ⟨fun reaches => ?_, fun unreached => continued.2 fun reaches => unreached ⟨before, reaches⟩⟩
            obtain ⟨final, runs, last, scanned, holds_, collected⟩ := continued.1 reaches.2
            refine ⟨final, runs, last, scanned, holds_, collected.trans ?_⟩
            rw [digitRuns, digitRuns, segments_append holds.separate separates, List.take_append,
              List.take_of_length_le (l := kept [digits]) (by omega), List.append_assoc]
            rfl
          · exact ⟨fun reaches => absurd reaches.1 before, fun _ => by
              rw [advance, same, if_neg before, Option.bind_none]⟩
      · have full : done.length = defaultArrayLen := Nat.le_antisymm holds.room (Nat.le_of_not_lt vacant)
        have stops : scan state (character :: rest) = some state := by
          rw [scan, if_neg (by rwa [holds.arrayLen])]
        rw [full, Nat.sub_self]
        refine ⟨fun _ => ⟨state, done, digits, stops, holds, ?_⟩, fun unreached => absurd ?_ unreached⟩
        · rw [holds.full full, List.take_zero]
          rfl
        · exact ⟨fun run member => absurd member (by rw [List.take_zero]; exact List.not_mem_nil),
            Or.inr (Nat.zero_le _)⟩

/-- The numbers of the first runs are reported. -/
theorem versionStringToInt_spec {versionStr : Text} (dotted : isHexVersion versionStr = false) :
    (Readable versionStr → versionStringToInt versionStr =
      some (((digitRuns versionStr).take defaultArrayLen).map fun run => some (atoi run))) ∧
    (¬Readable versionStr → versionStringToInt versionStr = none) := by
  have scanned := scan_spec start_holds (Nat.zero_le _) versionStr
  rw [List.length_nil, Nat.sub_zero, List.nil_append, List.nil_append] at scanned
  rw [Readable, versionStringToInt, dotted, if_neg Bool.false_ne_true, if_neg Bool.false_ne_true]
  constructor
  · intro reaches
    obtain ⟨final, before, last, ends, holds, collected⟩ := scanned.1 reaches
    obtain ⟨saved, stored, _, complete⟩ := saveNumber_spec holds
    rw [ends, Option.bind_some, stored, Option.map_some, complete.retVal, complete.arrayLen, ← List.length_map atoi,
      List.take_left, collected, List.map_map]
    rfl
  · intro unreached
    rw [scanned.2 unreached]
    rfl

end Scan

section Law

/-- A text of digits denotes a number below a power of the base. -/
theorem readDigits_lt {base : Nat} (positive : 0 < base) (digits : Text) (value : Nat) :
    readDigits base value digits < (value + 1) * base ^ digits.length := by
  induction digits generalizing value with
  | nil => simp [readDigits]
  | cons character rest ih =>
      rw [readDigits, List.length_cons]
      cases reads : (digitValue character).filter fun digit => digit < base with
      | none =>
          calc value < value + 1 := value.lt_succ_self
            _ ≤ (value + 1) * base ^ (rest.length + 1) := Nat.le_mul_of_pos_right _ (Nat.pow_pos positive)
      | some digit =>
          have small : digit < base := of_decide_eq_true (Option.filter_eq_some_iff.mp reads).2
          calc readDigits base (value * base + digit) rest
              < (value * base + digit + 1) * base ^ rest.length := ih _
            _ ≤ ((value + 1) * base) * base ^ rest.length := by
                apply Nat.mul_le_mul_right
                rw [Nat.add_mul, Nat.one_mul]
                omega
            _ = (value + 1) * base ^ (rest.length + 1) := by rw [Nat.pow_succ']; ring

theorem atoi_eq {run : Text} (small : numberOf run < 2 ^ 31) : atoi run = UInt32.ofNat (numberOf run) := by
  rw [atoi, min_eq_left]
  · rfl
  · exact small.le.trans (by decide)

/-- The Zigbee version is assigned exactly if a digit follows its mark. -/
theorem scanHex_isSome (versionStr : Text) :
    (scanHex versionStr).isSome = true ↔ versionStr[2]?.any (isDigit 16) = true := by
  rw [scanHex, ← List.head?_drop]
  cases versionStr.drop 2 with
  | nil => simp
  | cons character rest =>
      rw [List.head?_cons, Option.any_some, List.takeWhile_cons]
      cases isDigit 16 character <;> simp

/-- A version is parsed within the arrays, each reported entry was assigned, and the entries are the numbers of the
first 16 runs of digits as far as these are below 2^31. -/
def ParsesWithin (versionStr : Text) : Prop :=
  ∃ entries, versionStringToInt versionStr = some entries ∧ (∀ entry ∈ entries, entry.isSome = true) ∧
    (isHexVersion versionStr = false →
      List.Forall₂ (fun run entry => numberOf run < 2 ^ 31 → entry = some (UInt32.ofNat (numberOf run)))
        ((digitRuns versionStr).take defaultArrayLen) entries)

/-- A version is parsed within the arrays exactly if it can be read. -/
theorem parsesWithin_iff (versionStr : Text) : ParsesWithin versionStr ↔ Readable versionStr := by
  cases form : isHexVersion versionStr with
  | false =>
      obtain ⟨read, unread⟩ := versionStringToInt_spec form
      constructor
      · rintro ⟨entries, parsed, _⟩
        by_contra unreadable
        rw [unread unreadable] at parsed
        cases parsed
      · intro readable
        refine ⟨_, read readable, fun entry member => ?_, fun _ => ?_⟩
        · obtain ⟨run, _, rfl⟩ := List.mem_map.mp member
          rfl
        · rw [List.forall₂_map_right_iff]
          exact List.forall₂_same.mpr fun run _ small => congrArg some (atoi_eq small)
  | true =>
      have parsed : versionStringToInt versionStr = some [scanHex versionStr] := if_pos form
      rw [Readable, form, if_pos rfl, ← scanHex_isSome]
      constructor
      · rintro ⟨entries, same, all, _⟩
        cases parsed.symm.trans same
        exact all _ List.mem_cons_self
      · intro present
        refine ⟨_, parsed, fun entry member => ?_, fun dotted => absurd (form.symm.trans dotted) (by decide)⟩
        rwa [List.mem_singleton.mp member]

/-- A run of 32 digits is written over the end of the buffer. -/
theorem not_parsesWithin : ¬ ∀ versionStr : Text, ParsesWithin versionStr := by
  intro within
  obtain ⟨entries, parsed, _⟩ := within (List.replicate 32 '1')
  have outside : versionStringToInt (List.replicate 32 '1') = none := by decide +kernel
  rw [outside] at parsed
  cases parsed

end Law

section Arrays

theorem compareRight_eq (right : List UInt32) : compareRight right = compareLists 0 [] (right.map UInt32.toNat) := by
  induction right with
  | nil => exact (signCompare_self _).symm
  | cons item right ih =>
      rw [compareRight, List.map_cons, compareLists_nil_left]
      by_cases zero : item = 0
      · rw [if_neg (not_not.mpr zero), ih, zero]
        exact (compareLists_cons 0 0 [] _).symm
      · have positive : 0 < item.toNat := Nat.pos_of_ne_zero fun same => zero (UInt32.toNat_inj.mp same)
        rw [if_pos zero, compareLists_of_lt 0 positive]

/-- The arrays are compared as sequences that go on with zeros. -/
theorem compareVersionArrays_eq (left right : List UInt32) :
    compareVersionArrays left right = compareLists 0 (left.map UInt32.toNat) (right.map UInt32.toNat) := by
  induction left generalizing right with
  | nil => exact compareRight_eq right
  | cons item left ih =>
      cases right with
      | nil =>
          rw [compareVersionArrays, List.map_cons, List.map_nil, compareLists_nil_right]
          by_cases zero : item = 0
          · rw [if_neg (not_not.mpr zero), ih, zero]
            exact (compareLists_cons 0 0 _ []).symm
          · have positive : 0 < item.toNat := Nat.pos_of_ne_zero fun same => zero (UInt32.toNat_inj.mp same)
            rw [if_pos zero, compareLists_of_gt 0 positive]
      | cons other right =>
          rw [compareVersionArrays, List.map_cons, List.map_cons]
          rcases lt_trichotomy item.toNat other.toNat with less | same | greater
          · have small : item < other := less
            rw [if_neg fun large : item > other => absurd less (Nat.lt_asymm large), if_pos small,
              compareLists_of_lt 0 less]
          · rw [UInt32.toNat_inj.mp same, if_neg fun large : other > other => Nat.lt_irrefl _ large,
              if_neg fun small : other < other => Nat.lt_irrefl _ small, compareLists_cons, ih]
          · have large : item > other := greater
            rw [if_pos large, compareLists_of_gt 0 greater]

end Arrays

section Order

/-- A comparison is that of the components of the versions, which go on with zeros. It has a result for every two
versions, and it is an order whose sign is negative if the left version is greater. -/
structure Orders {Version : Type} (compare : Version → Version → Option Int8) (components : Version → List Nat)
    (versions : Set Version) : Prop where
  lexicographic : ∀ left ∈ versions, ∀ right ∈ versions,
    compare left right = some (compareLists 0 (components left) (components right))
  reflexive : ∀ version ∈ versions, compare version version = some 0
  antisymmetric : ∀ left ∈ versions, ∀ right ∈ versions,
    ∃ result, compare left right = some result ∧ compare right left = some (-result)
  transitive : ∀ first ∈ versions, ∀ second ∈ versions, ∀ third ∈ versions,
    (∃ result, compare first second = some result ∧ 0 ≤ result) →
    (∃ result, compare second third = some result ∧ 0 ≤ result) →
      ∃ result, compare first third = some result ∧ 0 ≤ result
  total : ∀ left ∈ versions, ∀ right ∈ versions,
    (∃ result, compare left right = some result ∧ 0 ≤ result) ∨
      ∃ result, compare right left = some result ∧ 0 ≤ result
  trailing : ∀ left ∈ versions, ∀ right ∈ versions, ∀ zeros,
    components right = components left ++ List.replicate zeros 0 → compare left right = some 0

/-- The laws follow from the comparison of the components. -/
theorem Orders.of_lexicographic {Version : Type} {compare : Version → Version → Option Int8}
    {components : Version → List Nat} {versions : Set Version}
    (lexicographic : ∀ left ∈ versions, ∀ right ∈ versions,
      compare left right = some (compareLists 0 (components left) (components right))) :
    Orders compare components versions := by
  have nonneg {left right : Version} (first : left ∈ versions) (second : right ∈ versions) :
      (∃ result, compare left right = some result ∧ 0 ≤ result) ↔
        padded 0 (components left) ≤ padded 0 (components right) := by
    rw [lexicographic left first right second]
    simp only [Option.some.injEq, exists_eq_left']
    exact signCompare_nonneg _ _
  refine ⟨lexicographic, ?_, ?_, ?_, ?_, ?_⟩
  · intro version member
    rw [lexicographic version member version member]
    exact congrArg some (signCompare_self _)
  · intro left first right second
    refine ⟨_, lexicographic left first right second, ?_⟩
    rw [lexicographic right second left first]
    exact congrArg some (signCompare_swap _ _)
  · intro first one second two third three below above
    rw [nonneg one two] at below
    rw [nonneg two three] at above
    exact (nonneg one three).mpr (below.trans above)
  · intro left first right second
    rw [nonneg first second, nonneg second first]
    exact le_total _ _
  · intro left first right second zeros same
    rw [lexicographic left first right second, same]
    exact congrArg some (compareLists_replicate 0 _ _)

/-- A version string has at most 16 runs of digits, and each of them denotes a number below 2^31. -/
structure DenotedVersion where
  versionStr : Text
  few : (digitRuns versionStr).length ≤ defaultArrayLen
  small : ∀ run ∈ digitRuns versionStr, numberOf run < 2 ^ 31

/-- A Zigbee version is one number, and the components of another version are the numbers of its runs of digits. -/
noncomputable def DenotedVersion.components (version : DenotedVersion) : List Nat :=
  if isHexVersion version.versionStr then
    [readDigits 16 0 ((version.versionStr.drop 2).takeWhile (isDigit 16))]
  else (digitRuns version.versionStr).map numberOf

def DenotedVersion.compare (left right : DenotedVersion) : Option Int8 :=
  compareVersionStrings left.versionStr right.versionStr

theorem assigned_some (entries : List UInt32) : assigned (entries.map some) = some entries := by
  induction entries with
  | nil => rfl
  | cons entry entries ih =>
      unfold assigned at ih ⊢
      rw [List.map_cons, List.mapM_cons, ih]
      rfl

/-- A version that can be read has an array of its components. -/
theorem DenotedVersion.array (version : DenotedVersion) (readable : Readable version.versionStr) :
    ∃ entries : List UInt32, (versionStringToInt version.versionStr).bind assigned = some entries ∧
      entries.map UInt32.toNat = version.components := by
  cases form : isHexVersion version.versionStr with
  | false =>
      refine ⟨(digitRuns version.versionStr).map atoi, ?_, ?_⟩
      · rw [(versionStringToInt_spec form).1 readable, List.take_of_length_le version.few, Option.bind_some]
        have same := assigned_some ((digitRuns version.versionStr).map atoi)
        rwa [List.map_map] at same
      · rw [DenotedVersion.components, form, if_neg Bool.false_ne_true, List.map_map]
        apply List.map_congr_left
        intro run member
        have small := version.small run member
        rw [Function.comp_apply, atoi_eq small, UInt32.toNat_ofNat_of_lt' (small.trans (by decide))]
  | true =>
      rw [Readable, form, if_pos rfl, ← scanHex_isSome] at readable
      have parsed : versionStringToInt version.versionStr = some [scanHex version.versionStr] := if_pos form
      obtain ⟨entry, scanned⟩ := Option.isSome_iff_exists.mp readable
      refine ⟨[entry], ?_, ?_⟩
      · rw [parsed, Option.bind_some, scanned]
        exact assigned_some [entry]
      · rw [DenotedVersion.components, form, if_pos rfl, List.map_singleton]
        rw [scanHex] at scanned
        split at scanned
        · cases scanned
        · cases scanned
          have length : version.versionStr.length = 10 := by
            rw [isHexVersion, Bool.and_eq_true, Bool.and_eq_true] at form
            exact of_decide_eq_true form.1.1
          have digits : ((version.versionStr.drop 2).takeWhile (isDigit 16)).length ≤ 8 := by
            have part := (List.takeWhile_sublist (isDigit 16) (l := version.versionStr.drop 2)).length_le
            rw [List.length_drop, length] at part
            exact part
          have bound : readDigits 16 0 ((version.versionStr.drop 2).takeWhile (isDigit 16)) < 2 ^ 32 :=
            calc _ < (0 + 1) * 16 ^ ((version.versionStr.drop 2).takeWhile (isDigit 16)).length :=
                  readDigits_lt (by decide) _ _
              _ ≤ (0 + 1) * 16 ^ 8 := Nat.mul_le_mul_left _ (Nat.pow_le_pow_right (by decide) digits)
              _ = 2 ^ 32 := by decide
          rw [UInt32.toNat_ofNat_of_lt' bound]

/-- Versions that can be read are compared by their components. -/
theorem DenotedVersion.compare_eq (left right : DenotedVersion) (first : Readable left.versionStr)
    (second : Readable right.versionStr) :
    left.compare right = some (compareLists 0 left.components right.components) := by
  obtain ⟨arrayL, readL, sameL⟩ := left.array first
  obtain ⟨arrayR, readR, sameR⟩ := right.array second
  rw [DenotedVersion.compare, compareVersionStrings, readL, readR, ← sameL, ← sameR, ← compareVersionArrays_eq]
  rfl

/-- A version has an array exactly if it can be read. -/
theorem array_isSome_iff (versionStr : Text) :
    ((versionStringToInt versionStr).bind assigned).isSome = true ↔ Readable versionStr := by
  cases form : isHexVersion versionStr with
  | false =>
      obtain ⟨read, unread⟩ := versionStringToInt_spec form
      constructor
      · intro present
        by_contra unreadable
        rw [unread unreadable] at present
        cases present
      · intro readable
        have same := assigned_some (((digitRuns versionStr).take defaultArrayLen).map atoi)
        rw [List.map_map] at same
        rw [read readable, Option.bind_some]
        exact Option.isSome_of_eq_some same
  | true =>
      have parsed : versionStringToInt versionStr = some [scanHex versionStr] := if_pos form
      rw [parsed, Readable, form, if_pos rfl, ← scanHex_isSome]
      cases scanHex versionStr with
      | none | some => exact Iff.rfl

/-- Two versions are compared exactly if both of them can be read. -/
theorem compareVersionStrings_isSome_iff (leftVersion rightVersion : Text) :
    (compareVersionStrings leftVersion rightVersion).isSome = true ↔ Readable leftVersion ∧ Readable rightVersion := by
  rw [← array_isSome_iff, ← array_isSome_iff, compareVersionStrings]
  cases (versionStringToInt leftVersion).bind assigned with
  | none => simp
  | some arrayL =>
      cases (versionStringToInt rightVersion).bind assigned with
      | none | some => simp

/-- A version that cannot be read has no comparison with itself. -/
theorem compareVersionStrings_self {versionStr : Text} (unreadable : ¬Readable versionStr) :
    compareVersionStrings versionStr versionStr = none := by
  rw [← Option.not_isSome_iff_eq_none, compareVersionStrings_isSome_iff]
  exact fun readable => unreadable readable.1

/-- The comparison of arrays is an order, and that of version strings is one exactly if all of them can be read. -/
theorem compareVersions_ordered_iff (versions : Set DenotedVersion) :
    Orders (fun left right => some (compareVersionArrays left right)) (List.map UInt32.toNat) Set.univ ∧
      (Orders DenotedVersion.compare DenotedVersion.components versions ↔
        ∀ version ∈ versions, Readable version.versionStr) := by
  refine ⟨Orders.of_lexicographic fun left _ right _ => congrArg some (compareVersionArrays_eq left right), ?_⟩
  constructor
  · intro orders version member
    by_contra unreadable
    have same := orders.reflexive version member
    rw [DenotedVersion.compare, compareVersionStrings_self unreadable] at same
    cases same
  · intro readable
    apply Orders.of_lexicographic
    intro left first right second
    exact left.compare_eq right (readable left first) (readable right second)

/-- The number 1 with 31 zeros before it. -/
def paddedOne : DenotedVersion where
  versionStr := List.replicate 31 '0' ++ ['1']
  few := by decide +kernel
  small := by decide +kernel

/-- The zeros before a number are written over the end of the buffer. -/
theorem not_compareVersions_ordered : ¬Orders DenotedVersion.compare DenotedVersion.components Set.univ := by
  intro orders
  have same := orders.reflexive paddedOne (Set.mem_univ _)
  have outside : paddedOne.compare paddedOne = none := by decide +kernel
  rw [outside] at same
  cases same

end Order
end Barton.VersionUtils
