import Mathlib.Tactic

namespace Barton.Parsing
variable {Token Failure Value Result : Type}

/-- A cursor is a list of tokens with the offset of the next token. -/
structure Cursor (Token : Type) where
  tokens : List Token
  offset : Nat
  deriving DecidableEq

/-- These tokens are still unread. -/
def Cursor.remaining (cursor : Cursor Token) : List Token := cursor.tokens.drop cursor.offset

/-- The cursor passes over tokens. -/
def Cursor.advance (cursor : Cursor Token) (count : Nat) : Cursor Token :=
  { cursor with offset := cursor.offset + count }

/-- A parser moves a cursor, or fails. -/
abbrev Parser (Token Failure Value : Type) := StateT (Cursor Token) (Except Failure) Value

/-- The second parser of a sequence starts where the first one stops. -/
theorem run_bind (first : Parser Token Failure Value) (next : Value → Parser Token Failure Result)
    (cursor : Cursor Token) : (first >>= next) cursor = first cursor >>= fun pair => next pair.1 pair.2 := rfl

/-- A sequence that succeeds has a first step that succeeds. -/
theorem ok_of_bind {first : Except Failure Value} {next : Value → Except Failure Result} {result : Result}
    (success : (first >>= next) = .ok result) : ∃ value, first = .ok value ∧ next value = .ok result := by
  cases first with
  | error failure => contradiction
  | ok value => exact ⟨value, rfl, success⟩

theorem Cursor.remaining_advance {cursor : Cursor Token} {input rest : List Token}
    (starts : cursor.remaining = input ++ rest) : (cursor.advance input.length).remaining = rest := by
  unfold Cursor.remaining Cursor.advance at *
  rw [← List.drop_drop, starts, List.drop_left]

theorem Cursor.advance_advance (cursor : Cursor Token) (first second : Nat) :
    (cursor.advance first).advance second = cursor.advance (first + second) := by
  unfold Cursor.advance
  simp only [Nat.add_assoc]

/-- A cursor stays inside its tokens when it passes over unread ones. -/
theorem Cursor.advance_inside {cursor : Cursor Token} {input rest : List Token}
    (inside : cursor.offset ≤ cursor.tokens.length) (starts : cursor.remaining = input ++ rest) :
    (cursor.advance input.length).offset ≤ (cursor.advance input.length).tokens.length := by
  have size := congrArg List.length starts
  rw [Cursor.remaining, List.length_drop, List.length_append] at size
  change cursor.offset + input.length ≤ cursor.tokens.length
  omega

theorem Cursor.offset_lt_of_remaining {cursor : Cursor Token} {token : Token} {rest : List Token}
    (starts : cursor.remaining = token :: rest) : cursor.offset < cursor.tokens.length := by
  by_contra outside
  rw [Cursor.remaining, List.drop_of_length_le (Nat.le_of_not_lt outside)] at starts
  simp at starts

/-- The first unread token is the token at the offset. -/
theorem Cursor.getElem?_offset {cursor : Cursor Token} {token : Token} {rest : List Token}
    (starts : cursor.remaining = token :: rest) : cursor.tokens[cursor.offset]? = some token := by
  have first := congrArg List.head? starts
  rwa [Cursor.remaining, List.head?_drop] at first

/-- A parser reads an input as a value when it consumes exactly that input, whatever follows. -/
def Reads (parser : Parser Token Failure Value) (input : List Token) (value : Value) : Prop :=
  ∀ cursor rest, cursor.offset ≤ cursor.tokens.length → cursor.remaining = input ++ rest →
    parser cursor = .ok (value, cursor.advance input.length)

theorem Reads.pure (value : Value) : Reads (Pure.pure value : Parser Token Failure Value) [] value := by
  intro cursor rest _ _
  rfl

/-- Two parsers in sequence read the two inputs in sequence. -/
theorem Reads.bind {first : Parser Token Failure Value} {next : Value → Parser Token Failure Result}
    {input later : List Token} {value : Value} {result : Result} (reads : Reads first input value)
    (continues : Reads (next value) later result) :
    Reads (first >>= next) (input ++ later) result := by
  intro cursor rest inside starts
  rw [List.append_assoc] at starts
  have still := Cursor.advance_inside inside starts
  rw [run_bind, reads cursor (later ++ rest) inside starts]
  change next value (cursor.advance input.length) = _
  rw [continues _ rest still (Cursor.remaining_advance starts), Cursor.advance_advance,
    List.length_append]

/-- A parser that ends with a conversion of its value reads the same input. -/
theorem Reads.map {parser : Parser Token Failure Value} {input : List Token} {value : Value}
    (convert : Value → Result) (reads : Reads parser input value) :
    Reads (parser >>= fun value => Pure.pure (convert value)) input (convert value) := by
  have mapped : Reads (parser >>= fun value => Pure.pure (convert value)) (input ++ []) (convert value) :=
    reads.bind (Reads.pure (convert value))
  rwa [List.append_nil] at mapped

/-- A fresh cursor over the whole input ends at its last token. -/
theorem Reads.complete {parser : Parser Token Failure Value} {input : List Token} {value : Value}
    (reads : Reads parser input value) : parser ⟨input, 0⟩ = .ok (value, ⟨input, input.length⟩) := by
  have read := reads ⟨input, 0⟩ [] (Nat.zero_le _) (by simp [Cursor.remaining])
  simpa [Cursor.advance] using read

section Truncation
variable {failure : Failure} {property : Value → Prop} {target : Result → Prop} {input later : List Token}
  {first parser : Parser Token Failure Value} {next : Value → Parser Token Failure Result} {value : Value}

/-- A parser fails on an input that ends after these tokens. -/
def Starves (failure : Failure) (parser : Parser Token Failure Value) (input : List Token) : Prop :=
  ∀ cursor, cursor.offset ≤ cursor.tokens.length → cursor.remaining = input → parser cursor = .error failure

/-- A parser returns at the end of an input. -/
def Ends (parser : Parser Token Failure Value) (input : List Token) (value : Value) : Prop :=
  ∀ cursor, cursor.offset ≤ cursor.tokens.length → cursor.remaining = input →
    parser cursor = .ok (value, cursor.advance input.length)

/-- A parser fails on every proper prefix of an input. -/
def Demands (failure : Failure) (parser : Parser Token Failure Value) (input : List Token) : Prop :=
  ∀ start rest, input = start ++ rest → rest ≠ [] → Starves failure parser start

/-- A parser reads an input as a value with a property, and fails on every proper prefix of the input. -/
structure Takes (failure : Failure) (parser : Parser Token Failure Value) (input : List Token)
    (property : Value → Prop) : Prop where
  reads : ∃ value, property value ∧ Reads parser input value
  demands : Demands failure parser input

theorem Demands.nil (parser : Parser Token Failure Value) : Demands failure parser [] := by
  intro start rest split nonempty
  exact absurd (List.append_eq_nil_iff.mp split.symm).2 nonempty

/-- A sequence fails when its first parser fails. -/
theorem Starves.bind (starves : Starves failure first input)
    (next : Value → Parser Token Failure Result) : Starves failure (first >>= next) input := by
  intro cursor inside starts
  rw [run_bind, starves cursor inside starts]
  rfl

/-- A sequence fails when its second parser fails on what the first one leaves. -/
theorem Reads.starves (reads : Reads first input value) (starves : Starves failure (next value) later) :
    Starves failure (first >>= next) (input ++ later) := by
  intro cursor inside starts
  rw [run_bind, reads cursor later inside starts]
  exact starves _ (Cursor.advance_inside inside starts) (Cursor.remaining_advance starts)

/-- A sequence returns at the end of an input when its second parser does so after the first one. -/
theorem Reads.ends_bind {result : Result} (reads : Reads first input value) (ends : Ends (next value) later result) :
    Ends (first >>= next) (input ++ later) result := by
  intro cursor inside starts
  rw [run_bind, reads cursor later inside starts]
  change next value (cursor.advance input.length) = _
  rw [ends _ (Cursor.advance_inside inside starts) (Cursor.remaining_advance starts), Cursor.advance_advance,
    List.length_append]

/-- A sequence returns at the end of an input when its second parser returns there. -/
theorem Ends.bind {result : Result} (ends : Ends first input value) (continues : Ends (next value) [] result) :
    Ends (first >>= next) input result := by
  intro cursor inside starts
  have whole : cursor.remaining = input ++ [] := starts.trans (List.append_nil input).symm
  rw [run_bind, ends cursor inside starts]
  exact continues _ (Cursor.advance_inside inside whole) (Cursor.remaining_advance whole)

/-- A parser that ends with a conversion of its value returns at the same end. -/
theorem Ends.map (convert : Value → Result) (ends : Ends parser input value) :
    Ends (parser >>= fun value => Pure.pure (convert value)) input (convert value) := by
  intro cursor inside starts
  rw [run_bind, ends cursor inside starts]
  rfl

/-- A proper prefix of two inputs in sequence ends inside the first one or inside the second one. -/
theorem split_append {start rest : List Token} (split : input ++ later = start ++ rest) :
    (∃ missing, input = start ++ missing ∧ missing ≠ []) ∨ ∃ inner, start = input ++ inner ∧ later = inner ++ rest := by
  rcases List.append_eq_append_iff.mp split with ⟨inner, same, tail⟩ | ⟨missing, same, tail⟩
  · exact Or.inr ⟨inner, same, tail⟩
  · by_cases empty : missing = []
    · subst empty
      exact Or.inr ⟨[], by rw [same, List.append_nil, List.append_nil], tail.symm⟩
    · exact Or.inl ⟨missing, same, empty⟩

theorem Demands.bind (demands : Demands failure first input) (reads : Reads first input value)
    (continues : Demands failure (next value) later) : Demands failure (first >>= next) (input ++ later) := by
  intro start rest split nonempty
  rcases split_append split with ⟨missing, same, cut⟩ | ⟨inner, rfl, tail⟩
  · exact (demands start missing same cut).bind next
  · exact reads.starves (continues inner rest tail nonempty)

theorem Demands.map (convert : Value → Result) (demands : Demands failure parser input) :
    Demands failure (parser >>= fun value => Pure.pure (convert value)) input :=
  fun start rest split nonempty => (demands start rest split nonempty).bind _

theorem Takes.pure (holds : property value) :
    Takes failure (Pure.pure value : Parser Token Failure Value) [] property :=
  ⟨⟨value, holds, Reads.pure value⟩, Demands.nil _⟩

/-- Two parsers in sequence take the two inputs in sequence. -/
theorem Takes.bind (takes : Takes failure first input property)
    (continues : ∀ value, property value → Takes failure (next value) later target) :
    Takes failure (first >>= next) (input ++ later) target := by
  obtain ⟨value, holds, reads⟩ := takes.reads
  obtain ⟨result, kept, readsLater⟩ := (continues value holds).reads
  exact ⟨⟨result, kept, reads.bind readsLater⟩, takes.demands.bind reads (continues value holds).demands⟩

theorem Takes.map {convert : Value → Result}
    (takes : Takes failure parser input property) (holds : ∀ value, property value → target (convert value)) :
    Takes failure (parser >>= fun value => Pure.pure (convert value)) input target := by
  obtain ⟨value, held, reads⟩ := takes.reads
  exact ⟨⟨convert value, holds value held, reads.map convert⟩, takes.demands.map convert⟩

end Truncation

section Segments
variable {Letter : Type} {separator : Letter} {word segment rest : List Letter}

/-- A separated word starts a path exactly when it is the first segment. -/
theorem prefix_segment_iff (plainWord : separator ∉ word) (plain : separator ∉ segment) :
    word ++ [separator] <+: segment ++ separator :: rest ↔ word = segment := by
  induction word generalizing segment with
  | nil =>
      cases segment with
      | nil => simp
      | cons letter others =>
          rw [List.mem_cons, not_or] at plain
          simp [plain.1]
  | cons letter others ih =>
      rw [List.mem_cons, not_or] at plainWord
      cases segment with
      | nil => simp [Ne.symm plainWord.1]
      | cons first segment =>
          rw [List.mem_cons, not_or] at plain
          rw [List.cons_append, List.cons_append, List.cons_prefix_cons, ih plainWord.2 plain.2,
            List.cons.injEq]

/-- A text that starts with the separator does not start inside a segment. -/
theorem infix_skip_iff {text : List Letter} (plain : separator ∉ segment) :
    separator :: text <:+: segment ++ rest ↔ separator :: text <:+: rest := by
  induction segment with
  | nil => rfl
  | cons letter others ih =>
      rw [List.mem_cons, not_or] at plain
      rw [List.cons_append, List.infix_cons_iff, List.cons_prefix_cons, ih plain.2]
      simp [plain.1]

/-- A separated word is in a path exactly when it is the first segment or in the rest. -/
theorem infix_segment_iff (plainWord : separator ∉ word) (plain : separator ∉ segment) :
    separator :: (word ++ [separator]) <:+: separator :: (segment ++ separator :: rest) ↔
      word = segment ∨ separator :: (word ++ [separator]) <:+: separator :: rest := by
  rw [List.infix_cons_iff, List.cons_prefix_cons, prefix_segment_iff plainWord plain,
    infix_skip_iff plain]
  simp

/-- A separated word is not in the last segment. -/
theorem not_infix_last (plain : separator ∉ segment) :
    ¬separator :: (word ++ [separator]) <:+: separator :: segment := by
  intro inside
  rw [List.infix_cons_iff, List.cons_prefix_cons] at inside
  rcases inside with ⟨_, start⟩ | later
  · exact plain (start.subset (List.mem_append_right _ (List.mem_singleton_self _)))
  · exact plain (later.subset List.mem_cons_self)

end Segments

end Barton.Parsing
