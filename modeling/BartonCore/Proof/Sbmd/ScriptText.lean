import BartonCore.Construction.Sbmd.Braces
import BartonCore.ToMathlib.Nesting

namespace Barton.Braces
open Nesting

section Grammar
variable {rest : Text}

/-- Two readings of a script differ in what ends a line and in the code that a template literal substitutes. -/
structure Lexis where
  lineEnds : List Text
  substitution : Option (Text → Prop)

def lineFeed : Text := ['\n']
def carriageReturn : Text := ['\r']

/-- These are the bytes of the line separator and of the paragraph separator. -/
def lineSeparator : Text := ['\xe2', '\x80', '\xa8']
def paragraphSeparator : Text := ['\xe2', '\x80', '\xa9']

/-- In the language, a template literal substitutes any code. -/
def javascript : Lexis where
  lineEnds := [lineFeed, carriageReturn, lineSeparator, paragraphSeparator]
  substitution := some fun _ => True

/-- The search reads the text of a template literal without its substitutions. -/
def scanner : Lexis where
  lineEnds := [lineFeed]
  substitution := none

/-- The code of a substitution has no backtick, and a line comment ends at a line feed. -/
def flat : Lexis where
  lineEnds := [lineFeed]
  substitution := some fun code => backtick ∉ code

/-- The text of a string literal has no quote without a backslash before it. It may go over several lines. -/
inductive Literal (quote : Char) : Text → Prop
  | nil : Literal quote []
  | character {c : Char} {text : Text} (different : c ≠ quote ∧ c ≠ backslash) (later : Literal quote text) :
      Literal quote (c :: text)
  | escape {c : Char} {text : Text} (later : Literal quote text) : Literal quote (backslash :: c :: text)

/-- The character starts no comment or literal, and it is not a brace. -/
structure Ordinary (c : Char) (rest : Text) : Prop where
  noBrace : c ≠ '{' ∧ c ≠ '}'
  noQuote : c ≠ quotationMark ∧ c ≠ apostrophe ∧ c ≠ backtick
  noComment : c = '/' → rest.head? ≠ some '/' ∧ rest.head? ≠ some '*'

theorem Ordinary.of_not {c : Char} (noOpen : c ≠ '{') (noClose : c ≠ '}')
    (noQuote : ¬ (c = quotationMark ∨ c = apostrophe ∨ c = backtick))
    (noLine : ¬ (c = '/' ∧ rest.head? = some '/')) (noBlock : ¬ (c = '/' ∧ rest.head? = some '*')) :
    Ordinary c rest := by
  rw [not_or, not_or] at noQuote
  refine ⟨⟨noOpen, noClose⟩, noQuote, fun slash => ?_⟩
  exact ⟨fun next => noLine ⟨slash, next⟩, fun next => noBlock ⟨slash, next⟩⟩

theorem Ordinary.not_quote {c : Char} (ordinary : Ordinary c rest) : ¬ (c = quotationMark ∨ c = apostrophe) :=
  not_or.mpr ⟨ordinary.noQuote.1, ordinary.noQuote.2.1⟩

theorem Ordinary.append {c brace : Char} (ordinary : Ordinary c rest)
    (isBrace : brace = '{' ∨ brace = '}') (more : Text) : Ordinary c (rest ++ brace :: more) := by
  refine ⟨ordinary.noBrace, ordinary.noQuote, fun slash => ?_⟩
  cases rest with
  | nil => rcases isBrace with rfl | rfl <;> simp
  | cons next rest => exact ordinary.noComment slash

inductive Mode where
  | code
  | template

/-- The code is made of names, numbers, punctuation, comments, string literals, template literals and code in braces. -/
inductive Reads (lexis : Lexis) : Mode → Text → Prop
  | nil {mode : Mode} : Reads lexis mode []
  | plain {c : Char} {rest : Text} (ordinary : Ordinary c rest) (later : Reads lexis .code rest) :
      Reads lexis .code (c :: rest)
  | lineComment {body ending rest : Text} (clean : ∀ mark ∈ lexis.lineEnds, ¬ mark <:+: body)
      (ends : ending ∈ lexis.lineEnds) (later : Reads lexis .code rest) :
      Reads lexis .code ('/' :: '/' :: (body ++ (ending ++ rest)))
  | blockComment {body rest : Text} (clean : ¬ ['*', '/'] <:+: body) (later : Reads lexis .code rest) :
      Reads lexis .code ('/' :: '*' :: (body ++ '*' :: '/' :: rest))
  | string {quote : Char} {body rest : Text} (marked : quote = quotationMark ∨ quote = apostrophe)
      (literal : Literal quote body) (later : Reads lexis .code rest) :
      Reads lexis .code (quote :: (body ++ quote :: rest))
  | template {body rest : Text} (inside : Reads lexis .template body) (later : Reads lexis .code rest) :
      Reads lexis .code (backtick :: (body ++ backtick :: rest))
  | braces {inner rest : Text} (inside : Reads lexis .code inner) (later : Reads lexis .code rest) :
      Reads lexis .code ('{' :: (inner ++ '}' :: rest))
  | character {c : Char} {rest : Text} (different : c ≠ backtick ∧ c ≠ backslash)
      (literal : lexis.substitution = none ∨ ¬ ['$', '{'] <+: c :: rest) (later : Reads lexis .template rest) :
      Reads lexis .template (c :: rest)
  | escape {c : Char} {rest : Text} (later : Reads lexis .template rest) :
      Reads lexis .template (backslash :: c :: rest)
  | substitution {inner rest : Text} (allowed : ∃ allows ∈ lexis.substitution, allows inner)
      (inside : Reads lexis .code inner) (later : Reads lexis .template rest) :
      Reads lexis .template ('$' :: '{' :: (inner ++ '}' :: rest))

theorem reads_bracketed (lexis : Lexis) : Bracketed (Reads lexis .code) '{' '}' :=
  ⟨.nil, .braces⟩

/-- Without substitutions, a template literal is as a string literal. -/
theorem Reads.literal {body : Text} (reads : Reads scanner .template body) : Literal backtick body := by
  generalize template : Mode.template = mode at reads
  induction reads with
  | nil => exact .nil
  | character different _ _ ih => exact .character different (ih template)
  | escape _ ih => exact .escape (ih template)
  | substitution allowed => simp [scanner] at allowed
  | plain | lineComment | blockComment | string | template | braces => cases template

theorem Literal.reads {body : Text} (literal : Literal backtick body) : Reads scanner .template body := by
  induction literal with
  | nil => exact .nil
  | character different _ ih => exact .character different (.inl rfl) ih
  | escape _ ih => exact .escape ih

/-- The code of a substitution without a backtick is text of the literal for the scanner. -/
theorem Reads.append_template {code : Text} (clean : backtick ∉ code)
    (later : Reads scanner .template rest) : Reads scanner .template (code ++ '}' :: rest) := by
  induction code using List.twoStepInduction with
  | nil => exact .character (by decide) (.inl rfl) later
  | singleton c =>
      by_cases escapes : c = backslash
      · subst escapes
        exact .escape later
      · have different : c ≠ backtick := fun same => clean (by simp [same])
        exact .character ⟨different, escapes⟩ (.inl rfl) (.character (by decide) (.inl rfl) later)
  | cons_cons c next more skipped stepped =>
      rw [List.mem_cons, List.mem_cons, not_or, not_or] at clean
      by_cases escapes : c = backslash
      · subst escapes
        exact .escape (skipped clean.2.2)
      · exact .character ⟨Ne.symm clean.1, escapes⟩ (.inl rfl)
          (stepped next (by rw [List.mem_cons, not_or]; exact clean.2))

/-- The scanner reads code whose substitutions have no backtick. -/
theorem Reads.scanner_of_flat {mode : Mode} {text : Text} (reads : Reads flat mode text) :
    Reads scanner mode text := by
  induction reads with
  | nil => exact .nil
  | plain ordinary _ ih => exact .plain ordinary ih
  | lineComment clean ends _ ih => exact .lineComment clean ends ih
  | blockComment clean _ ih => exact .blockComment clean ih
  | string marked literal _ ih => exact .string marked literal ih
  | template _ _ insideRead ih => exact .template insideRead ih
  | braces _ _ insideRead ih => exact .braces insideRead ih
  | character different _ _ ih => exact .character different (.inl rfl) ih
  | escape _ ih => exact .escape ih
  | substitution allowed _ _ _ ih =>
      obtain ⟨allows, same, clean⟩ := allowed
      cases same
      refine .character (by decide) (.inl rfl) (.character (by decide) (.inl rfl) ?_)
      exact ih.append_template clean

end Grammar

section Loops
variable {source : Text} {pos : Nat} {body rest : Text}

theorem drop_cons {c : Char} {rest : Text} (here : source.drop pos = c :: rest) :
    ∃ inside : pos < source.length, source[pos] = c ∧ source.drop (pos + 1) = rest := by
  have inside : pos < source.length := by
    by_contra outside
    rw [List.drop_eq_nil_of_le (Nat.le_of_not_lt outside)] at here
    cases here
  rw [List.drop_eq_getElem_cons inside, List.cons_eq_cons] at here
  exact ⟨inside, here⟩

theorem drop_append {front rest : Text} (here : source.drop pos = front ++ rest) :
    source.drop (pos + front.length) = rest := by
  rw [← List.drop_drop, here, List.drop_left]

/-- The line comment ends at its first line feed. -/
theorem skipLineComment_append (clean : '\n' ∉ body)
    (here : source.drop pos = body ++ '\n' :: rest) : skipLineComment source pos = pos + body.length := by
  induction body generalizing pos with
  | nil =>
      obtain ⟨inside, lineEnd, _⟩ := drop_cons here
      rw [skipLineComment, dif_pos inside, if_pos lineEnd]
      rfl
  | cons c body ih =>
      rw [List.mem_cons, not_or] at clean
      obtain ⟨inside, first, behind⟩ := drop_cons here
      rw [skipLineComment, dif_pos inside, if_neg (by rw [first]; exact Ne.symm clean.1), ih clean.2 behind,
        List.length_cons]
      omega

theorem skipLineComment_unfinished (clean : '\n' ∉ source.drop pos) : source.length ≤ skipLineComment source pos := by
  induction pos using skipLineComment.induct source with
  | case1 pos inside found =>
      rw [List.drop_eq_getElem_cons inside, found] at clean
      simp at clean
  | case2 pos inside other ih =>
      rw [skipLineComment, dif_pos inside, if_neg other]
      rw [List.drop_eq_getElem_cons inside, List.mem_cons, not_or] at clean
      exact ih clean.2
  | case3 pos outside =>
      rw [skipLineComment, dif_neg outside]
      exact Nat.le_of_not_lt outside

theorem endMark_prefix {c : Char} {rest : Text} : ['*', '/'] <+: c :: rest ↔ c = '*' ∧ rest.head? = some '/' := by
  rw [List.cons_prefix_cons, eq_comm]
  refine and_congr_right fun _ => ?_
  cases rest with
  | nil => simp
  | cons d rest => simp [List.cons_prefix_cons, eq_comm]

/-- The block comment ends at its first end mark. -/
theorem skipBlockComment_append (clean : ¬ ['*', '/'] <:+: body)
    (here : source.drop pos = body ++ '*' :: '/' :: rest) : skipBlockComment source pos = pos + body.length := by
  induction body generalizing pos with
  | nil =>
      obtain ⟨_, star, behind⟩ := drop_cons here
      obtain ⟨inside, slash, _⟩ := drop_cons behind
      rw [skipBlockComment, dif_pos inside, if_pos ⟨star, slash⟩]
      rfl
  | cons c body ih =>
      rw [List.infix_cons_iff, not_or, endMark_prefix] at clean
      obtain ⟨_, first, behind⟩ := drop_cons here
      have inside : pos + 1 < source.length := by
        have length := congrArg List.length behind
        simp at length
        omega
      have next : ¬ (source[pos] = '*' ∧ source[pos + 1] = '/') := by
        rintro ⟨star, slash⟩
        rw [List.drop_eq_getElem_cons inside, slash] at behind
        refine clean.1 ⟨first ▸ star, ?_⟩
        cases body with
        | nil => simp at behind
        | cons d body => exact congrArg some (List.cons_eq_cons.mp behind).1.symm
      rw [skipBlockComment, dif_pos inside, if_neg next, ih clean.2 behind, List.length_cons]
      omega

/-- A block comment has an end mark, or it takes the whole text. -/
theorem skipBlockComment_cases (source : Text) (pos : Nat) :
    (∃ body rest, ¬ ['*', '/'] <:+: body ∧ source.drop pos = body ++ '*' :: '/' :: rest) ∨
      source.length ≤ skipBlockComment source pos + 2 := by
  induction pos using skipBlockComment.induct source with
  | case1 pos inside found =>
      refine .inl ⟨[], source.drop (pos + 2), by simp, ?_⟩
      rw [List.drop_eq_getElem_cons (by omega), List.drop_eq_getElem_cons inside, found.1, found.2]
      rfl
  | case2 pos inside other ih =>
      rw [skipBlockComment, dif_pos inside, if_neg other]
      rcases ih with ⟨body, rest, clean, behind⟩ | unfinished
      · refine .inl ⟨source[pos] :: body, rest, ?_, ?_⟩
        · rw [List.infix_cons_iff, not_or, endMark_prefix]
          refine ⟨fun mark => other ⟨mark.1, ?_⟩, clean⟩
          obtain ⟨tail, rfl⟩ := List.head?_eq_some_iff.mp mark.2
          exact (drop_cons behind).2.1
        · rw [List.drop_eq_getElem_cons (by omega), behind]
          rfl
      · exact .inr unfinished
  | case3 pos outside =>
      rw [skipBlockComment, dif_neg outside]
      omega

/-- The literal ends at its quote. -/
theorem skipLiteral_append {quote : Char} (marked : quote ≠ backslash)
    (literal : Literal quote body) (here : source.drop pos = body ++ quote :: rest) :
    skipLiteral source quote pos = pos + body.length := by
  induction literal generalizing pos with
  | nil =>
      obtain ⟨inside, found, _⟩ := drop_cons here
      rw [skipLiteral, dif_pos inside, if_pos found]
      rfl
  | character different _ ih =>
      obtain ⟨inside, first, behind⟩ := drop_cons here
      rw [skipLiteral, dif_pos inside, if_neg (by rw [first]; exact different.1),
        if_neg (by rw [first]; exact different.2), ih behind, List.length_cons]
      omega
  | escape _ ih =>
      obtain ⟨inside, first, behind⟩ := drop_cons here
      obtain ⟨_, _, later⟩ := drop_cons behind
      rw [skipLiteral, dif_pos inside, if_neg (by rw [first]; exact Ne.symm marked), if_pos first, ih later,
        List.length_cons, List.length_cons]
      omega

/-- A literal has a quote, or it takes the whole text. -/
theorem skipLiteral_cases (source : Text) (quote : Char) (pos : Nat) :
    (∃ body rest, Literal quote body ∧ source.drop pos = body ++ quote :: rest) ∨
      source.length ≤ skipLiteral source quote pos := by
  induction pos using skipLiteral.induct source quote with
  | case1 pos inside found =>
      refine .inl ⟨[], source.drop (pos + 1), .nil, ?_⟩
      rw [List.drop_eq_getElem_cons inside, found]
      rfl
  | case2 pos inside other escape ih =>
      rw [skipLiteral, dif_pos inside, if_neg other, if_pos escape]
      rcases ih with ⟨body, rest, literal, behind⟩ | unfinished
      · have next : pos + 1 < source.length := by
          by_contra outside
          rw [List.drop_eq_nil_of_le (by omega)] at behind
          simp at behind
        refine .inl ⟨backslash :: source[pos + 1] :: body, rest, .escape literal, ?_⟩
        rw [List.drop_eq_getElem_cons inside, List.drop_eq_getElem_cons next, behind, escape]
        rfl
      · exact .inr unfinished
  | case3 pos inside other plain ih =>
      rw [skipLiteral, dif_pos inside, if_neg other, if_neg plain]
      rcases ih with ⟨body, rest, literal, behind⟩ | unfinished
      · refine .inl ⟨source[pos] :: body, rest, .character ⟨other, plain⟩ literal, ?_⟩
        rw [List.drop_eq_getElem_cons inside, behind]
        rfl
      · exact .inr unfinished
  | case4 pos outside =>
      rw [skipLiteral, dif_neg outside]
      exact .inr (Nat.le_of_not_lt outside)

end Loops

section Blocks

/-- No end of a line starts inside another one. -/
theorem lineEnd_apart {ending next : Text} (ends : ending ∈ javascript.lineEnds)
    (nextEnds : next ∈ javascript.lineEnds) : ∃ c later, next = c :: later ∧ c ∉ ending.tail := by
  have starts : ∃ c later, next = c :: later ∧ (c = '\n' ∨ c = '\r' ∨ c = '\xe2') := by
    simp only [javascript, List.mem_cons, List.not_mem_nil, or_false] at nextEnds
    rcases nextEnds with rfl | rfl | rfl | rfl
    · exact ⟨_, _, rfl, .inl rfl⟩
    · exact ⟨_, _, rfl, .inr (.inl rfl)⟩
    · exact ⟨_, _, rfl, .inr (.inr rfl)⟩
    · exact ⟨_, _, rfl, .inr (.inr rfl)⟩
  obtain ⟨c, later, rfl, first⟩ := starts
  refine ⟨c, later, rfl, ?_⟩
  simp only [javascript, List.mem_cons, List.not_mem_nil, or_false] at ends
  rcases ends with rfl | rfl | rfl | rfl <;> rcases first with rfl | rfl | rfl <;> decide

/-- The text of a line comment has no end of a line, so the first one ends it. -/
theorem lineEnd_starts {ending next front rest more : Text} (ends : ending ∈ javascript.lineEnds)
    (nextEnds : next ∈ javascript.lineEnds) (nonempty : front ≠ [])
    (same : ending ++ rest = front ++ (next ++ more)) : ending <+: front := by
  rcases List.append_eq_append_iff.mp same with ⟨inside, rfl, _⟩ | ⟨left, rfl, split⟩
  · exact List.prefix_append _ _
  · obtain ⟨c, later, rfl, apart⟩ := lineEnd_apart ends nextEnds
    cases left with
    | nil => rw [List.append_nil]
    | cons d left =>
        obtain ⟨rfl, _⟩ := List.cons_eq_cons.mp split
        rw [List.tail_append_of_ne_nil nonempty] at apart
        exact absurd (List.mem_append_right _ List.mem_cons_self) apart

theorem lineComment_unique {body other ending next rest more : Text} (ends : ending ∈ javascript.lineEnds)
    (nextEnds : next ∈ javascript.lineEnds) (clean : ∀ mark ∈ javascript.lineEnds, ¬ mark <:+: body)
    (otherClean : ∀ mark ∈ javascript.lineEnds, ¬ mark <:+: other)
    (same : body ++ (ending ++ rest) = other ++ (next ++ more)) : body = other ∧ ending = next ∧ rest = more := by
  have bodies : body = other := by
    rcases List.append_eq_append_iff.mp same with ⟨front, rfl, split⟩ | ⟨front, rfl, split⟩
    · by_contra different
      have nonempty : front ≠ [] := fun empty => different (by rw [empty, List.append_nil])
      exact otherClean ending ends
        ((lineEnd_starts ends nextEnds nonempty split).isInfix.trans (List.suffix_append _ _).isInfix)
    · by_contra different
      have nonempty : front ≠ [] := fun empty => different (by rw [empty, List.append_nil])
      exact clean next nextEnds
        ((lineEnd_starts nextEnds ends nonempty split).isInfix.trans (List.suffix_append _ _).isInfix)
  subst bodies
  have endings := List.append_cancel_left same
  simp only [javascript, List.mem_cons, List.not_mem_nil, or_false] at ends nextEnds
  rcases ends with rfl | rfl | rfl | rfl <;> rcases nextEnds with rfl | rfl | rfl | rfl
  all_goals first
    | exact ⟨rfl, rfl, List.append_cancel_left endings⟩
    | simp [lineFeed, carriageReturn, lineSeparator, paragraphSeparator] at endings

theorem blockComment_unique {body other rest more : Text} (clean : ¬ ['*', '/'] <:+: body)
    (otherClean : ¬ ['*', '/'] <:+: other) (same : body ++ '*' :: '/' :: rest = other ++ '*' :: '/' :: more) :
    body = other ∧ rest = more := by
  have first : skipBlockComment (body ++ '*' :: '/' :: rest) 0 = 0 + body.length := skipBlockComment_append clean rfl
  have second : skipBlockComment (body ++ '*' :: '/' :: rest) 0 = 0 + other.length :=
    skipBlockComment_append otherClean same
  obtain ⟨rfl, behind⟩ := List.append_inj same (by omega)
  exact ⟨rfl, (List.cons_eq_cons.mp (List.cons_eq_cons.mp behind).2).2⟩

theorem noEscape_of_quote {quote : Char} (marked : quote = quotationMark ∨ quote = apostrophe ∨ quote = backtick) :
    quote ≠ backslash := by
  rcases marked with rfl | rfl | rfl <;> decide

theorem Literal.unique {quote : Char} (marked : quote ≠ backslash) {body other rest more : Text}
    (literal : Literal quote body) (otherLiteral : Literal quote other)
    (same : body ++ quote :: rest = other ++ quote :: more) : body = other ∧ rest = more := by
  have first : skipLiteral (body ++ quote :: rest) quote 0 = 0 + body.length := skipLiteral_append marked literal rfl
  have second : skipLiteral (body ++ quote :: rest) quote 0 = 0 + other.length :=
    skipLiteral_append marked otherLiteral same
  obtain ⟨rfl, behind⟩ := List.append_inj same (by omega)
  exact ⟨rfl, (List.cons_eq_cons.mp behind).2⟩

theorem Ordinary.not_comment {c next : Char} {rest behind more : Text} (ordinary : Ordinary c rest)
    (comment : next = '/' ∨ next = '*') : c :: (rest ++ '}' :: behind) ≠ '/' :: next :: more := by
  intro same
  obtain ⟨rfl, next_eq⟩ := List.cons_eq_cons.mp same
  obtain ⟨noLine, noBlock⟩ := (ordinary.append (.inr rfl) behind).noComment rfl
  rw [next_eq] at noLine noBlock
  rcases comment with rfl | rfl
  · exact noLine rfl
  · exact noBlock rfl

theorem not_substitution {c : Char} {rest behind more : Text}
    (literal : javascript.substitution = none ∨ ¬ ['$', '{'] <+: c :: rest) :
    c :: (rest ++ backtick :: behind) ≠ '$' :: '{' :: more := by
  intro same
  obtain ⟨rfl, next⟩ := List.cons_eq_cons.mp same
  rcases literal with none_allowed | noSubstitution
  · cases none_allowed
  · cases rest with
    | nil => cases next
    | cons d rest =>
        obtain ⟨rfl, _⟩ := List.cons_eq_cons.mp next
        exact noSubstitution (List.prefix_append _ rest)

/-- This character ends the text. -/
def Mode.ending : Mode → Char
  | .code => '}'
  | .template => backtick

/-- A text reads in one way up to its end. -/
theorem Reads.unique {mode : Mode} {text other rest more : Text} (first : Reads javascript mode text)
    (second : Reads javascript mode other) (same : text ++ mode.ending :: rest = other ++ mode.ending :: more) :
    text = other := by
  induction first generalizing other rest more with
  | nil =>
      cases second with
      | nil => rfl
      | plain ordinary => exact absurd (List.cons_eq_cons.mp same).1.symm ordinary.noBrace.2
      | string marked => rcases marked with rfl | rfl <;> cases same
      | character different => exact absurd (List.cons_eq_cons.mp same).1.symm different.1
      | lineComment | blockComment | template | braces | escape | substitution => cases same
  | plain ordinary _ ih =>
      cases second with
      | nil => exact absurd (List.cons_eq_cons.mp same).1 ordinary.noBrace.2
      | plain _ later =>
          obtain ⟨rfl, behind⟩ := List.cons_eq_cons.mp same
          rw [ih later behind]
      | lineComment => exact absurd same (ordinary.not_comment (.inl rfl))
      | blockComment => exact absurd same (ordinary.not_comment (.inr rfl))
      | string marked =>
          obtain ⟨rfl, _⟩ := List.cons_eq_cons.mp same
          exact absurd marked ordinary.not_quote
      | template => exact absurd (List.cons_eq_cons.mp same).1 ordinary.noQuote.2.2
      | braces => exact absurd (List.cons_eq_cons.mp same).1 ordinary.noBrace.1
  | lineComment clean ends _ ih =>
      cases second with
      | plain ordinary => exact absurd same.symm (ordinary.not_comment (.inl rfl))
      | lineComment otherClean otherEnds later =>
          simp only [List.cons_append, List.append_assoc, List.cons.injEq, true_and] at same
          obtain ⟨rfl, rfl, behind⟩ := lineComment_unique ends otherEnds clean otherClean same
          rw [ih later behind]
      | string marked => rcases marked with rfl | rfl <;> cases same
      | nil | blockComment | template | braces => cases same
  | blockComment clean _ ih =>
      cases second with
      | plain ordinary => exact absurd same.symm (ordinary.not_comment (.inr rfl))
      | blockComment otherClean later =>
          simp only [List.cons_append, List.append_assoc, List.cons.injEq, true_and] at same
          obtain ⟨rfl, behind⟩ := blockComment_unique clean otherClean same
          rw [ih later behind]
      | string marked => rcases marked with rfl | rfl <;> cases same
      | nil | lineComment | template | braces => cases same
  | string marked literal _ ih =>
      cases second with
      | plain ordinary =>
          obtain ⟨rfl, _⟩ := List.cons_eq_cons.mp same
          exact absurd marked ordinary.not_quote
      | string _ otherLiteral later =>
          simp only [List.cons_append, List.append_assoc] at same
          obtain ⟨rfl, inside⟩ := List.cons_eq_cons.mp same
          have noEscape := noEscape_of_quote (marked.imp_right .inl)
          obtain ⟨rfl, behind⟩ := literal.unique noEscape otherLiteral inside
          rw [ih later behind]
      | nil | lineComment | blockComment | template | braces => rcases marked with rfl | rfl <;> cases same
  | template _ _ inner ih =>
      cases second with
      | plain ordinary => exact absurd (List.cons_eq_cons.mp same).1.symm ordinary.noQuote.2.2
      | template inside later =>
          simp only [List.cons_append, List.append_assoc, List.cons.injEq, true_and] at same
          obtain rfl := inner inside same
          rw [ih later (List.cons_eq_cons.mp (List.append_cancel_left same)).2]
      | string marked => rcases marked with rfl | rfl <;> cases same
      | nil | lineComment | blockComment | braces => cases same
  | braces _ _ inner ih =>
      cases second with
      | plain ordinary => exact absurd (List.cons_eq_cons.mp same).1.symm ordinary.noBrace.1
      | braces inside later =>
          simp only [List.cons_append, List.append_assoc, List.cons.injEq, true_and] at same
          obtain rfl := inner inside same
          rw [ih later (List.cons_eq_cons.mp (List.append_cancel_left same)).2]
      | string marked => rcases marked with rfl | rfl <;> cases same
      | nil | lineComment | blockComment | template => cases same
  | character different plain _ ih =>
      cases second with
      | nil => exact absurd (List.cons_eq_cons.mp same).1 different.1
      | character _ _ later =>
          obtain ⟨rfl, behind⟩ := List.cons_eq_cons.mp same
          rw [ih later behind]
      | escape => exact absurd (List.cons_eq_cons.mp same).1 different.2
      | substitution => exact absurd same (not_substitution plain)
  | escape _ ih =>
      cases second with
      | character different => exact absurd (List.cons_eq_cons.mp same).1.symm different.2
      | escape later =>
          obtain ⟨_, behind⟩ := List.cons_eq_cons.mp same
          obtain ⟨rfl, inside⟩ := List.cons_eq_cons.mp behind
          rw [ih later inside]
      | nil | substitution => cases same
  | substitution _ _ _ inner ih =>
      cases second with
      | character _ plain => exact absurd same.symm (not_substitution plain)
      | substitution _ inside later =>
          simp only [List.cons_append, List.append_assoc, List.cons.injEq, true_and] at same
          obtain rfl := inner inside same
          rw [ih later (List.cons_eq_cons.mp (List.append_cancel_left same)).2]
      | nil | escape => cases same

/-- A block of the language stands between its braces. -/
structure JsBlock where
  contents : Text
  code : Reads javascript .code contents

def JsBlock.starts (block : JsBlock) (behind : Text) : Prop := block.contents ++ ['}'] <+: behind

/-- A text starts at most one block. -/
theorem JsBlock.starts_unique {first second : JsBlock} {behind : Text} (starts : first.starts behind)
    (otherStarts : second.starts behind) : first.contents = second.contents := by
  obtain ⟨rest, rfl⟩ := starts
  obtain ⟨more, same⟩ := otherStarts
  rw [List.append_assoc, List.append_assoc] at same
  exact first.code.unique second.code same.symm

end Blocks
end Barton.Braces
