import BartonCore.Proof.Sbmd.ScriptText

namespace Barton.Braces
open Nesting

section Steps
variable {source : Text} {pos depth : Nat} {rest : Text}

theorem scan_outside (outside : source.length ≤ pos) : scan source pos depth = some (pos, depth) := by
  rw [scan, dif_neg (by omega)]

theorem scan_closed (source : Text) (pos : Nat) : scan source pos 0 = some (pos, 0) := by
  rw [scan, dif_neg (by omega)]

/-- This is one iteration of the loop. -/
theorem scan_cons {c : Char} (here : source.drop pos = c :: rest) (inside : 0 < depth) :
    scan source pos depth =
      if c = '/' ∧ rest.head? = some '/' then scan source (skipLineComment source pos) depth
      else if c = '/' ∧ rest.head? = some '*' then scan source (skipBlockComment source (pos + 2) + 2) depth
      else if c = quotationMark ∨ c = apostrophe then scan source (skipLiteral source c (pos + 1) + 1) depth
      else if c = backtick then scan source (skipLiteral source c (pos + 1) + 1) depth
      else if c = '{' then if depth < intMax then scan source (pos + 1) (depth + 1) else none
      else if c = '}' then scan source (pos + 1) (depth - 1)
      else scan source (pos + 1) depth := by
  obtain ⟨present, rfl, rfl⟩ := drop_cons here
  rw [scan, dif_pos ⟨present, inside⟩, List.head?_drop]
  rfl

theorem scan_enter (here : source.drop pos = '{' :: rest) (inside : 0 < depth) :
    scan source pos depth = if depth < intMax then scan source (pos + 1) (depth + 1) else none := by
  rw [scan_cons here inside]
  rfl

theorem scan_leave (here : source.drop pos = '}' :: rest) (inside : 0 < depth) :
    scan source pos depth = scan source (pos + 1) (depth - 1) := by
  rw [scan_cons here inside]
  rfl

theorem scan_ordinary {c : Char} (ordinary : Ordinary c rest) (here : source.drop pos = c :: rest)
    (inside : 0 < depth) : scan source pos depth = scan source (pos + 1) depth := by
  obtain ⟨⟨noOpen, noClose⟩, ⟨noDouble, noSingle, noTemplate⟩, noComment⟩ := ordinary
  rw [scan_cons here inside, if_neg fun line => (noComment line.1).1 line.2,
    if_neg fun block => (noComment block.1).2 block.2, if_neg (not_or.mpr ⟨noDouble, noSingle⟩),
    if_neg noTemplate, if_neg noOpen, if_neg noClose]

/-- Comments, literals and ordinary characters are read without a change of the depth. -/
inductive Lexeme (behind : Text) : Text → Prop
  | plain {c : Char} (ordinary : Ordinary c behind) : Lexeme behind [c]
  | lineComment {body : Text} (clean : '\n' ∉ body) : Lexeme behind ('/' :: '/' :: (body ++ ['\n']))
  | blockComment {body : Text} (clean : ¬ ['*', '/'] <:+: body) : Lexeme behind ('/' :: '*' :: (body ++ ['*', '/']))
  | literal {quote : Char} {body : Text} (marked : quote = quotationMark ∨ quote = apostrophe ∨ quote = backtick)
      (literal : Literal quote body) : Lexeme behind (quote :: (body ++ [quote]))

theorem scan_literal {quote : Char} (marked : quote = quotationMark ∨ quote = apostrophe ∨ quote = backtick)
    (here : source.drop pos = quote :: rest) (inside : 0 < depth) :
    scan source pos depth = scan source (skipLiteral source quote (pos + 1) + 1) depth := by
  rw [scan_cons here inside]
  rcases marked with rfl | rfl | rfl <;> rfl

/-- The loop goes over a lexeme to the text behind it. -/
theorem scan_lexeme {front behind : Text} (lexeme : Lexeme behind front) (here : source.drop pos = front ++ behind)
    (inside : 0 < depth) : scan source pos depth = scan source (pos + front.length) depth := by
  cases lexeme with
  | plain ordinary => exact scan_ordinary ordinary here inside
  | @lineComment body clean =>
      have comment : source.drop pos = ('/' :: '/' :: body) ++ '\n' :: behind := by
        rw [here]
        simp
      have skipped : skipLineComment source pos = pos + ('/' :: '/' :: body).length :=
        skipLineComment_append (by simp [clean]) comment
      have lineEnd : Ordinary '\n' behind := ⟨by decide, by decide, fun slash => absurd slash (by decide)⟩
      rw [scan_cons here inside, if_pos ⟨rfl, rfl⟩, skipped, scan_ordinary lineEnd (drop_append comment) inside]
      simp only [List.length_cons, List.length_append, List.length_nil]
      congr 1
  | @blockComment body clean =>
      have comment : source.drop (pos + 2) = body ++ '*' :: '/' :: behind := by
        rw [← List.drop_drop, here]
        simp
      rw [scan_cons here inside, if_neg (by simp), if_pos ⟨rfl, rfl⟩, skipBlockComment_append clean comment]
      simp only [List.length_cons, List.length_append, List.length_nil]
      congr 1
      omega
  | @literal quote body marked literal =>
      have inner : source.drop (pos + 1) = body ++ quote :: behind := by
        rw [← List.drop_drop, here]
        simp
      rw [scan_literal marked here inside, skipLiteral_append (noEscape_of_quote marked) literal inner]
      simp only [List.length_cons, List.length_append, List.length_nil]
      congr 1
      omega

/-- A lexeme may stand before code. -/
theorem Lexeme.reads {front word rest : Text} (lexeme : Lexeme (word ++ rest) front)
    (reads : Reads scanner .code word) : Reads scanner .code (front ++ word) := by
  cases lexeme with
  | @plain c ordinary =>
      refine .plain ⟨ordinary.noBrace, ordinary.noQuote, fun slash => ?_⟩ reads
      cases word with
      | nil => simp
      | cons next word => exact ordinary.noComment slash
  | @lineComment body clean =>
      have comment : Reads scanner .code ('/' :: '/' :: (body ++ (lineFeed ++ word))) := by
        refine .lineComment (fun mark isEnd found => clean ?_) (List.mem_singleton_self _) reads
        rw [List.mem_singleton.mp isEnd] at found
        exact found.subset (List.mem_singleton_self _)
      simpa [lineFeed] using comment
  | @blockComment body clean =>
      have comment : Reads scanner .code ('/' :: '*' :: (body ++ '*' :: '/' :: word)) := .blockComment clean reads
      simpa using comment
  | @literal quote body marked literal =>
      have whole : Reads scanner .code (quote :: (body ++ quote :: word)) := by
        rcases marked with double | single | rfl
        · exact .string (.inl double) literal reads
        · exact .string (.inr single) literal reads
        · exact .template literal.reads reads
      simpa using whole

/-- The loop goes over a lexeme, or over a comment or a literal without an end to the end of the source. -/
def Passes (source : Text) (pos depth : Nat) : Prop :=
  (∃ front behind, source.drop pos = front ++ behind ∧ front ≠ [] ∧ Lexeme behind front) ∨
    ∃ next, scan source pos depth = some (next, depth)

theorem passes_lineComment (here : source.drop pos = '/' :: '/' :: rest) (inside : 0 < depth) :
    Passes source pos depth := by
  by_cases finished : '\n' ∈ rest
  · obtain ⟨body, behind, rfl, clean⟩ := List.eq_append_cons_of_mem finished
    exact .inl ⟨_, behind, by simpa using here, by simp, .lineComment clean⟩
  · have unfinished : '\n' ∉ source.drop pos := by
      rw [here]
      simp [finished]
    refine .inr ⟨skipLineComment source pos, ?_⟩
    rw [scan_cons here inside, if_pos ⟨rfl, rfl⟩, scan_outside (skipLineComment_unfinished unfinished)]

theorem passes_blockComment (here : source.drop pos = '/' :: '*' :: rest) (inside : 0 < depth) :
    Passes source pos depth := by
  have inner : source.drop (pos + 2) = rest := by
    rw [← List.drop_drop, here]
    rfl
  rcases skipBlockComment_cases source (pos + 2) with ⟨body, behind, clean, found⟩ | unfinished
  · rw [inner] at found
    rw [found] at here
    exact .inl ⟨_, behind, by simpa using here, by simp, .blockComment clean⟩
  · refine .inr ⟨skipBlockComment source (pos + 2) + 2, ?_⟩
    rw [scan_cons here inside, if_neg (by simp), if_pos ⟨rfl, rfl⟩, scan_outside unfinished]

theorem passes_literal {quote : Char} (marked : quote = quotationMark ∨ quote = apostrophe ∨ quote = backtick)
    (here : source.drop pos = quote :: rest) (inside : 0 < depth) : Passes source pos depth := by
  obtain ⟨_, _, inner⟩ := drop_cons here
  rcases skipLiteral_cases source quote (pos + 1) with ⟨body, behind, literal, found⟩ | unfinished
  · rw [inner] at found
    rw [found] at here
    exact .inl ⟨_, behind, by simpa using here, by simp, .literal marked literal⟩
  · refine .inr ⟨skipLiteral source quote (pos + 1) + 1, ?_⟩
    rw [scan_literal marked here inside, scan_outside (Nat.le_succ_of_le unfinished)]

/-- At a character, the loop enters or leaves braces, or it passes other text. -/
theorem step_cases {c : Char} (here : source.drop pos = c :: rest) (inside : 0 < depth) :
    c = '{' ∨ c = '}' ∨ Passes source pos depth := by
  by_cases opening : c = '{'
  · exact .inl opening
  by_cases closing : c = '}'
  · exact .inr (.inl closing)
  refine .inr (.inr ?_)
  by_cases marked : c = quotationMark ∨ c = apostrophe ∨ c = backtick
  · exact passes_literal marked here inside
  by_cases line : c = '/' ∧ rest.head? = some '/'
  · obtain ⟨rfl, next⟩ := line
    obtain ⟨body, rfl⟩ := List.head?_eq_some_iff.mp next
    exact passes_lineComment here inside
  by_cases block : c = '/' ∧ rest.head? = some '*'
  · obtain ⟨rfl, next⟩ := block
    obtain ⟨body, rfl⟩ := List.head?_eq_some_iff.mp next
    exact passes_blockComment here inside
  exact .inl ⟨[c], rest, here, List.cons_ne_nil _ _, .plain (.of_not opening closing marked line block)⟩

end Steps

section Runs
variable {source : Text} {pos depth : Nat}

/-- The loop comes to a position with the same depth, or the depth overflows before it. -/
def Comes (source : Text) (pos stop depth : Nat) : Prop :=
  scan source pos depth = scan source stop depth ∨ scan source pos depth = none

theorem Comes.lexeme {front word behind : Text} (lexeme : Lexeme (word ++ behind) front)
    (here : source.drop pos = (front ++ word) ++ behind) (inside : 0 < depth)
    (later : source.drop (pos + front.length) = word ++ behind →
      Comes source (pos + front.length) (pos + front.length + word.length) depth) :
    Comes source pos (pos + (front ++ word).length) depth := by
  rw [List.append_assoc] at here
  rw [Comes, scan_lexeme lexeme here inside, List.length_append, ← Nat.add_assoc]
  exact later (drop_append here)

/-- The search reads code before a brace without a change of the depth, unless the depth overflows. -/
theorem comes_of_reads {text : Text} (reads : Reads scanner .code text) {brace : Char} {more : Text}
    (isBrace : brace = '{' ∨ brace = '}') (here : source.drop pos = text ++ brace :: more) (inside : 0 < depth) :
    Comes source pos (pos + text.length) depth := by
  generalize isCode : Mode.code = mode at reads
  induction reads generalizing pos depth brace more with
  | nil => exact .inl rfl
  | @plain c rest ordinary _ ih =>
      have lexeme : Lexeme (rest ++ brace :: more) [c] := .plain (ordinary.append isBrace more)
      exact Comes.lexeme lexeme here inside fun behind => ih isBrace behind inside isCode
  | @lineComment body ending rest clean ends _ ih =>
      cases List.mem_singleton.mp ends
      have noEnd : '\n' ∉ body := fun found =>
        clean lineFeed ends ((List.singleton_infix_iff _ _).mpr found)
      have split : '/' :: '/' :: (body ++ (lineFeed ++ rest)) = ('/' :: '/' :: (body ++ ['\n'])) ++ rest := by
        simp [lineFeed]
      rw [split] at here ⊢
      exact Comes.lexeme (.lineComment noEnd) here inside fun behind => ih isBrace behind inside isCode
  | @blockComment body rest clean _ ih =>
      have split : '/' :: '*' :: (body ++ '*' :: '/' :: rest) = ('/' :: '*' :: (body ++ ['*', '/'])) ++ rest := by
        simp
      rw [split] at here ⊢
      exact Comes.lexeme (.blockComment clean) here inside fun behind => ih isBrace behind inside isCode
  | @string quote body rest marked literal _ ih =>
      have split : quote :: (body ++ quote :: rest) = (quote :: (body ++ [quote])) ++ rest := by
        simp
      rw [split] at here ⊢
      exact Comes.lexeme (.literal (marked.imp_right .inl) literal) here inside
        fun behind => ih isBrace behind inside isCode
  | @template body rest content _ _ ih =>
      have split : backtick :: (body ++ backtick :: rest) = (backtick :: (body ++ [backtick])) ++ rest := by
        simp
      rw [split] at here ⊢
      exact Comes.lexeme (.literal (.inr (.inr rfl)) content.literal) here inside
        fun behind => ih isBrace behind inside isCode
  | @braces inner rest _ _ enclosed ih =>
      rw [List.cons_append, List.append_assoc, List.cons_append] at here
      obtain ⟨_, _, behind⟩ := drop_cons here
      have closing := drop_append behind
      obtain ⟨_, _, later⟩ := drop_cons closing
      rw [Comes, scan_enter here inside]
      by_cases room : depth < intMax
      · rw [if_pos room]
        rcases enclosed (.inr rfl) behind (Nat.succ_pos depth) isCode with same | overflow
        · rw [same, scan_leave closing (Nat.succ_pos depth), Nat.succ_sub_one]
          have position : pos + ('{' :: (inner ++ '}' :: rest)).length = pos + 1 + inner.length + 1 + rest.length := by
            simp only [List.length_cons, List.length_append]
            omega
          rw [position]
          exact ih isBrace later inside isCode
        · exact .inr overflow
      · exact .inr (if_neg room)
  | character | escape | substitution => cases isCode

/-- So many opening braces make the depth overflow. -/
theorem overflow_of_opens {count : Nat} {text : Text} (opens : Opens (Reads scanner .code) '{' count text)
    (here : source.drop pos = text) (inside : 0 < depth) (room : depth ≤ intMax)
    (many : intMax < depth + count) : scan source pos depth = none := by
  induction opens generalizing pos depth with
  | done => exact absurd many (Nat.not_lt_of_le room)
  | @enter count word rest first _ ih =>
      rcases comes_of_reads first (.inl rfl) here inside with same | overflow
      · have opening := drop_append here
        obtain ⟨_, _, behind⟩ := drop_cons opening
        rw [same, scan_enter opening inside]
        by_cases more : depth < intMax
        · rw [if_pos more]
          exact ih behind (Nat.succ_pos depth) more (by omega)
        · exact if_neg more
      · exact overflow

/-- The end of the loop tells how the text behind the position reads. -/
def Sound (source : Text) (pos depth : Nat) : Option (Nat × Nat) → Prop
  | none => Exceeds (Reads scanner .code) '{' '}' intMax depth (source.drop pos)
  | some (stop, 0) => Closes (Reads scanner .code) '}' depth (source.drop pos) (source.drop stop)
  | some (_, _ + 1) => True

/-- A step of the loop leads back from what reads behind it to what reads before it. -/
theorem Sound.back {pos next depth nextDepth : Nat}
    (exceeds : Exceeds (Reads scanner .code) '{' '}' intMax nextDepth (source.drop next) →
      Exceeds (Reads scanner .code) '{' '}' intMax depth (source.drop pos))
    (closes : ∀ behind, Closes (Reads scanner .code) '}' nextDepth (source.drop next) behind →
      Closes (Reads scanner .code) '}' depth (source.drop pos) behind)
    {result : Option (Nat × Nat)} (sound : Sound source next nextDepth result) : Sound source pos depth result := by
  match result with
  | none => exact exceeds sound
  | some (stop, 0) => exact closes _ sound
  | some (_, _ + 1) => trivial

theorem Sound.lexeme {front behind : Text} (lexeme : Lexeme behind front)
    (here : source.drop pos = front ++ behind) {result : Option (Nat × Nat)}
    (sound : Sound source (pos + front.length) (depth + 1) result) : Sound source pos (depth + 1) result := by
  have joins (word rest : Text) (split : behind = word ++ rest) (reads : Reads scanner .code word) :
      Reads scanner .code (front ++ word) := by
    rw [split] at lexeme
    exact lexeme.reads reads
  refine sound.back ?_ ?_ <;> rw [drop_append here, here]
  · exact Exceeds.prepend joins
  · exact fun _ => Closes.prepend joins

theorem Sound.enter {pos depth : Nat} {rest : Text} (here : source.drop pos = '{' :: rest)
    {result : Option (Nat × Nat)} (sound : Sound source (pos + 1) (depth + 2) result) :
    Sound source pos (depth + 1) result := by
  obtain ⟨_, _, behind⟩ := drop_cons here
  refine sound.back ?_ ?_ <;> rw [behind, here]
  · exact Exceeds.enter (reads_bracketed scanner)
  · exact fun _ => Closes.enter (reads_bracketed scanner)

theorem Sound.leave {pos depth : Nat} {rest : Text} (here : source.drop pos = '}' :: rest)
    {result : Option (Nat × Nat)} (sound : Sound source (pos + 1) depth result) :
    Sound source pos (depth + 1) result := by
  obtain ⟨_, _, behind⟩ := drop_cons here
  refine sound.back ?_ ?_ <;> rw [behind, here]
  · exact Exceeds.leave (reads_bracketed scanner)
  · exact fun _ => Closes.leave (reads_bracketed scanner)

/-- The induction is on the text that is left, and the depth fits in an `int`. -/
theorem scan_sound (source : Text) (pos depth : Nat) (room : depth ≤ intMax) :
    Sound source pos depth (scan source pos depth) := by
  induction measure : source.length - pos using Nat.strong_induction_on generalizing pos depth with
  | _ left ih =>
      subst measure
      cases depth with
      | zero =>
          rw [scan_closed, Sound]
          exact .done
      | succ depth =>
          cases here : source.drop pos with
          | nil =>
              rw [scan_outside (List.drop_eq_nil_iff.mp here)]
              trivial
          | cons c rest =>
              obtain ⟨inside, _, _⟩ := drop_cons here
              rcases step_cases here (Nat.succ_pos depth) with rfl | rfl | passes
              · rw [scan_enter here (Nat.succ_pos depth)]
                by_cases more : depth + 1 < intMax
                · rw [if_pos more]
                  exact (ih _ (by omega) (pos + 1) (depth + 2) more rfl).enter here
                · rw [if_neg more, Nat.le_antisymm room (Nat.le_of_not_lt more)]
                  rw [Sound, here]
                  exact .overflow (reads_bracketed scanner)
              · rw [scan_leave here (Nat.succ_pos depth)]
                exact (ih _ (by omega) (pos + 1) depth (by omega) rfl).leave here
              · rcases passes with ⟨front, behind, split, nonempty, lexeme⟩ | ⟨next, stopped⟩
                · have forward : 0 < front.length := List.length_pos_iff.mpr nonempty
                  rw [scan_lexeme lexeme split (Nat.succ_pos depth)]
                  exact (ih _ (by omega) (pos + front.length) (depth + 1) room rfl).lexeme lexeme split
                · rw [stopped]
                  trivial

end Runs

section Blocks

/-- The search from the brace behind the first text has a result. It is the closing brace of a block of the language. -/
def Matched (before behind : Text) : Prop :=
  ∃ result, findMatchingBrace (before ++ '{' :: behind) before.length = some result ∧
    ∀ block : JsBlock, block.starts behind → result = some (before.length + 1 + block.contents.length)

/-- The braces fit in the depth, and the scanner reads a block of the language. -/
structure Scannable (behind : Text) : Prop where
  shallow : ¬ Opens (Reads scanner .code) '{' intMax behind
  reads : ∀ block : JsBlock, block.starts behind → Reads scanner .code block.contents

theorem findMatchingBrace_open (before behind : Text) : findMatchingBrace (before ++ '{' :: behind) before.length =
    (scan (before ++ '{' :: behind) (before.length + 1) 1).map
      fun (pos, depth) => if depth ≠ 0 then none else some (pos - 1) := by
  rw [findMatchingBrace, if_pos (by simp)]

theorem drop_open (before behind : Text) : (before ++ '{' :: behind).drop (before.length + 1) = behind := by
  rw [← List.drop_drop, List.drop_left]
  rfl

/-- The depth overflows exactly for too many opening braces. -/
theorem scan_overflow_iff (before behind : Text) : scan (before ++ '{' :: behind) (before.length + 1) 1 = none ↔
    Opens (Reads scanner .code) '{' intMax behind := by
  have here := drop_open before behind
  constructor
  · intro overflow
    have sound := scan_sound (before ++ '{' :: behind) (before.length + 1) 1 (by decide)
    rw [overflow, Sound, here] at sound
    obtain ⟨count, left, more, rest, depth, limit, closes, opens⟩ := sound
    have first : count = 0 := by omega
    subst first
    cases closes
    have all : more + 1 = intMax := by omega
    rwa [all] at opens
  · exact fun opens => overflow_of_opens opens here one_pos (by decide) (by omega)

/-- The search finds the brace behind code that the scanner reads. -/
theorem findMatchingBrace_of_reads {before behind word : Text}
    (shallow : ¬ Opens (Reads scanner .code) '{' intMax behind) (starts : word ++ ['}'] <+: behind)
    (reads : Reads scanner .code word) :
    findMatchingBrace (before ++ '{' :: behind) before.length = some (some (before.length + 1 + word.length)) := by
  obtain ⟨rest, split⟩ := starts
  rw [List.append_assoc, List.singleton_append] at split
  have here : (before ++ '{' :: behind).drop (before.length + 1) = word ++ '}' :: rest := by
    rw [drop_open, split]
  rw [findMatchingBrace_open]
  rcases comes_of_reads reads (.inr rfl) here one_pos with same | overflow
  · rw [same, scan_leave (drop_append here) one_pos, Nat.sub_self, scan_closed]
    rfl
  · exact absurd ((scan_overflow_iff before behind).mp overflow) shallow

/-- The text before the brace that the search finds is code that the scanner reads. -/
theorem reads_of_findMatchingBrace {before behind word : Text} (starts : word ++ ['}'] <+: behind)
    (found : findMatchingBrace (before ++ '{' :: behind) before.length =
      some (some (before.length + 1 + word.length))) : Reads scanner .code word := by
  obtain ⟨rest, split⟩ := starts
  have sound := scan_sound (before ++ '{' :: behind) (before.length + 1) 1 (by decide)
  rw [findMatchingBrace_open, Option.map_eq_some_iff] at found
  obtain ⟨⟨stop, depth⟩, scanned, result⟩ := found
  cases depth with
  | succ depth => cases result
  | zero =>
      have position : stop - 1 = before.length + 1 + word.length := Option.some.inj result
      have advance : stop = before.length + 1 + (word ++ ['}']).length := by
        simp only [List.length_append, List.length_singleton]
        omega
      have rest_eq : (before ++ '{' :: behind).drop stop = rest := by
        rw [advance, ← List.drop_drop, drop_open, ← split, List.drop_left]
      rw [scanned, Sound, drop_open, rest_eq] at sound
      obtain ⟨other, reads, same⟩ := Closes.one_iff.mp sound
      rw [← split, List.append_assoc, List.singleton_append] at same
      rwa [List.append_cancel_right same]

/-- The search matches the braces of the language exactly if the scanner reads its blocks as the language does. -/
theorem findMatchingBrace_iff (before behind : Text) : Matched before behind ↔ Scannable behind := by
  constructor
  · rintro ⟨result, searched, matched⟩
    refine ⟨fun deep => ?_, fun block starts => ?_⟩
    · rw [findMatchingBrace_open, (scan_overflow_iff before behind).mpr deep] at searched
      cases searched
    · rw [matched block starts] at searched
      exact reads_of_findMatchingBrace starts searched
  · rintro ⟨shallow, reads⟩
    cases searched : findMatchingBrace (before ++ '{' :: behind) before.length with
    | none =>
        rw [findMatchingBrace_open, Option.map_eq_none_iff] at searched
        exact absurd ((scan_overflow_iff before behind).mp searched) shallow
    | some result =>
        refine ⟨result, searched, fun block starts => ?_⟩
        rw [findMatchingBrace_of_reads shallow starts (reads block starts)] at searched
        exact (Option.some.inj searched).symm

theorem shallow_of_short {behind : Text} (short : behind.length < intMax) :
    ¬ Opens (Reads scanner .code) '{' intMax behind :=
  fun deep => absurd deep.le_length (Nat.not_le_of_lt short)

/-- A block of the language holds a template literal in a substitution, and a closing brace in the inner one. -/
def nestedBlock : JsBlock where
  contents := [backtick, '$', '{', backtick, '}', backtick, '}', backtick]
  code := by
    have brace : Reads javascript .template ['}'] := .character (by decide) (.inr (by decide)) .nil
    have inner : Reads javascript .code [backtick, '}', backtick] := .template brace .nil
    have outer : Reads javascript .template ['$', '{', backtick, '}', backtick, '}'] :=
      .substitution ⟨_, rfl, trivial⟩ inner .nil
    exact .template outer .nil

/-- The search takes the brace in the inner template literal for the end of the block. -/
theorem not_findMatchingBrace : ¬ ∀ before behind : Text, Matched before behind := by
  intro matches_all
  obtain ⟨result, searched, matched⟩ := matches_all [] (nestedBlock.contents ++ ['}'])
  have outer : Reads scanner .template ['$', '{'] :=
    .character (by decide) (.inl rfl) (.character (by decide) (.inl rfl) .nil)
  have misread : Reads scanner .code [backtick, '$', '{', backtick] := .template outer .nil
  have short : (nestedBlock.contents ++ ['}']).length < intMax := by decide
  rw [matched nestedBlock (List.prefix_refl _), findMatchingBrace_of_reads (shallow_of_short short) (by decide) misread]
    at searched
  cases searched

/-- In a short source, substitutions without backticks and comments that end at line feeds let the search match. -/
theorem matched_of_flat (before : Text) {behind : Text} (short : behind.length < intMax)
    (reads : ∀ block : JsBlock, block.starts behind → Reads flat .code block.contents) : Matched before behind :=
  (findMatchingBrace_iff before behind).mpr
    ⟨shallow_of_short short, fun block starts => (reads block starts).scanner_of_flat⟩

end Blocks
end Barton.Braces
