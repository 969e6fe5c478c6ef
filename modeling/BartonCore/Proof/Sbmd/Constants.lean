import BartonCore.Construction.Sbmd.Constants
import BartonCore.Proof.Sbmd.BraceMatching

namespace Barton.Constants
open Braces (Text apostrophe quotationMark backtick findMatchingBrace scan scan_leave scan_ordinary scan_closed)

section search

/-- A text that ends before the needle starts with the needle only by itself: the needle does not overlap itself. -/
theorem needle_append_iff {text : Text} (nonempty : text ≠ []) (rest : Text) :
    needle <+: text ++ (needle ++ rest) ↔ needle <+: text := by
  constructor
  · intro starts
    by_cases long : needle.length ≤ text.length
    · exact List.prefix_of_prefix_length_le starts (List.prefix_append _ _) long
    · exfalso
      have positive : 0 < text.length := List.length_pos_iff.mpr nonempty
      have short : text.length < 9 := by simpa [needle] using long
      have letter : needle[text.length]? = some 'c' := by
        have inside : text.length < needle.length := by simpa [needle] using short
        rw [List.getElem?_eq_getElem inside, ← List.prefix_iff_getElem?.mp starts text.length inside,
          List.getElem?_append_right le_rfl, Nat.sub_self]
        rfl
      generalize text.length = position at letter positive short
      interval_cases position <;> exact absurd letter (by decide)
  · exact fun starts => starts.trans (List.prefix_append _ _)

/-- The key ends with its colon. -/
def colon : Text → Option Text
  | ':' :: found => some found
  | _ => none

theorem findKey_cons (before : Option Char) (character : Char) (rest : Text) :
    findKey before (character :: rest) =
      (if needle <+: character :: rest ∧ before.any isWordPart = false then
        colon (((character :: rest).drop needle.length).dropWhile isBlank) else none).or
      (findKey (some character) rest) := by
  rw [findKey]
  split
  · split
    next found same =>
      rw [same]
      rfl
    next other =>
      have missing : colon (((character :: rest).drop needle.length).dropWhile isBlank) = none := by
        unfold colon
        split
        next found same => exact absurd same (other found)
        next => rfl
      rw [missing, Option.none_or]
  · rfl

/-- No blank starts the needle. -/
theorem dropWhile_append_needle (text rest : Text) :
    (text ++ (needle ++ rest)).dropWhile isBlank = text.dropWhile isBlank ++ (needle ++ rest) := by
  rw [List.dropWhile_append]
  split
  next blank =>
    rw [List.isEmpty_iff.mp blank]
    rfl
  next => rfl

theorem colon_append (text rest : Text) :
    colon ((text ++ (needle ++ rest)).dropWhile isBlank) =
      (colon (text.dropWhile isBlank)).map (· ++ (needle ++ rest)) := by
  rw [dropWhile_append_needle]
  cases text.dropWhile isBlank with
  | nil => rfl
  | cons first others =>
      by_cases found : first = ':'
      · subst found
        rfl
      · unfold colon
        simp [found]

/-- The search stops inside the text or goes on behind it. -/
theorem findKey_append (before : Option Char) (text rest : Text) :
    findKey before (text ++ (needle ++ rest)) =
      ((findKey before text).map (· ++ (needle ++ rest))).or
        (findKey (text.getLast?.or before) (needle ++ rest)) := by
  induction text generalizing before with
  | nil => rfl
  | cons character others ih =>
      have nonempty : character :: others ≠ [] := List.cons_ne_nil _ _
      have last : (character :: others).getLast?.or before = others.getLast?.or (some character) := by
        rw [List.getLast?_cons]
        cases others.getLast? <;> rfl
      rw [List.cons_append, findKey_cons, findKey_cons, ih, last, Option.map_or, Option.or_assoc]
      congr 1
      have starts := needle_append_iff nonempty rest
      rw [List.cons_append] at starts
      split
      next both =>
        rw [if_pos ⟨starts.mp both.1, both.2⟩, ← List.cons_append,
          List.drop_append_of_le_length (starts.mp both.1).length_le, colon_append]
      next other =>
        rw [if_neg fun both => other ⟨starts.mpr both.1, both.2⟩]
        rfl

/-- The key of the block is found unless a word ends before it. -/
theorem findKey_key {before : Option Char} (standalone : before.any isWordPart = false) {gap : Text}
    (blanks : ∀ character ∈ gap, isBlank character = true) (rest : Text) :
    findKey before (needle ++ (gap ++ ':' :: rest)) = some rest := by
  have behind : (needle ++ (gap ++ ':' :: rest)).drop needle.length = gap ++ ':' :: rest :=
    List.drop_left
  have skipped : (gap ++ ':' :: rest).dropWhile isBlank = ':' :: rest := by
    rw [List.dropWhile_append_of_pos blanks]
    rfl
  have split : needle ++ (gap ++ ':' :: rest) = 'c' :: (needle.tail ++ (gap ++ ':' :: rest)) := rfl
  rw [split, findKey_cons, ← split, if_pos ⟨List.prefix_append _ _, standalone⟩, behind, skipped]
  rfl

end search

section sources

/-- A constants block has blanks around its colon, and its braces stand before the text that follows. -/
structure ConstantsBlock where
  beforeColon : Text
  afterColon : Text
  braces : Text
  blankBefore : ∀ character ∈ beforeColon, isBlank character = true
  blankAfter : ∀ character ∈ afterColon, isBlank character = true
  opening : braces.head? = some '{'

/-- This is what follows the keyword of the block. -/
def ConstantsBlock.rest (block : ConstantsBlock) (after : Text) : Text :=
  block.beforeColon ++ ':' :: (block.afterColon ++ (block.braces ++ after))

def driverSource (before : Text) (block : ConstantsBlock) (after : Text) : Text :=
  before ++ (needle ++ block.rest after)

/-- The search takes nothing in the text for the key of a block. -/
def NoKey (text : Text) : Prop := findKey none text = none

instance (text : Text) : Decidable (NoKey text) := inferInstanceAs (Decidable (_ = _))

/-- No letter, digit or underscore ends the text. -/
def Standalone (text : Text) : Prop := text.getLast?.any isWordPart = false

/-- The blanks after the colon are skipped. -/
theorem openBlock_block (block : ConstantsBlock) (after : Text) :
    openBlock (block.afterColon ++ (block.braces ++ after)) = openBlock (block.braces ++ after) := by
  rw [openBlock, openBlock, List.dropWhile_append_of_pos block.blankAfter]

/-- Without another key before it, the block is found. -/
theorem findBlock_of_noKey {before : Text} (clean : NoKey before) (standalone : Standalone before)
    (block : ConstantsBlock) (after : Text) :
    findBlock (driverSource before block after) = openBlock (block.braces ++ after) := by
  have alone : (before.getLast?.or none).any isWordPart = false := by
    rw [Option.or_none]
    exact standalone
  rw [findBlock, driverSource, findKey_append, clean, Option.map_none, Option.none_or,
    ConstantsBlock.rest, findKey_key alone block.blankBefore]
  exact openBlock_block block after

/-- A key before the block hides the block. -/
theorem findBlock_of_key {before found : Text} (key : findKey none before = some found)
    (block : ConstantsBlock) (after : Text) :
    findBlock (driverSource before block after) = openBlock (found ++ (needle ++ block.rest after)) := by
  rw [findBlock, driverSource, findKey_append, key, Option.map_some, Option.some_or]

/-- These blocks have no constants. -/
def emptyBlock : ConstantsBlock where
  beforeColon := []
  afterColon := []
  braces := ['{', '}']
  blankBefore := by simp
  blankAfter := by simp
  opening := rfl

def blankBlock : ConstantsBlock where
  beforeColon := []
  afterColon := []
  braces := ['{', ' ', '}']
  blankBefore := by simp
  blankAfter := by simp
  opening := rfl

/-- The search finds a closing brace directly behind the opening one, and one behind a blank. -/
theorem openBlock_empty (rest : Text) : openBlock ('{' :: '}' :: rest) = .block ['{', '}'] := by
  have visible : ('{' :: '}' :: rest).dropWhile isBlank = '{' :: '}' :: rest := rfl
  have opens : ('{' :: '}' :: rest)[0]? = some '{' := rfl
  have closed : scan ('{' :: '}' :: rest) (0 + 1) 1 = some (2, 0) := (scan_leave rfl one_pos).trans (scan_closed _ _)
  rw [openBlock, visible, findMatchingBrace, if_pos opens, closed]
  rfl

theorem openBlock_blank (rest : Text) : openBlock ('{' :: ' ' :: '}' :: rest) = .block ['{', ' ', '}'] := by
  have visible : ('{' :: ' ' :: '}' :: rest).dropWhile isBlank = '{' :: ' ' :: '}' :: rest := rfl
  have opens : ('{' :: ' ' :: '}' :: rest)[0]? = some '{' := rfl
  have blank : Braces.Ordinary ' ' ('}' :: rest) := ⟨by decide, by decide, fun slash => absurd slash (by decide)⟩
  have closed : scan ('{' :: ' ' :: '}' :: rest) 2 1 = some (3, 0) := (scan_leave rfl one_pos).trans (scan_closed _ _)
  have whole : scan ('{' :: ' ' :: '}' :: rest) (0 + 1) 1 = some (3, 0) := (scan_ordinary blank rfl one_pos).trans closed
  rw [openBlock, visible, findMatchingBrace, if_pos opens, whole]
  rfl

/-- A block starts the text behind the blanks. -/
theorem openBlock_begins {text block : Text} (found : openBlock text = .block block) :
    block <+: text.dropWhile isBlank := by
  unfold openBlock at found
  dsimp only at found
  split at found
  · cases found
  · cases found
  · exact Found.block.inj found ▸ List.take_prefix _ _

/-- What a hiding key finds cannot be right for both blocks. -/
theorem exists_misread (found after : Text) : ∃ block : ConstantsBlock,
    openBlock (found ++ (needle ++ block.rest after)) ≠ openBlock (block.braces ++ after) := by
  by_contra right
  rw [not_exists] at right
  simp only [not_not] at right
  have first := (right emptyBlock).trans (openBlock_empty after)
  have second := (right blankBlock).trans (openBlock_blank after)
  have started := openBlock_begins first
  rw [dropWhile_append_needle] at started
  obtain ⟨others, same⟩ : ∃ others, found.dropWhile isBlank = '{' :: '}' :: others := by
    obtain ⟨behind, text⟩ := started
    cases start : found.dropWhile isBlank with
    | nil =>
        rw [start] at text
        simp [needle] at text
    | cons opening others =>
        rw [start] at text
        cases others with
        | nil => simp [needle] at text
        | cons closing others =>
            simp only [List.cons_append, List.cons.injEq] at text
            exact ⟨others, by rw [← text.1, ← text.2.1]⟩
  have reread := openBlock_empty (others ++ (needle ++ blankBlock.rest after))
  rw [openBlock] at reread second
  rw [dropWhile_append_needle, same, List.cons_append, List.cons_append] at second
  have wide : ['{', '}'] = ['{', ' ', '}'] := Found.block.inj (reread.symm.trans second)
  exact absurd wide (by decide)

end sources

section engines

/-- The engine reads one text as an object with one constant and throws on every other. -/
def onlyReads (block expression : Text) : Option (List (Text × Value)) :=
  if expression = '(' :: block ++ [')'] then some [(['A'], .boolean true)] else none

theorem onlyReads_other {block other : Text} (different : other ≠ block) :
    onlyReads block ('(' :: other ++ [')']) = none := by
  rw [onlyReads, if_neg]
  intro same
  exact different (List.append_cancel_right (List.cons.inj same).2)

/-- Every engine reads the same constants from two sources only if the search finds the same. -/
theorem extractConstants_eq_iff (first second : Text) :
    (∀ eval, extractConstants eval first = extractConstants eval second) ↔
      findBlock first = findBlock second := by
  constructor
  · intro same
    unfold extractConstants at same
    have reads : ∀ block, (onlyReads block ('(' :: block ++ [')'])).bind readConstants =
        some [(['A'], "true".toList)] := by
      intro block
      rw [onlyReads, if_pos rfl]
      rfl
    cases left : findBlock first with
    | undefined =>
        cases right : findBlock second with
        | undefined => rfl
        | absent | malformed | block other => simpa [left, right] using same fun _ => none
    | absent =>
        cases right : findBlock second with
        | absent => rfl
        | malformed | block other | undefined => simpa [left, right] using same fun _ => none
    | malformed =>
        cases right : findBlock second with
        | malformed => rfl
        | absent | undefined => simpa [left, right] using same fun _ => none
        | block other =>
            have equal := same (onlyReads other)
            rw [left, right] at equal
            dsimp only at equal
            rw [reads other] at equal
            cases equal
    | block block =>
        have equal := same (onlyReads block)
        rw [left] at equal
        dsimp only at equal
        rw [reads block] at equal
        cases right : findBlock second with
        | absent | malformed | undefined => simp [right] at equal
        | block other =>
            by_contra different
            have unread := @onlyReads_other block other fun same => different (same ▸ rfl)
            rw [right] at equal
            dsimp only at equal
            rw [unread] at equal
            cases equal
  · intro same eval
    rw [extractConstants, extractConstants, same]

end engines

section insertion

/-- A comment, a string literal or a template literal has any body between its delimiters. -/
inductive Lexeme where
  | lineComment (body : Text)
  | blockComment (body : Text)
  | doubleQuoted (body : Text)
  | singleQuoted (body : Text)
  | template (body : Text)

def Lexeme.text : Lexeme → Text
  | .lineComment body => '/' :: '/' :: body ++ ['\n']
  | .blockComment body => '/' :: '*' :: body ++ ['*', '/']
  | .doubleQuoted body => quotationMark :: body ++ [quotationMark]
  | .singleQuoted body => apostrophe :: body ++ [apostrophe]
  | .template body => backtick :: body ++ [backtick]

/-- The text before a block is cut where lexemes are inserted. The keyword of the block is a word of its own. -/
structure Prelude where
  pieces : List (Text × List Lexeme)
  standalone : Standalone (pieces.flatMap Prod.fst)

/-- This is the text without the insertions. -/
def Prelude.plain (prelude : Prelude) : Text := prelude.pieces.flatMap Prod.fst

def Prelude.filled (prelude : Prelude) : Text :=
  prelude.pieces.flatMap fun piece => piece.1 ++ piece.2.flatMap Lexeme.text

theorem Lexeme.standalone (lexeme : Lexeme) (before : Text) : Standalone (before ++ lexeme.text) := by
  unfold Standalone
  cases lexeme <;> simp [Lexeme.text, List.getLast?_append, List.getLast?_cons] <;> decide

/-- A lexeme does not end in a word, so the insertions do not join the keyword to one. -/
theorem Prelude.standalone_filled (prelude : Prelude) : Standalone prelude.filled := by
  obtain ⟨pieces, standalone⟩ := prelude
  unfold Prelude.filled
  dsimp only
  induction pieces using List.reverseRecOn with
  | nil => exact standalone
  | append_singleton others piece ih =>
      obtain ⟨chunk, lexemes⟩ := piece
      rw [List.flatMap_append] at standalone ⊢
      simp only [List.flatMap_singleton] at standalone ⊢
      rcases List.eq_nil_or_concat lexemes with rfl | ⟨earlier, last, rfl⟩
      · rw [List.flatMap_nil, List.append_nil]
        by_cases empty : chunk = []
        · subst empty
          rw [List.append_nil] at standalone ⊢
          exact ih standalone
        · unfold Standalone at standalone ⊢
          rw [List.getLast?_append_of_ne_nil _ empty] at standalone ⊢
          exact standalone
      · rw [List.concat_eq_append, List.flatMap_append, List.flatMap_singleton, ← List.append_assoc,
          ← List.append_assoc]
        exact last.standalone _

variable (prelude : Prelude) (after : Text)

/-- Every engine reads the same constants of every block with and without the insertions. -/
def Unchanged : Prop :=
  ∀ eval block, extractConstants eval (driverSource prelude.filled block after) =
    extractConstants eval (driverSource prelude.plain block after)

/-- Neither text before the block holds a key. Where both do, the block is hidden from the beginning, and the
same braces stand behind the first key of both. -/
def Undisturbed : Prop :=
  (NoKey prelude.plain ∧ NoKey prelude.filled) ∨
  ∃ foundPlain foundFilled,
    findKey none prelude.plain = some foundPlain ∧ findKey none prelude.filled = some foundFilled ∧
    ∀ block : ConstantsBlock, openBlock (foundFilled ++ (needle ++ block.rest after)) =
      openBlock (foundPlain ++ (needle ++ block.rest after))

theorem unchanged_iff_findBlock : Unchanged prelude after ↔ ∀ block,
    findBlock (driverSource prelude.filled block after) =
      findBlock (driverSource prelude.plain block after) := by
  rw [Unchanged, forall_comm]
  exact forall_congr' fun block => extractConstants_eq_iff _ _

/-- A key in one of the texts only makes some block misread. -/
theorem not_unchanged_of_key {hidden clean : Text} (key : ¬ NoKey hidden) (noKey : NoKey clean)
    (standalone : Standalone clean) : ∃ block,
      findBlock (driverSource hidden block after) ≠ findBlock (driverSource clean block after) := by
  obtain ⟨found, hides⟩ := Option.ne_none_iff_exists'.mp key
  obtain ⟨block, misread⟩ := exists_misread found after
  refine ⟨block, ?_⟩
  rw [findBlock_of_key hides, findBlock_of_noKey noKey standalone]
  exact misread

theorem Unchanged.undisturbed (unchanged : Unchanged prelude after) : Undisturbed prelude after := by
  rw [unchanged_iff_findBlock] at unchanged
  cases plain : findKey none prelude.plain with
  | none =>
      refine Or.inl ⟨plain, ?_⟩
      by_contra filled
      obtain ⟨block, misread⟩ := not_unchanged_of_key after filled plain prelude.standalone
      exact misread (unchanged block)
  | some foundPlain =>
      cases filled : findKey none prelude.filled with
      | none =>
          have hidden : ¬ NoKey prelude.plain := by
            rw [NoKey, plain]
            exact Option.some_ne_none _
          obtain ⟨block, misread⟩ := not_unchanged_of_key after hidden filled prelude.standalone_filled
          exact absurd (unchanged block).symm misread
      | some foundFilled =>
          refine Or.inr ⟨foundPlain, foundFilled, plain, filled, fun block => ?_⟩
          rw [← findBlock_of_key filled, ← findBlock_of_key plain]
          exact unchanged block

theorem Undisturbed.unchanged (undisturbed : Undisturbed prelude after) : Unchanged prelude after := by
  rw [unchanged_iff_findBlock]
  intro block
  rcases undisturbed with ⟨plain, filled⟩ | ⟨foundPlain, foundFilled, plain, filled, same⟩
  · rw [findBlock_of_noKey filled prelude.standalone_filled,
      findBlock_of_noKey plain prelude.standalone]
  · rw [findBlock_of_key filled, findBlock_of_key plain]
    exact same block

/-- The insertions leave the constants unchanged if and only if they hold nothing that the search takes for a key. -/
theorem unchanged_iff : Unchanged prelude after ↔ Undisturbed prelude after :=
  ⟨fun unchanged => unchanged.undisturbed, fun undisturbed => undisturbed.unchanged⟩

/-- The comment `//constants:` stands before the block. -/
def commented : Prelude where
  pieces := [("SbmdDriver(\x7b".toList, [.lineComment (needle ++ [':'])])]
  standalone := rfl

/-- A comment that names the key hides the block. -/
theorem not_unchanged : ¬ ∀ (prelude : Prelude) (after : Text), Unchanged prelude after := by
  intro unchanged
  have undisturbed := (unchanged commented " \x7d)".toList).undisturbed
  have plain : NoKey commented.plain := by decide
  have filled : ¬ NoKey commented.filled := by decide
  rcases undisturbed with ⟨-, clean⟩ | ⟨_, _, hidden, -⟩
  · exact filled clean
  · rw [NoKey, hidden] at plain
    cases plain

end insertion

end Barton.Constants
