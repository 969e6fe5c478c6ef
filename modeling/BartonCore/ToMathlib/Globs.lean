/-
This file contains globs and the basic regular expressions without brackets and escapes.
-/

import Mathlib.Computability.Language
import Mathlib.Tactic

namespace Barton.Globs
open Computability

/-- Every text belongs to this language. -/
def anyText : Language Char := {_text | True}

/-- Every text of one letter belongs to this language. -/
def anyLetter : Language Char := {text | ∃ letter, text = [letter]}

@[simp] theorem mem_anyText (text : List Char) : text ∈ anyText := trivial

theorem mem_anyLetter (text : List Char) : text ∈ anyLetter ↔ ∃ letter, text = [letter] := Iff.rfl

/-- The star of a glob stands for any text, and every other letter stands for itself. -/
def globLetter (letter : Char) : Language Char := if letter = '*' then anyText else {[letter]}

/-- The language of a glob. -/
def glob (pattern : List Char) : Language Char := (pattern.map globLetter).prod

/-- A piece of an expression is a letter or the period, and it may be repeated. -/
structure Piece where
  /-- The period has no letter of its own. -/
  letter : Option Char
  starred : Bool
  deriving DecidableEq

def Piece.accepts (piece : Piece) (letter : Char) : Bool := piece.letter.all (· == letter)

/-- A repeated piece finds any number of accepted letters. -/
def Piece.repeated (piece : Piece) : Language Char := {text | ∀ letter ∈ text, piece.accepts letter = true}

def Piece.single (piece : Piece) : Language Char :=
  {text | ∃ letter, text = [letter] ∧ piece.accepts letter = true}

def Piece.language (piece : Piece) : Language Char := if piece.starred then piece.repeated else piece.single

/-- This piece finds any text. -/
def Piece.anything : Piece := ⟨none, true⟩

/-- The period stands for any letter. -/
def letterOf (letter : Char) : Option Char := if letter = '.' then none else some letter

/-- A letter before a star is repeated. A star at the beginning stands for itself. -/
def parsePieces : List Char → List Piece
  | [] => []
  | [letter] => [⟨letterOf letter, false⟩]
  | letter :: next :: rest =>
      if next = '*' then ⟨letterOf letter, true⟩ :: parsePieces rest
      else ⟨letterOf letter, false⟩ :: parsePieces (next :: rest)

/-- A circumflex is an anchor at the beginning only, and a dollar at the end only. -/
structure Expression where
  fromStart : Bool
  toEnd : Bool
  pieces : List Piece
  deriving DecidableEq

/-- The text without the circumflex at its beginning. -/
def dropStart (text : List Char) : List Char := if text.head? = some '^' then text.tail else text

/-- The text without the dollar at its end. -/
def dropEnd (text : List Char) : List Char := if text.getLast? = some '$' then text.dropLast else text

def parse (text : List Char) : Expression where
  fromStart := text.head? = some '^'
  toEnd := (dropStart text).getLast? = some '$'
  pieces := parsePieces (dropEnd (dropStart text))

/-- Brackets and escapes are not part of these expressions. A repeated repetition has no meaning. -/
def supported (text : List Char) : Bool :=
  !text.contains '[' && !text.contains '\\' &&
    (text.zip text.tail).all fun pair => pair.1 != '*' || pair.2 != '*'

/-- An expression without an anchor finds its pieces anywhere in a text. -/
def Expression.padded (expression : Expression) : List Piece :=
  (if expression.fromStart then [] else [Piece.anything]) ++ expression.pieces ++
    (if expression.toEnd then [] else [Piece.anything])

/-- The search for one piece after another backtracks over the length of each repetition. -/
def matchPieces : List Piece → List Char → Bool
  | [], text => text.isEmpty
  | piece :: rest, text =>
      if piece.starred then
        (List.range (text.length + 1)).any fun length =>
          (text.take length).all piece.accepts && matchPieces rest (text.drop length)
      else
        match text with
        | [] => false
        | letter :: later => piece.accepts letter && matchPieces rest later

/-- The expression is found in the text. -/
def Expression.search (expression : Expression) (text : List Char) : Bool := matchPieces expression.padded text

/-- The texts in which the expression is found. -/
def Expression.language (expression : Expression) : Language Char :=
  (if expression.fromStart then 1 else anyText) * (expression.pieces.map Piece.language).prod *
    (if expression.toEnd then 1 else anyText)

theorem anything_language : Piece.anything.language = anyText := by
  ext text
  constructor
  · exact fun _ => mem_anyText text
  · exact fun _ letter _ => rfl

theorem mem_starred {piece : Piece} (starred : piece.starred = true) (text : List Char) :
    text ∈ piece.language ↔ ∀ letter ∈ text, piece.accepts letter = true := by
  rw [Piece.language, if_pos starred]
  rfl

theorem mem_single {piece : Piece} (single : piece.starred = false) (text : List Char) :
    text ∈ piece.language ↔ ∃ letter, text = [letter] ∧ piece.accepts letter = true := by
  rw [Piece.language, if_neg (by simp [single])]
  rfl

/-- The search agrees with the language of the pieces. -/
theorem matchPieces_iff (pieces : List Piece) (text : List Char) :
    matchPieces pieces text = true ↔ text ∈ (pieces.map Piece.language).prod := by
  induction pieces generalizing text with
  | nil =>
      rw [matchPieces, List.isEmpty_iff, List.map_nil, List.prod_nil, Language.mem_one]
  | cons piece rest ih =>
      rw [List.map_cons, List.prod_cons, Language.mem_mul]
      cases starred : piece.starred with
      | true =>
          unfold matchPieces
          rw [if_pos starred, List.any_eq_true]
          constructor
          · rintro ⟨length, _, found⟩
            rw [Bool.and_eq_true, List.all_eq_true] at found
            exact ⟨text.take length, (mem_starred starred _).mpr found.1, text.drop length,
              (ih _).mp found.2, List.take_append_drop length text⟩
          · rintro ⟨first, inside, second, later, same⟩
            refine ⟨first.length, ?_, ?_⟩
            · rw [List.mem_range, ← same, List.length_append]
              omega
            · rw [← same, List.take_left, List.drop_left, Bool.and_eq_true, List.all_eq_true]
              exact ⟨(mem_starred starred _).mp inside, (ih _).mpr later⟩
      | false =>
          unfold matchPieces
          rw [if_neg (by simp [starred])]
          simp only [mem_single starred]
          cases text with
          | nil =>
              constructor
              · intro impossible
                cases impossible
              · rintro ⟨_, ⟨letter, rfl, _⟩, second, _, same⟩
                cases same
          | cons letter later =>
              rw [Bool.and_eq_true, ih]
              constructor
              · rintro ⟨accepted, found⟩
                exact ⟨[letter], ⟨letter, rfl, accepted⟩, later, found, rfl⟩
              · rintro ⟨_, ⟨other, rfl, accepted⟩, second, found, same⟩
                cases same
                exact ⟨accepted, found⟩

/-- The piece of one letter of a glob. -/
def globPiece (letter : Char) : Piece := if letter = '*' then Piece.anything else ⟨some letter, false⟩

theorem globPiece_language (letter : Char) : (globPiece letter).language = globLetter letter := by
  unfold globPiece globLetter
  by_cases star : letter = '*'
  · rw [if_pos star, if_pos star, anything_language]
  · rw [if_neg star, if_neg star]
    ext text
    rw [mem_single rfl]
    simp only [Piece.accepts, Option.all_some, beq_iff_eq, exists_eq_right']
    exact Iff.rfl

/-- The pieces of a glob have its language. -/
theorem map_globPiece (pattern : List Char) : ((pattern.map globPiece).map Piece.language).prod = glob pattern := by
  rw [List.map_map, glob]
  exact congrArg List.prod (List.map_congr_left fun letter _ => globPiece_language letter)

theorem search_iff (expression : Expression) (text : List Char) :
    expression.search text = true ↔ text ∈ expression.language := by
  unfold Expression.search
  rw [matchPieces_iff]
  unfold Expression.padded Expression.language
  rw [List.map_append, List.map_append, List.prod_append, List.prod_append]
  cases expression.fromStart <;> cases expression.toEnd <;> simp [anything_language]

end Barton.Globs
