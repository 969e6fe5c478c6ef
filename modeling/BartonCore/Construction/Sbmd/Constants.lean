/-
This file contains how the constants of a driver are read from its source text. The script engine is a parameter.
-/

import BartonCore.Construction.Sbmd.Braces

namespace Barton.Constants
open Braces (Text quotationMark backslash)

section Extraction

def needle : Text := ['c', 'o', 'n', 's', 't', 'a', 'n', 't', 's']

def isBlank (character : Char) : Bool :=
  character = ' ' || character = '\t' || character = '\n' || character = '\r'

/-- This is `isalnum(before) || before == '_'`. -/
def isWordPart (character : Char) : Bool := character.isAlphanum || character = '_'

/-- The search for the needle and the loop around it go from one position to the next. The result is the text
behind the colon. -/
def findKey (before : Option Char) : Text → Option Text
  | [] => none
  | character :: rest =>
      if needle <+: character :: rest ∧ before.any isWordPart = false then
        match ((character :: rest).drop needle.length).dropWhile isBlank with
        | ':' :: found => some found
        | _ => findKey (some character) rest
      else findKey (some character) rest

/-- The search finds no key, a key without a block in braces, a block, or so many braces that it is undefined. -/
inductive Found where
  | absent
  | malformed
  | block (text : Text)
  | undefined
  deriving DecidableEq

/-- The block starts behind the blanks after the colon and ends with its closing brace. -/
def openBlock (text : Text) : Found :=
  let found := text.dropWhile isBlank
  match Braces.findMatchingBrace found 0 with
  | none => .undefined
  | some none => .malformed
  | some (some closePos) => .block (found.take (closePos + 1))

def findBlock (source : Text) : Found :=
  match findKey none source with
  | none => .absent
  | some found => openBlock found

/-- The engine converts strings and numbers to text unless the conversion fails. -/
inductive Value where
  | string (text : Option Text)
  | number (text : Option Text)
  | boolean (value : Bool)
  | other

def isIdentifierStart (character : Char) : Bool :=
  character.isAlpha || character = '_' || character = '$'

def isValidIdentifier : Text → Bool
  | [] => false
  | first :: rest => isIdentifierStart first && rest.all fun part => isIdentifierStart part || part.isDigit

def escape (character : Char) : Text :=
  if character = quotationMark then [backslash, quotationMark]
  else if character = backslash then [backslash, backslash]
  else if character = '\n' then [backslash, 'n']
  else if character = '\r' then [backslash, 'r']
  else if character = '\t' then [backslash, 't']
  else [character]

/-- The text of a C string ends at its terminator. -/
def quoted (text : Text) : Text :=
  quotationMark :: (text.takeWhile (· ≠ '\x00')).flatMap escape ++ [quotationMark]

/-- An invalid name or a value that is not primitive rejects the block. -/
def readConstants : List (Text × Value) → Option (List (Text × Text))
  | [] => some []
  | (key, value) :: rest =>
      if isValidIdentifier key then
        match value with
        | .string (some text) => (readConstants rest).map ((key, quoted text) :: ·)
        | .number (some text) => (readConstants rest).map ((key, text) :: ·)
        | .boolean value => (readConstants rest).map ((key, if value then "true".toList else "false".toList) :: ·)
        | .string none => readConstants rest
        | .number none => readConstants rest
        | .other => none
      else none

/-- The engine evaluates an expression to the properties of an object unless there is an exception. There is no
result where the search is undefined. -/
def extractConstants (eval : Text → Option (List (Text × Value))) (source : Text) :
    Option (Option (List (Text × Text))) :=
  match findBlock source with
  | .absent => some (some [])
  | .malformed => some none
  | .block block => some ((eval ('(' :: block ++ [')'])).bind readConstants)
  | .undefined => none

end Extraction

end Barton.Constants
