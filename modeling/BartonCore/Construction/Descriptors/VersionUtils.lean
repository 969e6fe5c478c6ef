/-
This file contains how version strings are parsed and compared. A character is one byte.
-/

import BartonCore.ToMathlib.Strtol

namespace Barton.VersionUtils
open Strtol

def defaultArrayLen : Nat := 16

def defaultBuffLen : Nat := 32

/-- This is the largest `int`. -/
def intMax : Nat := 2147483647

/-- A write outside an array is undefined. -/
def store {Item : Type} (array : List Item) (index : Nat) (item : Item) : Option (List Item) :=
  if index < array.length then some (array.set index item) else none

/-- This is `isdigit`. -/
def isdigit (character : Char) : Bool := isDigit 10 character

/-- The string in a buffer ends at the terminator. An unassigned byte must not be read. -/
def cString : List (Option Char) → Option Text
  | [] => none
  | none :: _ => none
  | some character :: rest => if character = '\x00' then some [] else (cString rest).map (character :: ·)

/-- This is the cast of `atoi` for digits. A `long` has 64 bits, and the conversion saturates. -/
def atoi (digits : Text) : UInt32 := UInt32.ofNat (min (readDigits 10 0 digits) (2 ^ 63 - 1))

/-- This is `sscanf` with `%x` for a text with the mark `0x`. Without a digit behind the mark, the conversion has the
matching failure of the C standard, and nothing is assigned. -/
def scanHex (text : Text) : Option UInt32 :=
  let digits := (text.drop 2).takeWhile (isDigit 16)
  if digits = [] then none else some (UInt32.ofNat (readDigits 16 0 digits))

/-- A Zigbee version is a hexadecimal number of 32 bits. -/
def isHexVersion (versionStr : Text) : Bool :=
  versionStr.length = 10 && versionStr[0]? = some '0' && (versionStr[1]? = some 'x' || versionStr[1]? = some 'X')

section Parse

/-- The local variables of the loop. -/
structure State where
  retVal : List UInt32
  arrayLen : Nat
  buffer : List (Option Char)
  bufferLen : Nat
  i : Nat

/-- The array is set to zeros, and the buffer is not. -/
def start : State := ⟨List.replicate defaultArrayLen 0, 0, List.replicate defaultBuffLen none, 0, 0⟩

/-- The buffer is kept terminated. -/
def appendDigit (state : State) (character : Char) : Option State := do
  let buffer ← store state.buffer state.bufferLen (some character)
  let buffer ← store buffer (state.bufferLen + 1) (some '\x00')
  some { state with buffer := buffer, bufferLen := state.bufferLen + 1 }

/-- The number in the buffer is saved in the array. -/
def saveNumber (state : State) : Option State :=
  if state.bufferLen > 0 then do
    let digits ← cString state.buffer
    let retVal ← store state.retVal state.arrayLen (atoi digits)
    some { state with retVal := retVal, arrayLen := state.arrayLen + 1, bufferLen := 0 }
  else some state

/-- The position is an `int`, so it must not pass the largest one. -/
def advance (state : State) : Option State := if state.i < intMax then some { state with i := state.i + 1 } else none

def examine (state : State) (character : Char) : Option State :=
  if isdigit character then appendDigit state character else saveNumber state

/-- The loop ends at the end of the string or of the array. -/
def scan (state : State) : Text → Option State
  | [] => some state
  | character :: rest =>
      if state.arrayLen < defaultArrayLen then
        (examine state character).bind fun examined => (advance examined).bind fun next => scan next rest
      else some state

/-- The result is the part of the array that is reported. An entry that was never assigned has no value. -/
def versionStringToInt (versionStr : Text) : Option (List (Option UInt32)) :=
  if isHexVersion versionStr then some [scanHex versionStr]
  else ((scan start versionStr).bind saveNumber).map fun state => (state.retVal.take state.arrayLen).map some

end Parse

section Compare

/-- Each remaining item must be 0, or the right version is greater. -/
def compareRight : List UInt32 → Int8
  | [] => 0
  | item :: right => if item ≠ 0 then 1 else compareRight right

def compareVersionArrays : List UInt32 → List UInt32 → Int8
  | [], right => compareRight right
  | item :: left, [] => if item ≠ 0 then -1 else compareVersionArrays left []
  | item :: left, other :: right =>
      if item > other then -1 else if item < other then 1 else compareVersionArrays left right

/-- An entry is compared when it was assigned. -/
def assigned (entries : List (Option UInt32)) : Option (List UInt32) := entries.mapM id

def compareVersionStrings (leftVersion rightVersion : Text) : Option Int8 := do
  let arrayL ← (versionStringToInt leftVersion).bind assigned
  let arrayR ← (versionStringToInt rightVersion).bind assigned
  some (compareVersionArrays arrayL arrayR)

end Compare
end Barton.VersionUtils
