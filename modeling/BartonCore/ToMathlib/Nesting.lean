/-
This file contains texts that close and open brackets around words, which are texts with their brackets in pairs.
-/

import Mathlib.Tactic

namespace Barton.Nesting

section Nesting
variable {Token : Type} (Word : List Token → Prop) (opening closing : Token)

/-- A text closes so many brackets that it did not open, with a word before each of them. -/
inductive Closes : Nat → List Token → List Token → Prop
  | done {behind : List Token} : Closes 0 behind behind
  | close {count : Nat} {word rest behind : List Token} (first : Word word) (later : Closes count rest behind) :
      Closes (count + 1) (word ++ closing :: rest) behind

/-- A text opens so many brackets, with a word before each of them. -/
inductive Opens : Nat → List Token → Prop
  | done {rest : List Token} : Opens 0 rest
  | enter {count : Nat} {word rest : List Token} (first : Word word) (later : Opens count rest) :
      Opens (count + 1) (word ++ opening :: rest)

/-- A text that starts at a depth passes the limit before it comes to depth 0. -/
def Exceeds (limit depth : Nat) (text : List Token) : Prop :=
  ∃ count left more rest, depth = count + (left + 1) ∧ left + 1 + more = limit ∧
    Closes Word closing count text rest ∧ Opens Word opening (more + 1) rest

/-- These are the words: the empty text, and a pair of brackets before a word. -/
structure Bracketed : Prop where
  nil : Word []
  group {inner word : List Token} : Word inner → Word word → Word (opening :: (inner ++ closing :: word))

variable {Word opening closing} {front text behind : List Token} {count limit depth : Nat}

theorem Closes.one_iff :
    Closes Word closing 1 text behind ↔ ∃ word, Word word ∧ text = word ++ closing :: behind := by
  constructor
  · intro closes
    cases closes with
    | close first later =>
        cases later
        exact ⟨_, first, rfl⟩
  · rintro ⟨word, first, rfl⟩
    exact .close first .done

/-- A text joins the first word when the two are a word. -/
theorem Closes.prepend (joins : ∀ word rest, text = word ++ rest → Word word → Word (front ++ word))
    (closes : Closes Word closing (count + 1) text behind) :
    Closes Word closing (count + 1) (front ++ text) behind := by
  cases closes with
  | close first later =>
      rw [← List.append_assoc]
      exact .close (joins _ _ rfl first) later

theorem Opens.prepend (joins : ∀ word rest, text = word ++ rest → Word word → Word (front ++ word))
    (opens : Opens Word opening (count + 1) text) : Opens Word opening (count + 1) (front ++ text) := by
  cases opens with
  | enter first later =>
      rw [← List.append_assoc]
      exact .enter (joins _ _ rfl first) later

theorem Exceeds.prepend (joins : ∀ word rest, text = word ++ rest → Word word → Word (front ++ word))
    (exceeds : Exceeds Word opening closing limit depth text) :
    Exceeds Word opening closing limit depth (front ++ text) := by
  obtain ⟨count, left, more, rest, here, room, closes, opens⟩ := exceeds
  cases count with
  | zero =>
      cases closes
      exact ⟨0, left, more, _, here, room, .done, opens.prepend joins⟩
  | succ count => exact ⟨count + 1, left, more, rest, here, room, closes.prepend joins, opens⟩

theorem Opens.le_length (opens : Opens Word opening count text) : count ≤ text.length := by
  induction opens with
  | done => exact Nat.zero_le _
  | @enter count word rest _ _ ih =>
      rw [List.length_append, List.length_cons]
      omega

variable (bracketed : Bracketed Word opening closing)
include bracketed

/-- An opened bracket and the word behind it are closed first. -/
theorem Closes.enter (closes : Closes Word closing (count + 2) text behind) :
    Closes Word closing (count + 1) (opening :: text) behind := by
  cases closes with
  | @close _ inner rest _ first later =>
      have joined : Closes Word closing (count + 1) (opening :: inner ++ [closing] ++ rest) behind :=
        later.prepend fun word _ _ second => by
          rw [List.append_assoc, List.cons_append]
          exact bracketed.group first second
      rwa [List.append_assoc, List.cons_append] at joined

theorem Closes.leave (closes : Closes Word closing count text behind) :
    Closes Word closing (count + 1) (closing :: text) behind := .close bracketed.nil closes

/-- A text that exceeds the limit behind a bracket does so before it. -/
theorem Exceeds.enter (exceeds : Exceeds Word opening closing limit (depth + 2) text) :
    Exceeds Word opening closing limit (depth + 1) (opening :: text) := by
  obtain ⟨count, left, more, rest, here, room, closes, opens⟩ := exceeds
  cases count with
  | zero =>
      cases closes
      refine ⟨0, depth, more + 1, _, ?_, ?_, .done, .enter bracketed.nil opens⟩ <;> omega
  | succ count =>
      cases count with
      | succ count =>
          refine ⟨count + 1, left, more, rest, ?_, room, closes.enter bracketed, opens⟩
          omega
      | zero =>
          obtain ⟨inner, first, rfl⟩ := Closes.one_iff.mp closes
          have joined : Opens Word opening (more + 1) (opening :: inner ++ [closing] ++ rest) :=
            opens.prepend fun word _ _ second => by
              rw [List.append_assoc, List.cons_append]
              exact bracketed.group first second
          rw [List.append_assoc, List.cons_append] at joined
          refine ⟨0, left, more, _, ?_, room, .done, joined⟩
          omega

/-- At the limit, a text that opens a bracket exceeds it. -/
theorem Exceeds.overflow : Exceeds Word opening closing (limit + 1) (limit + 1) (opening :: text) :=
  ⟨0, limit, 0, _, (Nat.zero_add _).symm, rfl, .done, .enter bracketed.nil .done⟩

theorem Exceeds.leave (exceeds : Exceeds Word opening closing limit depth text) :
    Exceeds Word opening closing limit (depth + 1) (closing :: text) := by
  obtain ⟨count, left, more, rest, here, room, closes, opens⟩ := exceeds
  refine ⟨count + 1, left, more, rest, ?_, room, .leave bracketed closes, opens⟩
  omega

end Nesting
end Barton.Nesting
