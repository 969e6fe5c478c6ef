/-
This file contains the newest items of a history, the repetitions in it, and items that are placed at their indices.
-/

import Mathlib.Data.List.DropRight
import Mathlib.Tactic

namespace Barton.Windows
variable {Item : Type}

section Newest

/-- A new item takes the place of the last one if the window is full. -/
def push (bound : Nat) (item : Item) (window : List Item) : List Item :=
  item :: if window.length = bound then window.dropLast else window

/-- The newest items of a history stand in reverse order. -/
def newest (bound : Nat) (history : List Item) : List Item := history.reverse.take bound

/-- A window of the newest items stays one. -/
theorem push_newest {bound : Nat} (positive : 0 < bound) (history : List Item) (item : Item) :
    push bound item (newest bound history) = newest bound (history ++ [item]) := by
  obtain ⟨rest, rfl⟩ := Nat.exists_eq_succ_of_ne_zero positive.ne'
  have front : newest rest.succ (history ++ [item]) = item :: newest rest history := by
    rw [newest, List.reverse_append, List.reverse_singleton, List.singleton_append, List.take_succ_cons, newest]
  rw [front, push]
  congr 1
  rw [newest, newest, List.length_take, List.length_reverse]
  split
  · next full =>
      rw [List.dropLast_eq_take, List.length_take, List.length_reverse, full, List.take_take, Nat.succ_sub_one,
        Nat.min_eq_left (Nat.le_succ rest)]
  · next room =>
      have short : history.reverse.length ≤ rest := by
        rw [List.length_reverse]
        omega
      rw [List.take_of_length_le (short.trans (Nat.le_succ rest)), List.take_of_length_le short]

end Newest

section Repetitions
variable [DecidableEq Item]

/-- The number of items that equal the item before them. -/
def repetitions (history : List Item) : Nat := (history.zip history.tail).countP fun pair => pair.1 = pair.2

theorem repetitions_append (history : List Item) (item : Item) :
    repetitions (history ++ [item]) = repetitions history + if history.getLast? = some item then 1 else 0 := by
  induction history with
  | nil => rfl
  | cons first rest ih =>
      cases rest with
      | nil =>
          by_cases same : first = item
          · simp [repetitions, same]
          · simp [repetitions, same]
      | cons second later =>
          have split (tail : List Item) : repetitions (first :: second :: tail) =
              repetitions (second :: tail) + if first = second then 1 else 0 := by
            simp [repetitions, List.countP_cons]
          rw [List.cons_append, List.cons_append, split, ← List.cons_append, ih, split, List.getLast?_cons_cons]
          omega

end Repetitions

section Resets

/-- The part of a history after the last reset. -/
def since (resets : Item → Bool) (history : List Item) : List Item := history.rtakeWhile fun item => ¬resets item

theorem since_reset {resets : Item → Bool} {item : Item} (reset : resets item = true) (history : List Item) :
    since resets (history ++ [item]) = [] := by
  exact List.rtakeWhile_concat_neg _ _ _ (by simp [reset])

theorem since_append {resets : Item → Bool} {item : Item} (kept : resets item = false) (history : List Item) :
    since resets (history ++ [item]) = since resets history ++ [item] := by
  exact List.rtakeWhile_concat_pos _ _ _ (by simp [kept])

end Resets

section Places
variable (index : Item → Nat)

/-- An item replaces the one at its index or is added at the end. -/
def place (item : Item) (items : List Item) : List Item :=
  if index item < items.length then items.set (index item) item else items ++ [item]

def placeAll (items added : List Item) : List Item := added.foldl (fun items item => place index item items) items

variable {index} {items added : List Item} {start : Nat}

/-- Items that follow each other from an index inside take the places from there. -/
theorem placeAll_inside (inside : start ≤ items.length) (follow : added.map index = List.range' start added.length) :
    placeAll index items added = items.take start ++ added ++ items.drop (start + added.length) := by
  induction added generalizing items start with
  | nil => simp [placeAll]
  | cons item rest ih =>
      rw [List.map_cons, List.length_cons, List.range'_succ, List.cons.injEq] at follow
      obtain ⟨here, later⟩ := follow
      have split : place index item items = items.take start ++ item :: items.drop (start + 1) := by
        rw [place, here]
        split
        · next room => rw [List.set_eq_take_append_cons_drop, if_pos room]
        · next full =>
            rw [List.take_of_length_le (by omega), List.drop_of_length_le (by omega)]
      have front : (items.take start ++ item :: items.drop (start + 1)).take (start + 1) = items.take start ++ [item] := by
        rw [List.take_append, List.length_take, Nat.min_eq_left inside, List.take_take, Nat.min_eq_right (Nat.le_succ _),
          Nat.add_sub_cancel_left]
        rfl
      have back : (items.take start ++ item :: items.drop (start + 1)).drop (start + 1 + rest.length) =
          items.drop (start + (rest.length + 1)) := by
        have length : (items.take start).length = start := by rw [List.length_take, Nat.min_eq_left inside]
        rw [List.drop_append, length, List.drop_of_length_le (by omega),
          show start + 1 + rest.length - start = rest.length + 1 by omega, List.nil_append, List.drop_succ_cons,
          List.drop_drop]
        congr 1
        omega
      have room : start + 1 ≤ (place index item items).length := by
        rw [split, List.length_append, List.length_take, List.length_cons]
        omega
      have moved := ih room later
      rw [split, front, back] at moved
      change placeAll index (place index item items) rest = _
      rw [split, moved, List.length_cons, List.append_assoc, List.append_assoc, List.append_assoc]
      rfl

/-- Items that follow each other from an index behind the end are added at the end. -/
theorem placeAll_outside (outside : items.length ≤ start) (follow : added.map index = List.range' start added.length) :
    placeAll index items added = items ++ added := by
  induction added generalizing items start with
  | nil => exact (List.append_nil items).symm
  | cons item rest ih =>
      rw [List.map_cons, List.length_cons, List.range'_succ, List.cons.injEq] at follow
      obtain ⟨here, later⟩ := follow
      have added : place index item items = items ++ [item] := if_neg (by omega)
      change placeAll index (place index item items) rest = _
      rw [added, ih (by rw [List.length_append, List.length_singleton]; omega) later, List.append_assoc]
      rfl

end Places
end Barton.Windows
