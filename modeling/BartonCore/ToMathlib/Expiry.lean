/-
This file contains stores whose entries expire, and the history of writes that such a store represents.
-/

import Mathlib.Tactic

namespace Barton.Expiry
variable {Key Value Time : Type} [DecidableEq Key]

/-- The value of an entry can be read before its expiry. -/
structure Entry (Value Time : Type) where
  value : Value
  expiry : Time
  deriving DecidableEq

/-- The writes of a history are listed in order. -/
abbrev History (Key Value Time : Type) := List (Key × Entry Value Time)

/-- This is the last write of a key. -/
def lastWrite (key : Key) : History Key Value Time → Option (Entry Value Time)
  | [] => none
  | (other, entry) :: later => (lastWrite key later).or (if other = key then some entry else none)

@[simp] theorem lastWrite_append_singleton (key other : Key) (entry : Entry Value Time)
    (history : History Key Value Time) :
    lastWrite key (history ++ [(other, entry)]) = if other = key then some entry else lastWrite key history := by
  induction history with
  | nil => simp [lastWrite]
  | cons write rest ih =>
      rw [List.cons_append, lastWrite, ih, lastWrite]
      by_cases same : other = key
      · rw [if_pos same, if_pos same, Option.some_or]
      · rw [if_neg same, if_neg same]

variable [LinearOrder Time]

def Entry.at (entry : Entry Value Time) (now : Time) : Option Value :=
  if entry.expiry ≤ now then none else some entry.value

abbrev Store (Key Value Time : Type) := Key → Option (Entry Value Time)

def write (key : Key) (entry : Entry Value Time) (store : Store Key Value Time) : Store Key Value Time :=
  Function.update store key (some entry)

/-- A read drops an entry that has expired. -/
def read (key : Key) (now : Time) (store : Store Key Value Time) : Option Value × Store Key Value Time :=
  match store key with
  | none => (none, store)
  | some entry =>
      if entry.expiry ≤ now then (none, Function.update store key none) else (some entry.value, store)

/-- A history holds the value of the last write until it expires. -/
def current (key : Key) (now : Time) (history : History Key Value Time) : Option Value :=
  (lastWrite key history).bind fun entry => entry.at now

/-- The store reads as the history does, now and later. -/
def Represents (store : Store Key Value Time) (history : History Key Value Time) (now : Time) : Prop :=
  ∀ key later, now ≤ later → ((store key).bind fun entry => entry.at later) = current key later history

theorem Represents.later {store : Store Key Value Time} {history : History Key Value Time} {now later : Time}
    (represents : Represents store history now) (after : now ≤ later) : Represents store history later :=
  fun key time reached => represents key time (after.trans reached)

/-- A write of the store is a write of the history. -/
theorem Represents.write {store : Store Key Value Time} {history : History Key Value Time} {now : Time}
    (represents : Represents store history now) (key : Key) (entry : Entry Value Time) :
    Represents (write key entry store) (history ++ [(key, entry)]) now := by
  intro other later reached
  rw [current, lastWrite_append_singleton, Expiry.write, Function.update_apply]
  by_cases same : other = key
  · rw [if_pos same, if_pos same.symm]
  · rw [if_neg same, if_neg (Ne.symm same)]
    exact represents other later reached

/-- An entry that has expired stays so. -/
theorem Entry.at_eq_none {entry : Entry Value Time} {now later : Time} (expired : entry.expiry ≤ now)
    (reached : now ≤ later) : entry.at later = none := if_pos (expired.trans reached)

/-- A read returns what the history holds, and dropping an expired entry does not change later reads. -/
theorem Represents.read {store : Store Key Value Time} {history : History Key Value Time} {now : Time}
    (represents : Represents store history now) (key : Key) :
    (read key now store).1 = current key now history ∧ Represents (read key now store).2 history now := by
  have held := represents key now le_rfl
  unfold Expiry.read
  cases found : store key with
  | none =>
      rw [found] at held
      exact ⟨held, represents⟩
  | some entry =>
      rw [found, Option.bind_some] at held
      by_cases expired : entry.expiry ≤ now
      · simp only [if_pos expired]
        rw [Entry.at_eq_none expired le_rfl] at held
        refine ⟨held, fun other later reached => ?_⟩
        rw [Function.update_apply]
        by_cases same : other = key
        · rw [if_pos same, same, ← represents key later reached, found, Option.bind_some,
            Entry.at_eq_none expired reached]
          rfl
        · rw [if_neg same]
          exact represents other later reached
      · simp only [if_neg expired]
        exact ⟨held ▸ (if_neg expired).symm, represents⟩

end Barton.Expiry
