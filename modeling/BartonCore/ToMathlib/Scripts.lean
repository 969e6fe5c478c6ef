/-
This file contains parsers whose steps can be observed.
-/

import BartonCore.ToMathlib.Parsing

namespace Barton.Scripts
open Parsing

section Scripts
variable {Token Failure Label Value Result : Type}

/-- A script passes over tokens that are there, and marks the calls that it makes. -/
inductive Script (Token Failure Label Value : Type) where
  | done (value : Value)
  | fail (failure : Failure)
  | more (next : Bool → Script Token Failure Label Value)
  | take (count : Nat) (failure : Failure) (next : List Token → Script Token Failure Label Value)
  | enter (label : Label) (next : Script Token Failure Label Value)

def Script.bind : Script Token Failure Label Value → (Value → Script Token Failure Label Result) →
    Script Token Failure Label Result
  | .done value, next => next value
  | .fail failure, _ => .fail failure
  | .more inner, next => .more fun left => (inner left).bind next
  | .take count failure inner, next => .take count failure fun tokens => (inner tokens).bind next
  | .enter label inner, next => .enter label (inner.bind next)

instance : Monad (Script Token Failure Label) where
  pure := .done
  bind := .bind

/-- A script that passes over missing tokens fails. -/
def Script.run : Script Token Failure Label Value → Parser Token Failure Value
  | .done value => fun cursor => .ok (value, cursor)
  | .fail failure => fun _ => .error failure
  | .more next => fun cursor => (next (cursor.offset < cursor.tokens.length)).run cursor
  | .take count failure next => fun cursor =>
      if cursor.offset + count > cursor.tokens.length then .error failure
      else (next (cursor.remaining.take count)).run (cursor.advance count)
  | .enter _ next => next.run

/-- These are the offsets of the cursor from the start to the end, also to a failure. -/
def Script.offsets : Script Token Failure Label Value → Cursor Token → List Nat
  | .done _, cursor => [cursor.offset]
  | .fail _, cursor => [cursor.offset]
  | .more next, cursor => (next (cursor.offset < cursor.tokens.length)).offsets cursor
  | .take count _ next, cursor =>
      if cursor.offset + count > cursor.tokens.length then [cursor.offset]
      else cursor.offset :: (next (cursor.remaining.take count)).offsets (cursor.advance count)
  | .enter _ next, cursor => next.offsets cursor

/-- These are the calls in order, each with the offset where it starts. -/
def Script.calls : Script Token Failure Label Value → Cursor Token → List (Label × Nat)
  | .done _, _ => []
  | .fail _, _ => []
  | .more next, cursor => (next (cursor.offset < cursor.tokens.length)).calls cursor
  | .take count _ next, cursor =>
      if cursor.offset + count > cursor.tokens.length then []
      else (next (cursor.remaining.take count)).calls (cursor.advance count)
  | .enter label next, cursor => (label, cursor.offset) :: next.calls cursor

variable {script : Script Token Failure Label Value} {next : Value → Script Token Failure Label Result}
  {cursor after : Cursor Token} {value : Value} {result : Result} {failure : Failure}

@[simp] theorem Script.run_pure (value : Value) :
    (pure value : Script Token Failure Label Value).run = (pure value : Parser Token Failure Value) := rfl

theorem Script.run_take (count : Nat) (failure : Failure)
    (next : List Token → Script Token Failure Label Value) (cursor : Cursor Token) :
    (Script.take count failure next).run cursor =
      if cursor.offset + count > cursor.tokens.length then .error failure
      else (next (cursor.remaining.take count)).run (cursor.advance count) := rfl

/-- The run of a sequence is the sequence of the runs. -/
@[simp] theorem Script.run_bind (script : Script Token Failure Label Value)
    (next : Value → Script Token Failure Label Result) :
    (script >>= next).run = script.run >>= fun value => (next value).run := by
  funext cursor
  change (script.bind next).run cursor = script.run cursor >>= fun pair => (next pair.1).run pair.2
  induction script generalizing cursor with
  | done | fail => rfl
  | more inner ih => exact ih _ cursor
  | take count failure inner ih =>
      rw [Script.bind, run_take, run_take]
      split_ifs
      · rfl
      · exact ih _ _
  | enter label inner ih => exact ih cursor

theorem Script.calls_bind (script : Script Token Failure Label Value)
    (next : Value → Script Token Failure Label Result) (cursor : Cursor Token) :
    (script >>= next).calls cursor = script.calls cursor ++
      match script.run cursor with
      | .ok (value, after) => (next value).calls after
      | .error _ => [] := by
  change (script.bind next).calls cursor = _
  induction script generalizing cursor with
  | done | fail => rfl
  | more inner ih => exact ih _ cursor
  | take count failure inner ih =>
      rw [Script.bind, Script.calls, Script.calls, run_take]
      split_ifs
      · rfl
      · exact ih _ _
  | enter label inner ih => exact congrArg (List.cons _) (ih cursor)

theorem singleton_inside (cursor : Cursor Token) (inside : cursor.offset ≤ cursor.tokens.length) :
    [cursor.offset].Pairwise (· ≤ ·) ∧
      ∀ offset ∈ [cursor.offset], cursor.offset ≤ offset ∧ offset ≤ cursor.tokens.length := by
  refine ⟨List.pairwise_singleton _ _, fun offset member => ?_⟩
  rw [List.mem_singleton.mp member]
  exact ⟨le_rfl, inside⟩

/-- A script never moves back, and it stays inside the tokens. -/
theorem Script.offsets_inside (script : Script Token Failure Label Value) (cursor : Cursor Token)
    (inside : cursor.offset ≤ cursor.tokens.length) :
    (script.offsets cursor).Pairwise (· ≤ ·) ∧
      ∀ offset ∈ script.offsets cursor, cursor.offset ≤ offset ∧ offset ≤ cursor.tokens.length := by
  induction script generalizing cursor with
  | done | fail => exact singleton_inside cursor inside
  | more inner ih => exact ih _ cursor inside
  | take count failure inner ih =>
      rw [Script.offsets]
      split_ifs with outside
      · exact singleton_inside cursor inside
      · obtain ⟨ordered, bounds⟩ :=
          ih (cursor.remaining.take count) (cursor.advance count) (Nat.le_of_not_lt outside)
        have later : ∀ offset ∈ (inner (cursor.remaining.take count)).offsets (cursor.advance count),
            cursor.offset ≤ offset ∧ offset ≤ cursor.tokens.length := fun offset member =>
          ⟨(Nat.le_add_right _ _).trans (bounds offset member).1, (bounds offset member).2⟩
        refine ⟨List.pairwise_cons.mpr ⟨fun offset member => (later offset member).1, ordered⟩, ?_⟩
        exact List.forall_mem_cons.mpr ⟨⟨le_rfl, inside⟩, later⟩
  | enter label inner ih => exact ih cursor inside

/-- A script that returns does not move back either. -/
theorem Script.run_inside (inside : cursor.offset ≤ cursor.tokens.length)
    (ran : script.run cursor = .ok (value, after)) :
    after.tokens = cursor.tokens ∧ cursor.offset ≤ after.offset ∧ after.offset ≤ cursor.tokens.length := by
  induction script generalizing cursor with
  | done other =>
      cases ran
      exact ⟨rfl, le_rfl, inside⟩
  | fail failure => cases ran
  | more inner ih => exact ih _ inside ran
  | take count failure inner ih =>
      rw [run_take] at ran
      split_ifs at ran with outside
      obtain ⟨same, later, bound⟩ := ih _ (Nat.le_of_not_lt outside) ran
      exact ⟨same, (Nat.le_add_right _ _).trans later, bound⟩
  | enter label inner ih => exact ih inside ran

/-- The last offset is the one that a script returns with. -/
theorem Script.offsets_last (ran : script.run cursor = .ok (value, after)) :
    (script.offsets cursor).getLast? = some after.offset := by
  induction script generalizing cursor with
  | done other =>
      cases ran
      rfl
  | fail failure => cases ran
  | more inner ih => exact ih _ ran
  | take count failure inner ih =>
      rw [run_take] at ran
      rw [Script.offsets]
      split_ifs at ran ⊢ with outside
      rw [List.getLast?_cons, ih _ ran, Option.getD_some]
  | enter label inner ih => exact ih ran

/-- A script makes no calls and does not end with this failure. -/
def Script.Plain (failure : Failure) : Script Token Failure Label Value → Prop
  | .done _ => True
  | .fail other => other ≠ failure
  | .more next => ∀ left, (next left).Plain failure
  | .take _ other next => other ≠ failure ∧ ∀ tokens, (next tokens).Plain failure
  | .enter _ _ => False

theorem Script.Plain.pure (value : Value) : (pure value : Script Token Failure Label Value).Plain failure := trivial

theorem Script.Plain.run (plain : script.Plain failure) (cursor : Cursor Token) :
    script.run cursor ≠ .error failure := by
  induction script generalizing cursor with
  | done value => exact fun same => by cases same
  | fail other => exact fun same => plain (Except.error.inj same)
  | more inner ih => exact ih _ (plain _) cursor
  | take count other inner ih =>
      rw [run_take]
      split_ifs
      · exact fun same => plain.1 (Except.error.inj same)
      · exact ih _ (plain.2 _) _
  | enter label inner ih => exact plain.elim

theorem Script.Plain.calls (plain : script.Plain failure) (cursor : Cursor Token) : script.calls cursor = [] := by
  induction script generalizing cursor with
  | done | fail => rfl
  | more inner ih => exact ih _ (plain _) cursor
  | take count other inner ih =>
      rw [Script.calls]
      split_ifs
      · rfl
      · exact ih _ (plain.2 _) _
  | enter label inner ih => exact plain.elim

theorem Script.Plain.bind (plain : script.Plain failure) (later : ∀ value, (next value).Plain failure) :
    (script >>= next).Plain failure := by
  change (script.bind next).Plain failure
  induction script with
  | done value => exact later value
  | fail other => exact plain
  | more inner ih => exact fun left => ih left (plain left)
  | take count other inner ih => exact ⟨plain.1, fun tokens => ih tokens (plain.2 tokens)⟩
  | enter label inner ih => exact plain.elim

theorem Script.bind_assoc {Last : Type} (script : Script Token Failure Label Value)
    (next : Value → Script Token Failure Label Result) (last : Result → Script Token Failure Label Last) :
    (script >>= next) >>= last = script >>= fun value => next value >>= last := by
  change (script.bind next).bind last = script.bind fun value => (next value).bind last
  induction script with
  | done | fail => rfl
  | more inner ih => exact congrArg Script.more (funext ih)
  | take count failure inner ih => exact congrArg (Script.take count failure) (funext ih)
  | enter label inner ih => exact congrArg (Script.enter label) ih

end Scripts
end Barton.Scripts
