/-
This file contains the outputs of a traversal: each item of a list has an output that depends on the state in which the
traversal meets the item.
-/

import Mathlib.Tactic

namespace Barton.Traversals
variable {State Item Output : Type} {step : State → Item → State} {output : State → Item → Option Output}

variable (step output) in
/-- Item number `n` is met in the state after the first `n` items. -/
def outputs (start : State) (items : List Item) : List Output :=
  items.zipIdx.filterMap fun item => output ((items.take item.2).foldl step start) item.1

variable (step output) in
@[simp] theorem outputs_nil (start : State) : outputs step output start [] = [] := rfl

variable (step output) in
/-- One more item adds its output. -/
theorem outputs_concat (start : State) (items : List Item) (item : Item) :
    outputs step output start (items ++ [item]) =
      outputs step output start items ++ (output (items.foldl step start) item).toList := by
  rw [outputs, List.zipIdx_append, List.filterMap_append, outputs]
  congr 1
  · refine List.filterMap_congr ?_
    intro entry member
    have below : entry.2 < items.length := by
      have bound := (List.mem_zipIdx member).2.1
      omega
    rw [List.take_append_of_le_length below.le]
  · simp only [List.zipIdx_singleton, Nat.zero_add, List.filterMap_cons, List.filterMap_nil,
      List.take_left' (show items.length = items.length from rfl)]
    cases output (items.foldl step start) item with
    | none => rfl
    | some result => rfl

theorem mem_outputs {start : State} {items : List Item} {result : Output}
    (member : result ∈ outputs step output start items) :
    ∃ state, ∃ item ∈ items, output state item = some result := by
  obtain ⟨entry, inside, produced⟩ := List.mem_filterMap.mp member
  exact ⟨_, entry.1, (List.mem_zipIdx' inside).2 ▸ List.getElem_mem _, produced⟩

end Barton.Traversals
