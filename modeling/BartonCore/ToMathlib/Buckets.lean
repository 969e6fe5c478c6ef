import Mathlib.Tactic

namespace Barton.Buckets
variable {Key Value : Type} [DecidableEq Key]

/-- The values behind a key. -/
def bucket (key : Key) (table : List (Key × List Value)) : List Value :=
  (table.find? fun entry => entry.1 = key).elim [] Prod.snd

/-- A value goes to the end of its bucket. -/
def pushBack (key : Key) (value : Value) : List (Key × List Value) → List (Key × List Value)
  | [] => [(key, [value])]
  | (other, values) :: rest =>
      if other = key then (other, values ++ [value]) :: rest else (other, values) :: pushBack key value rest

/-- A change of every bucket. -/
def mapBuckets (change : List Value → List Value) (table : List (Key × List Value)) : List (Key × List Value) :=
  table.map fun entry => (entry.1, change entry.2)

theorem bucket_pushBack (key other : Key) (value : Value) (table : List (Key × List Value)) :
    bucket other (pushBack key value table) =
      if other = key then bucket other table ++ [value] else bucket other table := by
  induction table with
  | nil =>
      by_cases same : other = key
      · simp [pushBack, bucket, same]
      · simp [pushBack, bucket, same, Ne.symm same]
  | cons entry rest ih =>
      obtain ⟨first, values⟩ := entry
      unfold bucket at ih ⊢
      unfold pushBack
      by_cases own : first = key
      · by_cases same : other = key
        · simp [own, same]
        · simp [own, same, Ne.symm same]
      · by_cases here : first = other
        · have different : other ≠ key := here ▸ own
          simp [here, different]
        · rw [if_neg own, List.find?_cons_of_neg (by simpa using here),
            List.find?_cons_of_neg (by simpa using here)]
          exact ih

theorem bucket_mapBuckets {change : List Value → List Value} (empty : change [] = []) (key : Key)
    (table : List (Key × List Value)) : bucket key (mapBuckets change table) = change (bucket key table) := by
  unfold bucket mapBuckets
  rw [List.find?_map]
  change Option.elim (Option.map _ (List.find? (fun entry => entry.1 = key) table)) [] Prod.snd = _
  cases List.find? (fun entry => entry.1 = key) table with
  | none => exact empty.symm
  | some entry => rfl

/-- No bucket of the table is empty. -/
def Full (table : List (Key × List Value)) : Prop := ∀ entry ∈ table, entry.2 ≠ []

omit [DecidableEq Key] in
theorem Full.nil : Full ([] : List (Key × List Value)) := by
  intro entry member
  cases member

theorem Full.pushBack {table : List (Key × List Value)} (full : Full table) (key : Key) (value : Value) :
    Full (pushBack key value table) := by
  induction table with
  | nil =>
      intro entry member
      rw [List.mem_singleton.mp member]
      exact List.cons_ne_nil _ _
  | cons first rest ih =>
      obtain ⟨other, values⟩ := first
      have later : Full rest := fun entry member => full entry (List.mem_cons_of_mem _ member)
      unfold Buckets.pushBack
      split
      · intro entry member
        rcases List.mem_cons.mp member with rfl | inside
        · exact List.append_ne_nil_of_right_ne_nil _ (List.cons_ne_nil _ _)
        · exact later entry inside
      · intro entry member
        rcases List.mem_cons.mp member with rfl | inside
        · exact full (other, values) List.mem_cons_self
        · exact ih later entry inside

omit [DecidableEq Key] in
theorem Full.mapBuckets {table : List (Key × List Value)} (full : Full table) {change : List Value → List Value}
    (keeps : ∀ values, values ≠ [] → change values ≠ []) : Full (mapBuckets change table) := by
  intro entry member
  obtain ⟨original, inside, rfl⟩ := List.mem_map.mp member
  exact keeps _ (full original inside)

/-- In a full table the keys are those with a nonempty bucket. -/
theorem Full.bucket_ne_nil_iff {table : List (Key × List Value)} (full : Full table) (key : Key) :
    bucket key table ≠ [] ↔ key ∈ table.map Prod.fst := by
  rw [List.mem_map]
  constructor
  · intro nonempty
    cases found : table.find? fun entry => entry.1 = key with
    | none =>
        rw [bucket, found] at nonempty
        exact absurd rfl nonempty
    | some entry =>
        have same := List.find?_some found
        exact ⟨entry, List.mem_of_find?_eq_some found, by simpa using same⟩
  · rintro ⟨entry, member, rfl⟩
    cases found : table.find? fun other => other.1 = entry.1 with
    | none => exact absurd (decide_eq_true rfl) (List.find?_eq_none.mp found entry member)
    | some other =>
        rw [bucket, found]
        exact full other (List.mem_of_find?_eq_some found)

end Barton.Buckets
