/-
This file contains tables that are filled with the entries of a list.
-/

import BartonCore.ToMathlib.Registry

namespace Barton.Registry

section Layers
variable {Key Value : Type} [DecidableEq Key] (entries : List (Sigma fun _ : Key => Value)) (table : Table Key Value)
  (key : Key)

/-- Every entry is put where its key is not present. -/
def Table.putAll : List (Sigma fun _ : Key => Value) → Table Key Value → Table Key Value
  | [], table => table
  | entry :: rest, table => Table.putAll rest (table.put entry.1 entry.2).2

/-- Every entry replaces the value of its key. -/
def Table.insertAll : List (Sigma fun _ : Key => Value) → Table Key Value → Table Key Value
  | [], table => table
  | entry :: rest, table => Table.insertAll rest (AList.insert entry.1 entry.2 table)

theorem Table.lookup_put (value : Value) (other : Key) :
    (table.put other value).2.lookup key = (table.lookup key).or (if key = other then some value else none) := by
  rw [put]
  by_cases same : key = other
  · subst same
    by_cases present : key ∈ table
    · obtain ⟨old, found⟩ := Option.isSome_iff_exists.mp (AList.lookup_isSome.mpr present)
      rw [if_pos present, found, Option.some_or]
    · rw [if_neg present, if_pos rfl, AList.lookup_insert, AList.lookup_eq_none.mpr present, Option.none_or]
  · rw [if_neg same, Option.or_none]
    split_ifs
    · rfl
    · exact AList.lookup_insert_ne same

/-- What is present stays. -/
theorem Table.lookup_putAll : (table.putAll entries).lookup key = (table.lookup key).or (entries.dlookup key) := by
  induction entries generalizing table with
  | nil => rw [putAll, List.dlookup_nil, Option.or_none]
  | cons entry rest ih =>
      rw [putAll, ih, lookup_put, Option.or_assoc]
      congr 1
      by_cases same : key = entry.1
      · subst same
        rw [if_pos rfl, Option.some_or]
        exact (List.dlookup_cons_eq rest entry.1 entry.2).symm
      · rw [if_neg same, Option.none_or, List.dlookup_cons_ne _ _ same]

/-- The first layer with the key has its value. -/
theorem dlookup_flatMap {Item : Type} (items : List Item) (layer : Item → List (Sigma fun _ : Key => Value)) :
    (items.flatMap layer).dlookup key = items.findSome? fun item => (layer item).dlookup key := by
  induction items with
  | nil => rfl
  | cons item rest ih =>
      rw [List.flatMap_cons, List.dlookup_append, ih, List.findSome?_cons]
      cases (layer item).dlookup key with
      | none => exact Option.none_or
      | some value => exact Option.some_or

theorem Table.putAll_append (first second : List (Sigma fun _ : Key => Value)) :
    table.putAll (first ++ second) = (table.putAll first).putAll second := by
  induction first generalizing table with
  | nil => rfl
  | cons entry rest ih => exact ih _

/-- What is listed wins. -/
theorem Table.lookup_insertAll (distinct : entries.NodupKeys) :
    (table.insertAll entries).lookup key = (entries.dlookup key).or (table.lookup key) := by
  induction entries generalizing table with
  | nil => rw [insertAll, List.dlookup_nil, Option.none_or]
  | cons entry rest ih =>
      obtain ⟨fresh, later⟩ := List.nodupKeys_cons.mp distinct
      rw [insertAll, ih _ later]
      by_cases same : key = entry.1
      · subst same
        rw [List.dlookup_eq_none.mpr fresh, Option.none_or, AList.lookup_insert]
        exact (congrArg (Option.or · _) (List.dlookup_cons_eq rest entry.1 entry.2)).symm
      · rw [AList.lookup_insert_ne same, List.dlookup_cons_ne _ _ same]

end Layers
end Barton.Registry
