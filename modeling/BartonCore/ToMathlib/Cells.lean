import Mathlib.Data.List.Nodup
import Mathlib.Tactic

namespace Barton.Cells

section
variable {Cell Key : Type} [DecidableEq Key] (address : Cell → Key) (target : Key)

/-- A read follows a pointer, or any other key, into a list of cells. -/
def read (cells : List Cell) : Option Cell := cells.find? fun cell => address cell == target

/-- A write changes the cell behind a pointer. -/
def write (update : Cell → Cell) (cells : List Cell) : List Cell :=
  cells.map fun cell => if address cell = target then update cell else cell

/-- A deletion removes the cell behind a pointer. -/
def delete (cells : List Cell) : List Cell := cells.filter fun cell => address cell != target

end

section
variable {Cell Key : Type} [DecidableEq Key] {address : Cell → Key} {target : Key} {cells : List Cell}
  {cell : Cell} {Value : Type}

theorem read_address (found : read address target cells = some cell) : address cell = target := by
  have matched := List.find?_some found
  simpa using matched

theorem read_mem (found : read address target cells = some cell) : cell ∈ cells :=
  List.mem_of_find?_eq_some found

theorem read_eq_none : read address target cells = none ↔ ∀ cell ∈ cells, address cell ≠ target := by
  unfold read
  rw [List.find?_eq_none]
  simp

theorem read_append_singleton (cell : Cell) :
    read address target (cells ++ [cell]) =
      (read address target cells).or (if address cell = target then some cell else none) := by
  unfold read
  rw [List.find?_append, List.find?_singleton]
  simp

/-- A fresh appended cell is found. -/
theorem read_append_fresh (absent : ∀ other ∈ cells, address other ≠ address cell) :
    read address (address cell) (cells ++ [cell]) = some cell := by
  have missing := read_eq_none.mpr absent
  unfold read at missing ⊢
  rw [List.find?_append, missing, Option.none_or, List.find?_singleton]
  simp

/-- A live pointer splits the list around its cell. -/
theorem read_split (distinct : (cells.map address).Nodup) (found : read address target cells = some cell) :
    ∃ before after, cells = before ++ cell :: after ∧
      ∀ other ∈ before ++ after, address other ≠ target := by
  have same := read_address found
  obtain ⟨before, after, rfl⟩ := List.append_of_mem (read_mem found)
  refine ⟨before, after, rfl, ?_⟩
  intro other member
  rw [List.map_append, List.map_cons, List.nodup_middle, List.nodup_cons] at distinct
  intro equal
  apply distinct.1
  rw [same, ← equal, ← List.map_append]
  exact List.mem_map_of_mem member

/-- A member is the cell that its own address reads. -/
theorem read_of_mem (distinct : (cells.map address).Nodup) (member : cell ∈ cells) :
    read address (address cell) cells = some cell := by
  unfold read
  induction cells with
  | nil => simp at member
  | cons first rest ih =>
      rw [List.map_cons, List.nodup_cons] at distinct
      rcases List.mem_cons.mp member with same | later
      · subst same
        simp
      · have different : address first ≠ address cell := fun equal =>
          distinct.1 (equal ▸ List.mem_map_of_mem later)
        simp [different, ih distinct.2 later]

/-- With distinct addresses, at most one cell has an address. -/
theorem filter_address (distinct : (cells.map address).Nodup) :
    cells.filter (fun cell => address cell = target) = (read address target cells).toList := by
  cases found : read address target cells with
  | none =>
      rw [List.filter_eq_nil_iff.mpr]
      · rfl
      · intro cell member
        simpa using read_eq_none.mp found cell member
  | some cell =>
      obtain ⟨before, after, rfl, others⟩ := read_split distinct found
      have empty (part : List Cell) (inside : part ⊆ before ++ after) :
          part.filter (fun cell => address cell = target) = [] := by
        rw [List.filter_eq_nil_iff]
        intro other member
        simpa using others other (inside member)
      rw [List.filter_append, List.filter_cons_of_pos (by simpa using read_address found),
        empty before (List.subset_append_left _ _), empty after (List.subset_append_right _ _)]
      rfl

/-- A write away from every cell changes nothing. -/
theorem write_of_absent (update : Cell → Cell) (absent : ∀ cell ∈ cells, address cell ≠ target) :
    write address target update cells = cells := by
  unfold write
  conv_rhs => rw [← List.map_id cells]
  apply List.map_congr_left
  intro cell member
  simp [absent cell member]

/-- A write to a split list changes the middle cell. -/
theorem write_split (update : Cell → Cell) {before after : List Cell}
    (same : address cell = target) (others : ∀ other ∈ before ++ after, address other ≠ target) :
    write address target update (before ++ cell :: after) = before ++ update cell :: after := by
  have left := write_of_absent update fun other member =>
    others other (List.mem_append_left after member)
  have right := write_of_absent update fun other member =>
    others other (List.mem_append_right before member)
  unfold write at left right ⊢
  rw [List.map_append, List.map_cons, left, right, if_pos same]

/-- A write that keeps a projection of its cell keeps the projection of the list. -/
theorem map_write {Value : Type} (project : Cell → Value) (update : Cell → Cell)
    (same : ∀ cell ∈ cells, address cell = target → project (update cell) = project cell) :
    (write address target update cells).map project = cells.map project := by
  unfold write
  rw [List.map_map]
  apply List.map_congr_left
  intro cell member
  by_cases inside : address cell = target
  · simpa [inside] using same cell member inside
  · simp [inside]

theorem filterMap_write (project : Cell → Option Value) (update : Cell → Cell)
    (same : ∀ cell ∈ cells, address cell = target → project (update cell) = project cell) :
    (write address target update cells).filterMap project = cells.filterMap project := by
  unfold write
  rw [List.filterMap_map]
  apply List.filterMap_congr
  intro cell member
  by_cases inside : address cell = target
  · simpa [inside] using same cell member inside
  · simp [inside]

theorem mem_of_mem_delete (member : cell ∈ delete address target cells) : cell ∈ cells :=
  List.mem_of_mem_filter member

/-- Two writes behind one pointer are one write. -/
theorem write_write (first second : Cell → Cell) (same : ∀ cell, address (first cell) = address cell) :
    write address target second (write address target first cells) =
      write address target (fun cell => second (first cell)) cells := by
  unfold write
  rw [List.map_map]
  apply List.map_congr_left
  intro cell _
  by_cases inside : address cell = target
  · simp [inside, same]
  · simp [inside]

/-- A write that restores its cell changes nothing. -/
theorem write_id (update : Cell → Cell) (same : ∀ cell ∈ cells, address cell = target → update cell = cell) :
    write address target update cells = cells := by
  have kept := map_write id update same
  rwa [List.map_id, List.map_id] at kept

/-- The cell behind a pointer after a write is the written one. -/
theorem read_write (update : Cell → Cell) (same : ∀ cell, address (update cell) = address cell) :
    read address target (write address target update cells) =
      (read address target cells).map update := by
  unfold read write
  induction cells with
  | nil => rfl
  | cons first rest ih =>
      by_cases inside : address first = target
      · simp [inside, same]
      · simp [inside, ih]

/-- A write behind one pointer does not change the cell behind another pointer. -/
theorem read_write_of_ne {other : Key} (update : Cell → Cell)
    (same : ∀ cell, address (update cell) = address cell) (different : other ≠ target) :
    read address other (write address target update cells) = read address other cells := by
  unfold read write
  induction cells with
  | nil => rfl
  | cons first rest ih =>
      by_cases inside : address first = target
      · simp [inside, same, Ne.symm different, ih]
      · simp only [List.map_cons, if_neg inside, List.find?_cons, ih]

/-- A write behind one pointer changes what is read behind it and nothing else. -/
theorem read_write_ite (other : Key) (update : Cell → Cell) (same : ∀ cell, address (update cell) = address cell) :
    read address other (write address target update cells) =
      (read address other cells).map fun cell => if other = target then update cell else cell := by
  by_cases equal : other = target
  · rw [equal, read_write update same]
    simp only [if_true]
  · rw [read_write_of_ne update same equal]
    simp only [if_neg equal, Option.map_id_fun', id_eq]

/-- A change of every cell that keeps the addresses changes the cell behind a pointer. -/
theorem read_map (update : Cell → Cell) (same : ∀ cell, address (update cell) = address cell) :
    read address target (cells.map update) = (read address target cells).map update := by
  unfold read
  rw [List.find?_map]
  congr 1
  apply List.find?_congr
  intro cell _
  simp [same]

/-- An appended cell does not change a found one. -/
theorem read_append (found : read address target cells = some cell) (more : List Cell) :
    read address target (cells ++ more) = some cell := by
  unfold read at found ⊢
  rw [List.find?_append, found, Option.some_or]

/-- A deletion away from every cell changes nothing. -/
theorem delete_of_absent (absent : ∀ cell ∈ cells, address cell ≠ target) : delete address target cells = cells := by
  unfold delete
  rw [List.filter_eq_self]
  intro cell member
  simpa using absent cell member

/-- No cell is left behind a deleted pointer. -/
theorem read_delete : read address target (delete address target cells) = none := by
  rw [read_eq_none]
  intro cell member
  simpa using List.of_mem_filter member

/-- A deletion behind one pointer does not change the cell behind another pointer. -/
theorem read_delete_of_ne {other : Key} (different : other ≠ target) :
    read address other (delete address target cells) = read address other cells := by
  unfold read delete
  rw [List.find?_filter]
  apply List.find?_congr
  intro cell _
  by_cases same : address cell = other
  · simp [same, different]
  · simp [same]

/-- A deletion from a split list removes the middle cell. -/
theorem delete_split {before after : List Cell} (same : address cell = target)
    (others : ∀ other ∈ before ++ after, address other ≠ target) :
    delete address target (before ++ cell :: after) = before ++ after := by
  have left := delete_of_absent fun other member => others other (List.mem_append_left after member)
  have right := delete_of_absent fun other member => others other (List.mem_append_right before member)
  unfold delete at left right ⊢
  rw [List.filter_append, List.filter_cons_of_neg (by simp [same]), left, right]

/-- A distinct projection of a deleted cell is gone. -/
theorem not_mem_map_delete {project : Cell → Value} (distinct : (cells.map project).Nodup) (member : cell ∈ cells) :
    project cell ∉ (delete address (address cell) cells).map project := by
  intro again
  obtain ⟨other, kept, same⟩ := List.mem_map.mp again
  obtain rfl := List.inj_on_of_nodup_map distinct (mem_of_mem_delete kept) member same
  simp [delete] at kept

theorem not_mem_filterMap_delete {project : Cell → Option Value}
    {value : Value} (distinct : (cells.filterMap project).Nodup) (member : cell ∈ cells)
    (found : project cell = some value) :
    value ∉ (delete address (address cell) cells).filterMap project := by
  intro again
  obtain ⟨other, kept, same⟩ := List.mem_filterMap.mp again
  obtain ⟨before, after, split⟩ := List.append_of_mem member
  rw [split, List.filterMap_append, List.filterMap_cons_some found, List.nodup_middle,
    List.nodup_cons, ← List.filterMap_append] at distinct
  apply distinct.1
  have inside := mem_of_mem_delete kept
  rw [split, List.mem_append, List.mem_cons] at inside
  rcases inside with left | rfl | right
  · exact List.mem_filterMap.mpr ⟨other, List.mem_append_left _ left, same⟩
  · simp [delete] at kept
  · exact List.mem_filterMap.mpr ⟨other, List.mem_append_right _ right, same⟩

/-- Deleting a fresh appended cell restores the list. -/
theorem delete_append_fresh {cell : Cell} (absent : ∀ other ∈ cells, address other ≠ address cell) :
    delete address (address cell) (cells ++ [cell]) = cells := by
  have kept := delete_of_absent absent
  unfold delete at kept ⊢
  rw [List.filter_append, kept, List.filter_cons_of_neg (by simp), List.filter_nil, List.append_nil]

end

section
variable {Cell Key : Type} {address : Cell → Key} {cells : List Cell}

/-- A fresh appended cell keeps the addresses distinct. -/
theorem nodup_append_fresh {cell : Cell} (distinct : (cells.map address).Nodup)
    (absent : ∀ other ∈ cells, address other ≠ address cell) :
    ((cells ++ [cell]).map address).Nodup := by
  rw [List.map_append, List.map_singleton, List.nodup_append]
  refine ⟨distinct, List.nodup_singleton _, ?_⟩
  intro key member other single
  obtain ⟨old, inside, rfl⟩ := List.mem_map.mp member
  rw [List.mem_singleton.mp single]
  exact absent old inside

/-- The addresses stay distinct without the middle cell. -/
theorem nodup_remove {cell : Cell} {before after : List Cell}
    (distinct : ((before ++ cell :: after).map address).Nodup) :
    ((before ++ after).map address).Nodup := by
  rw [List.map_append, List.map_cons, List.nodup_middle, ← List.map_append] at distinct
  exact (List.nodup_cons.mp distinct).2

/-- The list without the middle cell is part of the whole list. -/
theorem mem_of_mem_remove {cell other : Cell} {before after : List Cell}
    (member : other ∈ before ++ after) : other ∈ before ++ cell :: after := by
  rw [List.mem_append] at member
  rw [List.mem_append, List.mem_cons]
  exact member.imp_right .inr

/-- A cell at a position splits the list there. -/
theorem split_at {cell : Cell} {index : Nat} (distinct : (cells.map address).Nodup)
    (held : cells[index]? = some cell) :
    cells = cells.take index ++ cell :: cells.drop (index + 1) ∧
      ∀ other ∈ cells.take index ++ cells.drop (index + 1), address other ≠ address cell := by
  obtain ⟨inside, same⟩ := List.getElem?_eq_some_iff.mp held
  have split : cells = cells.take index ++ cell :: cells.drop (index + 1) := by
    rw [← same, List.getElem_cons_drop, List.take_append_drop]
  refine ⟨split, ?_⟩
  intro other member equal
  rw [split, List.map_append, List.map_cons, List.nodup_middle, List.nodup_cons, ← List.map_append] at distinct
  exact distinct.1 (equal ▸ List.mem_map_of_mem member)

end

section
variable {Cell Key : Type} [DecidableEq Key] {address : Cell → Key} {cells : List Cell}

/-- The cell at a position is deleted there. -/
theorem delete_at {cell : Cell} {index : Nat} (distinct : (cells.map address).Nodup)
    (held : cells[index]? = some cell) : delete address (address cell) cells = cells.eraseIdx index := by
  obtain ⟨split, others⟩ := split_at distinct held
  rw [List.eraseIdx_eq_take_drop_succ]
  conv_lhs => rw [split]
  exact delete_split rfl others

/-- The cell at a position is written there. -/
theorem write_at {cell : Cell} {index : Nat} (update : Cell → Cell) (distinct : (cells.map address).Nodup)
    (held : cells[index]? = some cell) :
    write address (address cell) update cells = cells.set index (update cell) := by
  obtain ⟨split, others⟩ := split_at distinct held
  rw [List.set_eq_take_append_cons_drop, if_pos (List.getElem?_eq_some_iff.mp held).1]
  conv_lhs => rw [split]
  exact write_split update rfl others

end

end Barton.Cells
