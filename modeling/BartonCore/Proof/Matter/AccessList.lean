import BartonCore.Construction.Matter.AccessControl
import BartonCore.ToMathlib.Cells

namespace Barton.AccessControl

/-- A handle denotes nothing, an entry of the list, or a content of its own. -/
inductive Denotation where
  | nothing
  | listed (stamp : Nat)
  | own (content : Content)
  deriving DecidableEq

/-- This is the content that a handle delivers. A handle that denotes nothing delivers what lies outside. -/
def Denotation.given (contents : Nat → Option Content) (outside : Option Content) : Denotation → Option Content
  | .nothing => outside
  | .listed stamp => contents stamp
  | .own content => some content

/-- These are the entries that an iterator has not visited. An iterator that reached its end visits nothing more. -/
structure Cursor where
  fabric : Option UInt8
  pending : Option (List Nat)

/-- An entry has a stamp of its own, which tells it from every other entry. -/
structure AccessList where
  entries : List (Nat × Content)
  fresh : Nat
  handles : Nat → Denotation
  cursors : Nat → Option Cursor

namespace AccessList

def empty : AccessList := ⟨[], 0, fun _ => .nothing, fun _ => none⟩

def stamps (list : AccessList) : List Nat := list.entries.map Prod.fst

/-- These are the entries of a fabric. -/
def ofFabric (list : AccessList) (fabric : UInt8) : List (Nat × Content) :=
  list.entries.filter fun entry => entry.2.fabricIndex = fabric

/-- An index names an entry of the list or, with a fabric, an entry of the fabric. -/
def named (list : AccessList) (index : Nat) : Option UInt8 → Option (Nat × Content)
  | none => list.entries[index]?
  | some fabric => (list.ofFabric fabric)[index]?

/-- This is the content of a listed entry. -/
def content (list : AccessList) (stamp : Nat) : Option Content :=
  (Cells.read Prod.fst stamp list.entries).map Prod.snd

def given (list : AccessList) (entry : Nat) (outside : Option Content) : Option Content :=
  (list.handles entry).given list.content outside

/-- The handle denotes something else. -/
def point (list : AccessList) (entry : Nat) (sense : Denotation) : AccessList :=
  { list with handles := Function.update list.handles entry sense }

/-- The iterator is created, moved, or dropped. -/
def setCursor (list : AccessList) (iterator : Nat) (cursor : Option Cursor) : AccessList :=
  { list with cursors := Function.update list.cursors iterator cursor }

/-- The new entry is the last one, and every iterator before its end has yet to visit it. -/
def append (list : AccessList) (content : Content) : AccessList where
  entries := list.entries ++ [(list.fresh, content)]
  fresh := list.fresh + 1
  handles := list.handles
  cursors := fun iterator => (list.cursors iterator).map fun cursor =>
    { cursor with pending := cursor.pending.map fun pending => pending ++ [list.fresh] }

/-- The entry gets a new content. -/
def replace (list : AccessList) (stamp : Nat) (content : Content) : AccessList :=
  { list with entries := Cells.write Prod.fst stamp (fun _ => (stamp, content)) list.entries }

/-- The first pending entry of the fabric is visited, and the entries before it are passed. -/
def visit (list : AccessList) (fabric : Option UInt8) : List Nat → Option (Nat × List Nat)
  | [] => none
  | stamp :: rest =>
      if fabric.any fun fabric => (list.content stamp).any fun content => fabric != content.fabricIndex then
        visit list fabric rest
      else some (stamp, rest)

end AccessList

/-- The entry leaves the list. A handle on it keeps its content or is reset, and every other handle and every
iterator stays as it is. -/
structure Deleted (list next : AccessList) (stamp : Nat) (content : Content) : Prop where
  entries : next.entries = Cells.delete Prod.fst stamp list.entries
  fresh : next.fresh = list.fresh
  others : ∀ entry, list.handles entry ≠ .listed stamp → next.handles entry = list.handles entry
  handles : ∀ entry, list.handles entry = .listed stamp →
    next.handles entry = .own content ∨ next.handles entry = .nothing
  cursors : next.cursors = fun iterator => (list.cursors iterator).map fun cursor =>
    { cursor with pending := cursor.pending.map fun pending => pending.erase stamp }

/-- This is the outcome of a creation. -/
def AccessList.created (list : AccessList) (content : Content) (relative : Bool) : Outcome :=
  if relative then ⟨.noError, some (list.ofFabric content.fabricIndex).length, some content.fabricIndex⟩
  else ⟨.noError, some list.entries.length, none⟩

/-- These are the outcomes that a call can have on the list. A call for which the pools have no room changes nothing. -/
def Allowed (config : Config) (list : AccessList) (outcome : Outcome) (next : AccessList) : Call → Prop
  | .prepareEntry entry => (outcome = Outcome.of .bufferTooSmall ∧ next = list) ∨
      (outcome = Outcome.of .noError ∧ next = list.point entry (.own (EntryStorage.cleared config).content))
  | .setField entry change => (outcome = Outcome.of .bufferTooSmall ∧ next = list) ∨
      match list.given entry none with
      | none => outcome = Outcome.of .interface ∧ next = list
      | some content => outcome = Outcome.of .noError ∧ next = list.point entry (.own (change content))
  | .createEntry entry outside relative =>
      if config.maxEntries ≤ list.entries.length then outcome = Outcome.of .bufferTooSmall ∧ next = list
      else match list.given entry outside with
        | none => outcome = Outcome.of .interface ∧ next = list
        | some content => outcome = list.created content relative ∧ next = list.append content
  | .readEntry index entry fabric =>
      match list.named index fabric with
      | none => outcome = Outcome.of .sentinel ∧ next = list
      | some found => (outcome = Outcome.of .bufferTooSmall ∧ next = list) ∨
          (outcome = Outcome.of .noError ∧ next = list.point entry (.listed found.1))
  | .updateEntry index entry outside fabric =>
      match list.named index fabric with
      | none => outcome = Outcome.of .sentinel ∧ next = list
      | some found =>
          match list.given entry outside with
          | none => outcome = Outcome.of .interface ∧ next = list
          | some content => outcome = Outcome.of .noError ∧ next = list.replace found.1 content
  | .deleteEntry index fabric =>
      match list.named index fabric with
      | none => outcome = Outcome.of .sentinel ∧ next = list
      | some found => outcome = Outcome.of .noError ∧ Deleted list next found.1 found.2
  | .resetEntry entry => outcome = Outcome.of .noError ∧ next = list.point entry .nothing
  | .startIterator iterator fabric => (outcome = Outcome.of .bufferTooSmall ∧ next = list) ∨
      (outcome = Outcome.of .noError ∧ next = list.setCursor iterator (some ⟨fabric, some list.stamps⟩))
  | .nextEntry iterator entry =>
      match list.cursors iterator with
      | none => outcome = Outcome.of .interface ∧ next = list
      | some cursor =>
          match cursor.pending.bind (list.visit cursor.fabric) with
          | none => outcome = Outcome.of .sentinel ∧
              next = list.setCursor iterator (some { cursor with pending := none })
          | some (stamp, rest) => (outcome = Outcome.of .bufferTooSmall ∧ next = list) ∨
              (outcome = Outcome.of .noError ∧ next = (list.point entry (.listed stamp)).setCursor iterator
                (some { cursor with pending := some rest }))
  | .resetIterator iterator => outcome = Outcome.of .noError ∧ next = list.setCursor iterator none

/-- A used storage holds a content. -/
def used (entry : Nat × Content) : EntryStorage := ⟨true, entry.2⟩

/-- The used storages form a prefix of the array, and they hold the entries. -/
structure Stored (config : Config) (acl : List EntryStorage) (entries : List (Nat × Content)) : Prop where
  size : acl.length = config.maxEntries
  front : ∃ unused, acl = entries.map used ++ unused ∧ ∀ storage ∈ unused, storage.inUse = false

section Stored
variable {config : Config} {acl : List EntryStorage} {entries : List (Nat × Content)}

theorem Stored.init (config : Config) : Stored config (State.init config).acl [] := by
  refine ⟨List.length_replicate, _, rfl, ?_⟩
  intro storage member
  rw [List.eq_of_mem_replicate member]
  rfl

theorem Stored.length_le (stored : Stored config acl entries) : entries.length ≤ config.maxEntries := by
  obtain ⟨unused, rfl, _⟩ := stored.front
  have size := stored.size
  rw [List.length_append, List.length_map] at size
  omega

/-- A storage is in use exactly at the positions of the entries. -/
theorem Stored.getElem? (stored : Stored config acl entries) (index : Nat) :
    (acl[index]?.filter fun storage => storage.inUse) = entries[index]?.map used := by
  obtain ⟨unused, rfl, free⟩ := stored.front
  by_cases inside : index < entries.length
  · rw [List.getElem?_append_left (by simpa using inside), List.getElem?_map]
    cases entries[index]? <;> rfl
  · rw [List.getElem?_append_right (by simpa using Nat.le_of_not_lt inside),
      List.getElem?_eq_none (Nat.le_of_not_lt inside), Option.map_none]
    cases found : unused[index - (entries.map used).length]? with
    | none => rfl
    | some storage => simp [free storage (List.mem_of_getElem? found)]

/-- A position names a used storage exactly when there is an entry. -/
theorem Stored.findUsed_absolute (stored : Stored config acl entries) (index : Nat) :
    findUsedInAcl acl index none = entries[index]?.map fun _ => index := by
  have same := stored.getElem? index
  unfold findUsedInAcl
  dsimp only
  cases found : acl[index]? with
  | none =>
      rw [found, Option.filter_none] at same
      rw [Option.map_eq_none_iff.mp same.symm]
      rfl
  | some storage =>
      rw [found] at same
      by_cases held : storage.inUse = true
      · rw [Option.filter_some_pos held] at same
        obtain ⟨entry, position, _⟩ := Option.map_eq_some_iff.mp same.symm
        rw [position, Option.map_some]
        exact if_pos held
      · rw [Option.filter_some_neg (by simpa using held)] at same
        rw [Option.map_eq_none_iff.mp same.symm]
        exact if_neg held

/-- The loop finds the entry of the fabric with the given number. -/
theorem convertLoop_relative (index : Nat) (fabric : UInt8) (entries : List (Nat × Content))
    {unused : List EntryStorage} (free : ∀ storage ∈ unused, storage.inUse = false) (absolute relative : Nat)
    (below : relative ≤ index) :
    match convertLoop index fabric .relativeToAbsolute absolute relative (entries.map used ++ unused) with
    | none => (entries.filter fun entry => entry.2.fabricIndex = fabric)[index - relative]? = none
    | some found => ∃ offset entry, found = absolute + offset ∧ index - relative ≤ offset ∧
        entries[offset]? = some entry ∧
        (entries.filter fun entry => entry.2.fabricIndex = fabric)[index - relative]? = some entry := by
  induction entries generalizing absolute relative with
  | nil =>
      cases unused with
      | nil => simp [convertLoop]
      | cons storage rest => simp [convertLoop, free storage List.mem_cons_self]
  | cons entry rest ih =>
      rw [List.map_cons, List.cons_append, convertLoop]
      rw [if_neg (by simp [used])]
      by_cases same : entry.2.fabricIndex = fabric
      · rw [if_pos (show (used entry).content.fabricIndex = fabric from same),
          List.filter_cons_of_pos (by simpa using same)]
        by_cases here : index = relative
        · rw [if_pos here]
          exact ⟨0, entry, rfl, by omega, rfl, by rw [here, Nat.sub_self]; rfl⟩
        · rw [if_neg here, show index - relative = index - (relative + 1) + 1 by omega, List.getElem?_cons_succ]
          have later := ih (absolute + 1) (relative + 1) (by omega)
          split at later
          · exact later
          · obtain ⟨offset, found, rfl, bound, held, named⟩ := later
            exact ⟨offset + 1, found, by omega, by omega, held, named⟩
      · rw [if_neg (show ¬(used entry).content.fabricIndex = fabric from same),
          List.filter_cons_of_neg (by simpa using same)]
        have later := ih (absolute + 1) relative below
        split at later
        · exact later
        · obtain ⟨offset, found, rfl, bound, held, named⟩ := later
          exact ⟨offset + 1, found, by omega, by omega, held, named⟩

/-- The last entry of a fabric is behind the other ones. -/
theorem convertLoop_absolute (fabric : UInt8) (entries : List (Nat × Content)) (last : EntryStorage)
    (unused : List EntryStorage) (held : last.inUse = true) (same : last.content.fabricIndex = fabric)
    (absolute relative : Nat) :
    convertLoop (absolute + entries.length) fabric .absoluteToRelative absolute relative
      (entries.map used ++ last :: unused) =
      some (relative + (entries.filter fun entry => entry.2.fabricIndex = fabric).length) := by
  induction entries generalizing absolute relative with
  | nil => simp [convertLoop, held, same]
  | cons entry rest ih =>
      rw [List.map_cons, List.cons_append, convertLoop, if_neg (by simp [used]), List.length_cons,
        show absolute + (rest.length + 1) = absolute + 1 + rest.length by omega]
      by_cases here : entry.2.fabricIndex = fabric
      · rw [if_pos (show (used entry).content.fabricIndex = fabric from here),
          List.filter_cons_of_pos (by simpa using here)]
        rw [if_neg (by omega), ih, List.length_cons]
        congr 1
        omega
      · rw [if_neg (show ¬(used entry).content.fabricIndex = fabric from here),
          List.filter_cons_of_neg (by simpa using here), ih]

/-- The first unused storage is behind the entries. -/
theorem Stored.findUnused (stored : Stored config acl entries) :
    findUnusedInAcl acl = if config.maxEntries ≤ entries.length then none else some entries.length := by
  obtain ⟨unused, split, free⟩ := stored.front
  have size := stored.size
  rw [split, List.length_append, List.length_map] at size
  have busy : (entries.map used).findIdx? (fun storage => !storage.inUse) = none := by
    rw [List.findIdx?_eq_none_iff]
    intro storage member
    obtain ⟨entry, _, rfl⟩ := List.mem_map.mp member
    rfl
  unfold findUnusedInAcl
  rw [split, List.findIdx?_append, busy, Option.none_or, List.length_map]
  cases unused with
  | nil =>
      rw [if_pos (by rw [← size, List.length_nil]; omega)]
      rfl
  | cons storage rest =>
      rw [List.length_cons] at size
      rw [if_neg (by omega), List.findIdx?_cons, free storage List.mem_cons_self]
      simp

/-- A new entry is stored behind the other ones. -/
theorem Stored.append (stored : Stored config acl entries) (room : entries.length < config.maxEntries)
    (stamp : Nat) (content : Content) :
    Stored config (acl.set entries.length ⟨true, content⟩) (entries ++ [(stamp, content)]) ∧
      convertIndex (acl.set entries.length ⟨true, content⟩) entries.length content.fabricIndex
        .absoluteToRelative = (entries.filter fun entry => entry.2.fabricIndex = content.fabricIndex).length := by
  obtain ⟨unused, split, free⟩ := stored.front
  have size := stored.size
  rw [split, List.length_append, List.length_map] at size
  cases unused with
  | nil =>
      rw [List.length_nil] at size
      omega
  | cons storage rest =>
      have written : acl.set entries.length ⟨true, content⟩ = entries.map used ++ ⟨true, content⟩ :: rest := by
        rw [split, List.set_append_right _ _ (by rw [List.length_map]), List.length_map, Nat.sub_self]
        rfl
      have found := convertLoop_absolute content.fabricIndex entries ⟨true, content⟩ rest rfl rfl 0 0
      rw [Nat.zero_add, Nat.zero_add, ← written] at found
      constructor
      · refine ⟨by rw [List.length_set]; exact stored.size, rest, ?_, ?_⟩
        · rw [written, List.map_append, List.append_assoc]
          rfl
        · exact fun other member => free other (List.mem_cons_of_mem _ member)
      · unfold convertIndex
        rw [found]
        rfl

/-- The entry at a position is replaced there. -/
theorem Stored.replace (stored : Stored config acl entries) {position : Nat} (inside : position < entries.length)
    (entry : Nat × Content) : Stored config (acl.set position (used entry)) (entries.set position entry) := by
  obtain ⟨unused, split, free⟩ := stored.front
  refine ⟨by rw [List.length_set]; exact stored.size, unused, ?_, free⟩
  rw [split, List.set_append_left _ _ (by rwa [List.length_map]), List.map_set]

/-- The storages behind the deleted one move down. -/
theorem shiftDown_used (first : EntryStorage) (later : List (Nat × Content)) {unused : List EntryStorage}
    (free : ∀ storage ∈ unused, storage.inUse = false) :
    shiftDown config (first :: (later.map used ++ unused)) =
      later.map used ++ EntryStorage.cleared config :: unused := by
  induction later generalizing first with
  | nil =>
      cases unused with
      | nil => rfl
      | cons storage rest =>
          rw [List.map_nil, List.nil_append, List.nil_append, shiftDown, free storage List.mem_cons_self]
          exact if_neg (by simp)
  | cons entry rest ih =>
      rw [List.map_cons, List.cons_append, shiftDown, if_pos (show (used entry).inUse = true from rfl), ih]
      rfl

/-- The entry at a position leaves the array. -/
theorem Stored.delete (stored : Stored config acl entries) {position : Nat} (inside : position < entries.length) :
    Stored config (acl.take position ++ shiftDown config (acl.drop position)) (entries.eraseIdx position) := by
  obtain ⟨unused, split, free⟩ := stored.front
  have size := stored.size
  have front : acl.take position = (entries.take position).map used := by
    rw [split, List.take_append_of_le_length (by rw [List.length_map]; omega), List.map_take]
  have back : acl.drop position =
      used entries[position] :: ((entries.drop (position + 1)).map used ++ unused) := by
    rw [split, List.drop_append_of_le_length (by rw [List.length_map]; omega), ← List.map_drop,
      List.drop_eq_getElem_cons inside]
    rfl
  have moved : acl.take position ++ shiftDown config (acl.drop position) =
      (entries.eraseIdx position).map used ++ EntryStorage.cleared config :: unused := by
    rw [front, back, shiftDown_used _ _ free, List.eraseIdx_eq_take_drop_succ, List.map_append,
      List.append_assoc]
  constructor
  · rw [moved, List.length_append, List.length_map, List.length_cons, List.length_eraseIdx_of_lt inside]
    rw [split, List.length_append, List.length_map] at size
    omega
  · refine ⟨_, moved, ?_⟩
    intro storage member
    rcases List.mem_cons.mp member with rfl | later
    · rfl
    · exact free storage later

end Stored

section Named
variable {config : Config} {acl : List EntryStorage} {list : AccessList}

/-- The lookup finds the position of the named entry, which is never before the given index. -/
theorem findUsedInAcl_cases (stored : Stored config acl list.entries) (index : Nat) (fabric : Option UInt8) :
    match findUsedInAcl acl index fabric with
    | none => list.named index fabric = none
    | some position => index ≤ position ∧ (fabric = none → index = position) ∧
        ∃ entry, list.entries[position]? = some entry ∧ list.named index fabric = some entry := by
  cases fabric with
  | none =>
      rw [stored.findUsed_absolute]
      cases found : list.entries[index]? with
      | none => exact found
      | some entry => exact ⟨Nat.le_refl _, fun _ => rfl, entry, found, found⟩
  | some fabric =>
      obtain ⟨unused, split, free⟩ := stored.front
      have loop := convertLoop_relative index fabric list.entries free 0 0 (Nat.zero_le _)
      rw [← split, Nat.sub_zero] at loop
      have absolute : findUsedInAcl acl index (some fabric) =
          findUsedInAcl acl (convertIndex acl index fabric .relativeToAbsolute) none := rfl
      rw [absolute, stored.findUsed_absolute]
      unfold convertIndex
      cases found : convertLoop index fabric .relativeToAbsolute 0 0 acl with
      | none =>
          rw [found] at loop
          have outside : list.entries[acl.length]? = none :=
            List.getElem?_eq_none (by rw [stored.size]; exact stored.length_le)
          rw [Option.getD_none, outside]
          exact loop
      | some position =>
          rw [found] at loop
          obtain ⟨offset, entry, same, bound, held, named⟩ := loop
          rw [Nat.zero_add] at same
          subst same
          rw [Option.getD_some, held, Option.map_some]
          exact ⟨bound, fun absent => absurd absent (Option.some_ne_none fabric), entry, held, named⟩

/-- The entry at a position has its stamp to itself. -/
theorem AccessList.content_at (distinct : list.stamps.Nodup) {position : Nat} {entry : Nat × Content}
    (held : list.entries[position]? = some entry) : list.content entry.1 = some entry.2 := by
  unfold AccessList.content
  rw [Cells.read_of_mem distinct (List.mem_of_getElem? held)]
  rfl

theorem AccessList.stamps_getElem? (position : Nat) : list.stamps[position]? = list.entries[position]?.map Prod.fst :=
  List.getElem?_map

end Named

/-- An iterator stands before the first entry, at the last entry that it visited, or at the end of the array. -/
def Stands (config : Config) (stamps : List Nat) : Option Nat → Option (List Nat) → Prop
  | none, pending => pending = some stamps
  | some position, pending =>
      position < stamps.length ∧ pending = some (stamps.drop (position + 1)) ∨
        position = config.maxEntries ∧ pending = none

section Stands
variable {config : Config} {acl : List EntryStorage} {list : AccessList}
  {pending : Option (List Nat)} {stamps : List Nat}

/-- The loop of `Next` arrives at the first pending entry of the fabric. -/
theorem scan_cases (fabric : Option UInt8) (later : List (Nat × Content))
    (listed : ∀ entry ∈ later, list.content entry.1 = some entry.2) {unused : List EntryStorage}
    (free : ∀ storage ∈ unused, storage.inUse = false) (position : Nat) :
    scan fabric position (later.map used ++ unused) = none ∧ list.visit fabric (later.map Prod.fst) = none ∨
      ∃ offset entry, scan fabric position (later.map used ++ unused) = some (position + offset) ∧
        later[offset]? = some entry ∧
        list.visit fabric (later.map Prod.fst) = some (entry.1, (later.drop (offset + 1)).map Prod.fst) := by
  induction later generalizing position with
  | nil =>
      left
      cases unused with
      | nil => exact ⟨rfl, rfl⟩
      | cons storage rest =>
          refine ⟨?_, rfl⟩
          rw [List.map_nil, List.nil_append, scan, free storage List.mem_cons_self]
          rfl
  | cons entry rest ih =>
      rw [List.map_cons, List.map_cons, List.cons_append, scan, AccessList.visit,
        if_neg (show ¬(!(used entry).inUse) = true by simp [used]), listed entry List.mem_cons_self]
      simp only [Option.any_some]
      by_cases other : (fabric.any fun fabric => fabric != entry.2.fabricIndex) = true
      · rw [if_pos (show (fabric.any fun fabric => fabric != (used entry).content.fabricIndex) = true from other),
          if_pos other]
        rcases ih (fun later member => listed later (List.mem_cons_of_mem _ member)) (position + 1) with
          ended | ⟨offset, found, arrived, held, visited⟩
        · exact .inl ended
        · refine .inr ⟨offset + 1, found, ?_, held, visited⟩
          rw [arrived, Nat.add_right_comm, Nat.add_assoc]
      · rw [if_neg (show ¬(fabric.any fun fabric => fabric != (used entry).content.fabricIndex) = true from other),
          if_neg other]
        exact .inr ⟨0, entry, rfl, rfl, rfl⟩

/-- The next position is the one of the next pending entry. -/
theorem Stands.next (stored : Stored config acl list.entries) (distinct : list.stamps.Nodup)
    {delegate : EntryIteratorDelegate}
    (stands : Stands config list.stamps delegate.storage pending) :
    nextPosition acl delegate = none ∧ pending.bind (list.visit delegate.fabric) = none ∨
      ∃ position entry, nextPosition acl delegate = some position ∧ list.entries[position]? = some entry ∧
        pending.bind (list.visit delegate.fabric) = some (entry.1, list.stamps.drop (position + 1)) := by
  have size := stored.size
  have short := stored.length_le
  obtain ⟨unused, split, free⟩ := stored.front
  -- From a position in the list, the array and the list have the same entries left.
  have step (start : Nat) (inside : start ≤ list.entries.length) :
      scan delegate.fabric start (acl.drop start) = none ∧
          list.visit delegate.fabric (list.stamps.drop start) = none ∨
        ∃ position entry, scan delegate.fabric start (acl.drop start) = some position ∧
          list.entries[position]? = some entry ∧
          list.visit delegate.fabric (list.stamps.drop start) =
            some (entry.1, list.stamps.drop (position + 1)) := by
    have listed (entry : Nat × Content) (member : entry ∈ list.entries.drop start) :
        list.content entry.1 = some entry.2 := by
      obtain ⟨position, held⟩ := List.getElem?_of_mem (List.mem_of_mem_drop member)
      exact AccessList.content_at distinct held
    have back : acl.drop start = (list.entries.drop start).map used ++ unused := by
      rw [split, List.drop_append_of_le_length (by rwa [List.length_map]), List.map_drop]
    have stamps : list.stamps.drop start = (list.entries.drop start).map Prod.fst := by
      rw [AccessList.stamps, List.map_drop]
    rw [back, stamps]
    rcases scan_cases delegate.fabric _ listed free start with ended | ⟨offset, entry, arrived, held, visited⟩
    · exact .inl ended
    · refine .inr ⟨start + offset, entry, arrived, ?_, ?_⟩
      · rwa [List.getElem?_drop] at held
      · rw [visited, List.drop_drop, AccessList.stamps, List.map_drop, Nat.add_assoc]
  unfold nextPosition
  cases storage : delegate.storage with
  | none =>
      rw [storage] at stands
      rw [show pending = some list.stamps from stands, Option.bind_some]
      exact step 0 (Nat.zero_le _)
  | some position =>
      rw [storage] at stands
      rcases stands with ⟨inside, rfl⟩ | ⟨rfl, rfl⟩
      · rw [AccessList.stamps, List.length_map] at inside
        rw [Option.bind_some]
        simp only [if_pos (show position < acl.length by omega)]
        exact step (position + 1) inside
      · left
        simp only [if_neg (show ¬config.maxEntries < acl.length by omega)]
        rw [← size, List.drop_length]
        exact ⟨rfl, rfl⟩

/-- Every iterator before its end has yet to visit the new entry. -/
theorem Stands.append {storage : Option Nat} (stands : Stands config stamps storage pending) (stamp : Nat) :
    Stands config (stamps ++ [stamp]) storage (pending.map fun pending => pending ++ [stamp]) := by
  cases storage with
  | none =>
      rw [show pending = some stamps from stands]
      rfl
  | some position =>
      rcases stands with ⟨inside, rfl⟩ | ⟨same, rfl⟩
      · left
        rw [Option.map_some, List.drop_append_of_le_length inside, List.length_append]
        exact ⟨Nat.lt_add_right _ inside, rfl⟩
      · exact .inr ⟨same, rfl⟩

/-- The entries behind a position lose the deleted one. -/
theorem erase_drop (distinct : stamps.Nodup) {absolute stamp : Nat}
    (held : stamps[absolute]? = some stamp) (start : Nat) :
    (stamps.drop start).erase stamp = (stamps.eraseIdx absolute).drop (if absolute < start then start - 1 else start) := by
  obtain ⟨inside, same⟩ := List.getElem?_eq_some_iff.mp held
  split
  · next before =>
    rw [List.erase_of_not_mem]
    · apply List.ext_getElem?
      intro index
      rw [List.getElem?_drop, List.getElem?_drop, List.getElem?_eraseIdx_of_ge (by omega)]
      congr 1
      omega
    · intro member
      obtain ⟨index, later⟩ := List.getElem?_of_mem member
      rw [List.getElem?_drop] at later
      have equal := (List.getElem?_inj inside distinct).mp (held.trans later.symm)
      omega
  · next behind =>
    have place : (stamps.drop start)[absolute - start]? = some stamp := by
      rw [List.getElem?_drop, Nat.add_sub_of_le (Nat.le_of_not_lt behind), held]
    have apart : ((stamps.drop start).map id).Nodup := by
      rw [List.map_id]
      exact distinct.sublist (List.drop_sublist start stamps)
    rw [List.Nodup.erase_eq_filter (distinct.sublist (List.drop_sublist start stamps))]
    refine (Cells.delete_at apart place).trans ?_
    apply List.ext_getElem?
    intro index
    rw [List.getElem?_drop, List.getElem?_eraseIdx, List.getElem?_eraseIdx, List.getElem?_drop, List.getElem?_drop]
    by_cases early : index < absolute - start
    · rw [if_pos early, if_pos (by omega)]
    · rw [if_neg early, if_neg (by omega), Nat.add_assoc]

/-- An iterator that does not stand between the two positions keeps its place in the list. -/
theorem Stands.delete {delegate : EntryIteratorDelegate}
    (stands : Stands config stamps delegate.storage pending) (distinct : stamps.Nodup)
    {index absolute stamp : Nat} (held : stamps[absolute]? = some stamp) (short : stamps.length ≤ config.maxEntries)
    (below : index ≤ absolute)
    (clear : ∀ position, delegate.storage = some position → position < absolute → position < index) :
    Stands config (stamps.eraseIdx absolute) (delegate.fixAfterDelete config.maxEntries index).storage
      (pending.map fun pending => pending.erase stamp) := by
  obtain ⟨inside, _⟩ := List.getElem?_eq_some_iff.mp held
  have whole := erase_drop distinct held
  unfold EntryIteratorDelegate.fixAfterDelete
  cases storage : delegate.storage with
  | none =>
      rw [storage] at stands
      rw [show pending = some stamps from stands, storage]
      have all := whole 0
      rw [if_neg (Nat.not_lt_zero _), List.drop_zero, List.drop_zero] at all
      exact congrArg some all
  | some position =>
      rw [storage] at stands
      have apart := clear position storage
      rcases stands with ⟨reached, rfl⟩ | ⟨rfl, rfl⟩
      · have rest := whole (position + 1)
        rw [Option.map_some, rest]
        by_cases behind : absolute ≤ position
        · rw [if_pos (show absolute < position + 1 by omega), Nat.add_sub_cancel]
          simp only [if_pos (show index ≤ position ∧ position < config.maxEntries by omega)]
          by_cases first : position = 0
          · rw [if_pos first, first]
            rfl
          · rw [if_neg first]
            left
            rw [List.length_eraseIdx_of_lt inside, Nat.sub_add_cancel (Nat.pos_of_ne_zero first)]
            exact ⟨by omega, rfl⟩
        · rw [if_neg (show ¬absolute < position + 1 by omega)]
          simp only [if_neg (show ¬(index ≤ position ∧ position < config.maxEntries) by omega), storage]
          left
          rw [List.length_eraseIdx_of_lt inside]
          exact ⟨by omega, rfl⟩
      · simp only [if_neg (show ¬(index ≤ config.maxEntries ∧ config.maxEntries < config.maxEntries) by omega),
          storage]
        exact .inr ⟨rfl, rfl⟩

end Stands

end Barton.AccessControl
