import BartonCore.Proof.Database.Items

namespace Barton.Database
open Registry

/-- Every object has an address of its own, and every device has a uuid of its own. -/
structure Heap (db : JsonDatabase) : Prop where
  targets : (db.items.map fun item => item.2.target).Nodup
  allocated : ∀ item ∈ db.items, item.2.target < db.nextAddress
  uuids : (db.memory.map fun entry => entry.2.uuid).Nodup

/-- The index holds exactly the items of the devices. -/
structure Indexed (db : JsonDatabase) : Prop where
  heap : Heap db
  exact : Exact db.resourcesByUri db.items

/-- A mutation exchanges some objects for fresh ones and keeps the rest. -/
structure Exchange (db next : JsonDatabase) (removed added rest : List Item) : Prop where
  before : db.items.Perm (removed ++ rest)
  after : next.items.Perm (added ++ rest)
  distinct : (added.map fun item => item.2.target).Nodup
  fresh : ∀ item ∈ added, db.nextAddress ≤ item.2.target ∧ item.2.target < next.nextAddress
  grown : db.nextAddress ≤ next.nextAddress
  uuids : (next.memory.map fun entry => entry.2.uuid).Nodup

/-- Two states agree on the devices, on every device tree, and on the index. -/
structure SameContents (db next : JsonDatabase) : Prop where
  memory : next.memory = db.memory
  index : ∀ uri, next.resourcesByUri.lookup uri = db.resourcesByUri.lookup uri

theorem SameContents.items {db next : JsonDatabase} (same : SameContents db next) : next.items = db.items := by
  unfold JsonDatabase.items
  rw [same.memory]

theorem JsonDatabase.items_eq (db : JsonDatabase) :
    db.items = db.devices.flatMap fun entry => treeItems entry.address entry.device := by
  unfold JsonDatabase.items JsonDatabase.memory
  rw [List.flatMap_map]
  rfl

/-- Items with URIs are registered pairs. -/
theorem exists_keyedItems (items : List Item) (keyed : ∀ item ∈ items, item.1 ≠ none) :
    ∃ pairs : List (String × Locator), items = pairs.map keyedItem := by
  induction items with
  | nil => exact ⟨[], rfl⟩
  | cons item rest ih =>
      rw [List.forall_mem_cons] at keyed
      obtain ⟨pairs, same⟩ := ih keyed.2
      obtain ⟨uri, present⟩ := Option.ne_none_iff_exists'.mp keyed.1
      refine ⟨(uri, item.2) :: pairs, ?_⟩
      rw [same, List.map_cons]
      unfold keyedItem
      rw [← present]

namespace Heap
variable {db next : JsonDatabase}

theorem empty (storage : Storage) : Heap (JsonDatabase.empty storage) where
  targets := List.nodup_nil
  allocated := by simp [JsonDatabase.items, JsonDatabase.memory, JsonDatabase.empty]
  uuids := List.nodup_nil

/-- An exchange of some objects for fresh ones keeps the addresses apart. -/
theorem exchange {removed added rest : List Item} (heap : Heap db)
    (change : Exchange db next removed added rest) : Heap next where
  targets := by
    have targets := heap.targets
    rw [(change.before.map fun item => item.2.target).nodup_iff, List.map_append,
      List.nodup_append] at targets
    rw [(change.after.map fun item => item.2.target).nodup_iff, List.map_append, List.nodup_append]
    refine ⟨change.distinct, targets.2.1, ?_⟩
    intro first member second other same
    obtain ⟨item, inside, found⟩ := List.mem_map.mp member
    obtain ⟨old, held, equal⟩ := List.mem_map.mp other
    have low := (change.fresh item inside).1
    have high := heap.allocated old (change.before.mem_iff.mpr (List.mem_append_right removed held))
    rw [found, same, ← equal] at low
    exact Nat.not_le_of_lt high low
  allocated := by
    intro item member
    rcases List.mem_append.mp (change.after.mem_iff.mp member) with inside | old
    · exact (change.fresh item inside).2
    · have held := change.before.mem_iff.mpr (List.mem_append_right removed old)
      exact Nat.lt_of_lt_of_le (heap.allocated item held) change.grown
  uuids := change.uuids

/-- A mutation that keeps every item and uuid keeps the addresses apart. -/
theorem of_items (heap : Heap db) (items : next.items = db.items)
    (grown : db.nextAddress ≤ next.nextAddress)
    (uuids : (next.memory.map fun entry => entry.2.uuid) = db.memory.map fun entry => entry.2.uuid) :
    Heap next := by
  have change : Exchange db next [] [] db.items := by
    refine ⟨List.Perm.refl _, ?_, List.nodup_nil, by simp, grown, ?_⟩
    · rw [items]
      exact List.Perm.refl _
    · rw [uuids]
      exact heap.uuids
  exact heap.exchange change

theorem of_memory (heap : Heap db) (memory : next.memory = db.memory)
    (grown : db.nextAddress ≤ next.nextAddress) : Heap next := by
  refine heap.of_items ?_ grown (by rw [memory])
  unfold JsonDatabase.items
  rw [memory]

/-- Every item of a held tree is an item of the database. -/
theorem treeItems_sublist {entry : CacheEntry} (member : entry ∈ db.devices) :
    (treeItems entry.address entry.device).Sublist db.items := by
  rw [db.items_eq]
  obtain ⟨before, after, split⟩ := List.append_of_mem member
  rw [split, List.flatMap_append, List.flatMap_cons]
  exact (List.sublist_append_left _ _).trans (List.sublist_append_right _ _)

theorem entries_distinct (heap : Heap db) : (db.devices.map CacheEntry.address).Nodup := by
  have targets := heap.targets
  rw [db.items_eq] at targets
  refine List.Nodup.sublist ?_ targets
  generalize db.devices = devices
  induction devices with
  | nil => exact List.Sublist.slnil
  | cons entry rest ih =>
      rw [List.flatMap_cons, List.map_append, List.map_cons]
      exact List.Sublist.cons_cons _ (ih.trans (List.sublist_append_right _ _))

theorem endpoints_distinct (heap : Heap db) {entry : CacheEntry} (member : entry ∈ db.devices) :
    (entry.device.endpoints.map Allocated.address).Nodup := by
  refine List.Nodup.sublist ?_ heap.targets
  refine List.Sublist.trans ?_ ((treeItems_sublist member).map fun item => item.2.target)
  unfold treeItems
  rw [List.map_cons, List.map_append]
  refine List.Sublist.trans ?_
    ((List.sublist_append_left _ _).trans (List.sublist_cons_self _ _))
  generalize entry.device.endpoints = endpoints
  induction endpoints with
  | nil => exact List.Sublist.slnil
  | cons endpoint rest ih =>
      rw [List.flatMap_cons, List.map_append, List.map_cons]
      exact List.Sublist.cons_cons _ (ih.trans (List.sublist_append_right _ _))

/-- A held entry is found at its own address. -/
theorem entryAt_of_mem (heap : Heap db) {entry : CacheEntry} (member : entry ∈ db.devices) :
    db.entryAt entry.address = some entry :=
  Cells.read_of_mem heap.entries_distinct member

/-- A write to one device changes only the items of that device. -/
theorem items_updateDevice (heap : Heap db) {address : Address} {entry : CacheEntry}
    (found : db.entryAt address = some entry) :
    ∃ rest, db.items.Perm (treeItems address entry.device ++ rest) ∧
      ∀ update, (db.updateDevice address update).items.Perm
        (treeItems address (update entry.device) ++ rest) := by
  obtain ⟨before, after, split, others⟩ := Cells.read_split heap.entries_distinct found
  have same := Cells.read_address found
  refine ⟨(before ++ after).flatMap fun entry => treeItems entry.address entry.device, ?_, ?_⟩
  · rw [db.items_eq, split]
    simp only [List.flatMap_append, List.flatMap_cons, same]
    exact List.perm_append_comm_assoc _ _ _
  · intro update
    have written : (db.updateDevice address update).devices =
        before ++ { entry with device := update entry.device } :: after := by
      change Cells.write CacheEntry.address address _ db.devices = _
      rw [split]
      exact Cells.write_split _ same others
    rw [JsonDatabase.items_eq, written]
    simp only [List.flatMap_append, List.flatMap_cons, same]
    exact List.perm_append_comm_assoc _ _ _

end Heap

theorem Indexed.empty (storage : Storage) : Indexed (JsonDatabase.empty storage) :=
  ⟨Heap.empty storage, Exact.empty⟩

/-- The invariant does not depend on the dirty flags, the storage, or the order of the index. -/
theorem Indexed.of_same {db next : JsonDatabase} (indexed : Indexed db) (same : SameContents db next)
    (grown : db.nextAddress ≤ next.nextAddress) : Indexed next where
  heap := indexed.heap.of_memory same.memory grown
  exact := by
    rw [same.items]
    exact indexed.exact.of_lookup same.index

/-- A complete registration makes the index exact for the new items too. -/
theorem exact_register {index : UriIndex} {items : List Item} (exact : Exact index items)
    (checks : List Check) (success : (index.register (checks.map Check.registration)).1 = true) :
    Exact (index.register (checks.map Check.registration)).2 (checks.map Prod.fst ++ items) := by
  obtain ⟨pairs, registered, after⟩ := exact.register _ success
  rw [items_of_registrations checks pairs registered]
  exact after

/-- The erasure of the URIs of some items makes the index exact for the others. -/
theorem exact_eraseAll {index : UriIndex} {items : List Item} (removed : List Item)
    (exact : Exact index (removed ++ items)) :
    Exact (index.eraseAll (removed.filterMap Prod.fst)) items := by
  obtain ⟨pairs, same⟩ := exists_keyedItems removed fun item member =>
    exact.keyed item (List.mem_append_left _ member)
  rw [same] at exact
  rw [same, filterMap_keyedItem]
  exact Exact.eraseAll pairs exact

theorem entryAt_updateEntry (db : JsonDatabase) (address other : Address) {update : CacheEntry → CacheEntry}
    (same : ∀ entry, (update entry).address = entry.address) : (db.updateEntry address update).entryAt other =
      (db.entryAt other).map fun entry => if other = address then update entry else entry :=
  Cells.read_write_ite other update same

theorem entryAt_updateDevice {db : JsonDatabase} {address : Address} {entry : CacheEntry}
    (held : db.entryAt address = some entry) (update : CachedDevice → CachedDevice) :
    (db.updateDevice address update).entryAt address = some { entry with device := update entry.device } := by
  unfold JsonDatabase.updateDevice
  rw [entryAt_updateEntry db address address (by intro _; rfl), held, Option.map_some, if_pos rfl]

theorem uuids_updateDevice (db : JsonDatabase) (address : Address) (update : CachedDevice → CachedDevice)
    (same : ∀ device, (update device).uuid = device.uuid) :
    ((db.updateDevice address update).memory.map fun entry => entry.2.uuid) =
      db.memory.map fun entry => entry.2.uuid := by
  unfold JsonDatabase.memory
  rw [List.map_map, List.map_map]
  exact Cells.map_write _ _ fun entry _ _ => same entry.device

/-- A write that keeps the items of its tree keeps the items of the database. -/
theorem items_updateDevice_same (db : JsonDatabase) (address : Address)
    (update : CachedDevice → CachedDevice)
    (same : ∀ device, treeItems address (update device) = treeItems address device) :
    (db.updateDevice address update).items = db.items := by
  rw [JsonDatabase.items_eq, JsonDatabase.items_eq]
  have kept := @Cells.map_write CacheEntry Address _ CacheEntry.address address db.devices (List Item)
    (fun entry => treeItems entry.address entry.device)
    (fun entry => { entry with device := update entry.device }) fun entry _ inside => by
      rw [inside]
      exact same entry.device
  have flat := congrArg List.flatten kept
  rw [← List.flatMap_def, ← List.flatMap_def] at flat
  exact flat

end Barton.Database
