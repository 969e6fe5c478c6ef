import BartonCore.Proof.Database.HeapRuns

namespace Barton.Database
open Registry

section
variable (lib : Library) {db next : JsonDatabase} {result stored : Bool}

theorem locatedEntry_of_lookup {name : Option String} {uri : String} {locator : Locator} (named : name = some uri)
    (located : db.resourcesByUri.lookup uri = some locator) : db.locatedEntry name = some locator.entry := by
  rw [JsonDatabase.locatedEntry, named, Option.bind_some, located, Option.map_some]

theorem locatedEntry_of_locateResource {uri : Option String} {entry address : Address}
    (located : db.locateResource uri = some (entry, address)) : db.locatedEntry uri = some entry := by
  unfold JsonDatabase.locateResource at located
  split at located
  · rename_i held
    cases located
    unfold JsonDatabase.locatedEntry
    rw [held]
    rfl
  · cases located

theorem ownerEntry_of_deviceEntry {name : Option String} {uuid : String} {entry : CacheEntry}
    (named : name = some uuid) (known : db.deviceEntry uuid = some entry) :
    db.ownerEntry name = some entry.address := by
  rw [JsonDatabase.ownerEntry, named, Option.bind_some, known, Option.map_some]

theorem Heap.entry_address_lt (heap : Heap db) {entry : CacheEntry} (member : entry ∈ db.devices) :
    entry.address < db.nextAddress := by
  have inside : (entry.device.uri, Locator.device entry.address) ∈ db.items :=
    (Heap.treeItems_sublist member).subset List.mem_cons_self
  exact heap.allocated _ inside

theorem Heap.entryAt_newEntry (heap : Heap db) (device : DeviceRecord) :
    Cells.read CacheEntry.address db.nextAddress (db.devices ++ [newEntry db device]) =
      some (newEntry db device) := by
  have absent : ∀ other ∈ db.devices, other.address ≠ (newEntry db device).address :=
    fun other member => Nat.ne_of_lt (heap.entry_address_lt member)
  exact Cells.read_append_fresh absent

/-- A failed call writes nothing. -/
theorem written_of_failure {Value : Type} (value : CachedDevice → Value) (call : Call) (table : Table String Value) :
    written value db next call false table = table := by
  unfold written
  cases storageWrite db call <;> rfl

/-- A save of the changed device writes its document. -/
theorem savedStorage_eq {storage : Storage} {address : Address} {entry : CacheEntry}
    (held : next.entryAt address = some entry) :
    savedStorage lib storage entry.device stored =
      if stored then (Write.device address).apply (document lib) next storage else storage := by
  unfold savedStorage Write.apply
  simp only [held]
  rfl

/-- A flush writes the document of its entry. -/
theorem flushEntry_storage {address : Address} (flushed : flushEntry lib db address stored = some (result, next)) :
    next.storage =
      if result then (Write.device address).apply (document lib) next db.storage else db.storage := by
  obtain ⟨entry, held, same, state⟩ := flushEntry_cases lib flushed
  have kept : next.entryAt address = some { entry with dirty := !stored } := by
    rw [state]
    refine (entryAt_updateEntry db address address (by intro _; rfl)).trans ?_
    rw [held, Option.map_some, if_pos rfl]
  have saved := @savedStorage_eq lib next stored db.storage address _ kept
  rw [same, ← saved, state]

theorem written_of_device {call : Call} {address : Address} {storage : Storage}
    (write : storageWrite db call = some (.device address)) :
    written (document lib) db next call result storage =
      if result then (Write.device address).apply (document lib) next storage else storage := by
  unfold written
  rw [write]

/-- A call that flushes one entry writes the document of that entry. -/
theorem flush_written {call : Call} {middle : JsonDatabase} {address : Address}
    (write : storageWrite db call = some (.device address))
    (flushed : flushEntry lib middle address stored = some (result, next)) (base : middle.storage = db.storage) :
    next.storage = written (document lib) db next call result db.storage := by
  rw [written_of_device lib write, flushEntry_storage lib flushed, base]

/-- After each call the storage differs from before by the document of the written device. -/
theorem perform_storage (heap : Heap db) {call : Call} (performed : perform lib db stored call = some (result, next)) :
    next.storage = written (document lib) db next call result db.storage := by
  have refused (call : Call) (failed : result = false) (same : next.storage = db.storage) :
      next.storage = written (document lib) db next call result db.storage := by
    rw [failed, written_of_failure, same]
  cases call with
  | reload =>
      obtain ⟨_, same⟩ := dropDevices_cases performed
      rw [same]
      rfl
  | load json permissive =>
      rcases loadDevice_cases lib performed with ⟨_, same⟩ | ⟨device, _, loaded⟩
      · rw [same]
        rfl
      · rcases loadDeviceIntoCache_cases lib loaded with
          ⟨_, _, same⟩ | ⟨uuid, named, unknown, _, _, same⟩ | ⟨uuid, uris, index, _, _, _, same, _⟩
        · rw [same]
          rfl
        · rw [same]
          rfl
        · rw [same]
          rfl
  | addDevice device =>
      rcases jsonDatabaseAddDevice_cases lib performed with
        ⟨_, failed, same⟩ | ⟨uuid, _, _, _, _, success, same⟩ | ⟨uuid, uris, index, _, _, failed, same, _⟩
      · exact refused _ failed (by rw [same])
      · have held : next.entryAt db.nextAddress = some (newEntry db device) := by
          rw [same]
          exact heap.entryAt_newEntry device
        have saved := @savedStorage_eq lib next true db.storage db.nextAddress _ held
        have write : storageWrite db (.addDevice device) = some (.device db.nextAddress) := rfl
        rw [written_of_device lib write, success, ← saved, same]
      · exact refused _ failed (by rw [same]; rfl)
  | addEndpoint endpoint =>
      rcases jsonDatabaseAddEndpoint_cases lib performed with
        ⟨_, failed, grown, same⟩ | ⟨uuid, id, entry, named, _, known, ⟨_, failed, same⟩ | ⟨_, success, same⟩⟩
      · exact refused _ failed (by rw [same])
      · exact refused _ failed (by rw [same])
      · have held : next.entryAt entry.address =
            some { entry with device := appendEndpoint (addedEndpoint db endpoint) entry.device } := by
          rw [same]
          exact entryAt_updateDevice (heap.deviceEntry_at known) (appendEndpoint (addedEndpoint db endpoint))
        have saved := @savedStorage_eq lib next stored db.storage entry.address _ held
        have write : storageWrite db (.addEndpoint endpoint) = some (.device entry.address) :=
          congrArg (Option.map Write.device) (ownerEntry_of_deviceEntry named known)
        rw [written_of_device lib write, success, ← saved, same]
  | addResource ownerUri resource =>
      rcases jsonDatabaseAddResource_cases lib performed with ⟨failed, same⟩ | ⟨address, owner, located, added⟩
      · exact refused _ failed (by rw [same])
      · obtain ⟨entry, list, found, same, _, outcome⟩ := addResourceTo_cases lib added
        rcases outcome with ⟨_, _, success, state⟩ | ⟨failed, _, storage, _⟩
        · subst same
          have held : next.entryAt entry.address = some { entry with
              device := appendResource owner ⟨db.nextAddress, resource⟩ entry.device } := by
            rw [state]
            exact entryAt_updateDevice found (appendResource owner ⟨db.nextAddress, resource⟩)
          have saved := @savedStorage_eq lib next true db.storage entry.address _ held
          have write : storageWrite db (.addResource ownerUri resource) = some (.device entry.address) :=
            congrArg (Option.map Write.device) located
          rw [written_of_device lib write, success, ← saved, state]
        · exact refused _ failed storage
  | saveEndpoint endpoint =>
      rcases jsonDatabaseSaveEndpoint_cases lib performed with
        ⟨failed, same⟩ | ⟨uri, entry, found, named, located, ⟨_, flushed⟩ | ⟨_, flushed⟩⟩
      · exact refused _ failed (by rw [same])
      · exact flush_written lib (congrArg (Option.map Write.device) (locatedEntry_of_lookup named located.located))
          flushed rfl
      · exact flush_written lib (congrArg (Option.map Write.device) (locatedEntry_of_lookup named located.located))
          flushed rfl
  | saveResource resource =>
      rcases jsonDatabaseSaveResource_cases lib performed with
        ⟨_, failed, same⟩ | ⟨entry, address, located, ⟨lazy, _, same⟩ | ⟨eager, flushed⟩⟩
      · exact refused _ failed (by rw [same])
      · have write : storageWrite db (.saveResource resource) = none := if_neg lazy
        unfold written
        rw [write, same]
        rfl
      · have write : storageWrite db (.saveResource resource) = some (.device entry) :=
          (if_pos eager).trans (congrArg (Option.map Write.device) (locatedEntry_of_locateResource located))
        exact flush_written lib write flushed rfl
  | updateDateOfLastSyncMillis resource now =>
      rcases jsonDatabaseUpdateDateOfLastSyncMillis_cases performed with
        ⟨_, _, same⟩ | ⟨entry, address, _, _, same⟩
      · rw [same]
        rfl
      · rw [same]
        rfl
  | saveMetadata metadata =>
      rcases jsonDatabaseSaveMetadata_cases lib performed with
        ⟨failed, same⟩ | ⟨uri, entry, owner, found, value, named, located, _, flushed⟩ |
          ⟨entry, ⟨unlocated, known⟩, flushed⟩ | ⟨entry, owner, creates, created⟩
      · exact refused _ failed (by rw [same])
      · have write : storageWrite db (.saveMetadata metadata) = some (.device entry.address) := by
          unfold storageWrite
          simp [locatedEntry_of_lookup named located.located, Locator.entry]
        exact flush_written lib write flushed rfl
      · have write : storageWrite db (.saveMetadata metadata) = some (.device entry.address) := by
          unfold storageWrite
          simp [unlocated, known]
        exact flush_written lib write flushed rfl
      · have write : storageWrite db (.saveMetadata metadata) = some (.device entry.address) := by
          obtain ⟨uri, named, unlocated⟩ := creates.unlocated
          obtain ⟨uuid, given, known⟩ := creates.known
          have nowhere : db.locatedEntry metadata.uri = none := by
            rw [JsonDatabase.locatedEntry, named, Option.bind_some, unlocated, Option.map_none]
          unfold storageWrite
          simp [nowhere, ownerEntry_of_deviceEntry given known]
        rcases createMetadata_cases lib created with ⟨_, failed, same⟩ | ⟨_, flushed⟩
        · exact refused _ failed (by rw [same]; rfl)
        · exact flush_written lib write flushed rfl
  | removeMetadataByUri uri =>
      rcases jsonDatabaseRemoveMetadataByUri_cases lib performed with
        ⟨failed, same⟩ | ⟨entry, owner, address, list, located, _, _, ⟨_, flushed⟩ | ⟨_, failed, same⟩⟩
      · exact refused _ failed (by rw [same])
      · exact flush_written lib (congrArg (Option.map Write.device) (locatedEntry_of_lookup rfl located)) flushed rfl
      · exact refused _ failed (by rw [same])
  | removeDeviceById uuid =>
      rcases jsonDatabaseRemoveDeviceById_cases performed with ⟨_, failed, same⟩ | ⟨entry, uris, _, _, success, same⟩
      · exact refused _ failed (by rw [same])
      · rw [success, same]
        rfl

end

/-- A relation of two tables that the same writes to both of them keep. -/
structure Parallel {First Second : Type} (first : CachedDevice → First) (second : CachedDevice → Second)
    (related : Table String First → Table String Second → Prop) : Prop where
  insert : ∀ left right key device, related left right →
    related (AList.insert key (first device) left) (AList.insert key (second device) right)
  erase : ∀ left right key, related left right → related (AList.erase key left) (AList.erase key right)

namespace Parallel
variable {First Second : Type} {first : CachedDevice → First} {second : CachedDevice → Second}
  {related : Table String First → Table String Second → Prop} {left : Table String First} {right : Table String Second}

/-- A call writes the same keys to both tables. -/
theorem written (parallel : Parallel first second related) (start : related left right) (db next : JsonDatabase)
    (call : Call) (result : Bool) :
    related (Database.written first db next call result left) (Database.written second db next call result right) := by
  unfold Database.written
  cases storageWrite db call with
  | none => exact start
  | some write =>
      cases result with
      | false => exact start
      | true =>
          cases write with
          | removal uuid => exact parallel.erase left right uuid start
          | device address =>
              cases held : next.entryAt address with
              | none => simpa [Write.apply, held] using start
              | some entry =>
                  simp only [Write.apply, held]
                  exact parallel.insert left right (text entry.uuid) entry.device start

/-- The shutdown writes the same keys to both tables. -/
theorem cleanup (parallel : Parallel first second related) (start : related left right) (db : JsonDatabase)
    (persist : Bool) (stored : String → Bool) :
    related (writtenAtCleanup first db persist stored left) (writtenAtCleanup second db persist stored right) := by
  unfold writtenAtCleanup
  generalize db.devices = devices
  induction devices generalizing left right with
  | nil => exact start
  | cons entry rest ih =>
      rw [List.foldl_cons, List.foldl_cons]
      apply ih
      split
      · exact parallel.insert left right (text entry.device.uuid) entry.device start
      · exact start

end Parallel

end Barton.Database
