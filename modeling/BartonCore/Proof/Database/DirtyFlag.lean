import BartonCore.Proof.Database.IndexRuns

namespace Barton.Database
open Registry

section
variable (lib : Library)

/-- The document of an entry is the one that the storage holds under its uuid. -/
def Stored (storage : Storage) (entry : CacheEntry) : Prop :=
  storage.lookup (text entry.uuid) = some (document lib entry.device)

/-- Every device has a uuid, and every clean entry is stored. -/
structure Synced (db : JsonDatabase) : Prop where
  heap : Heap db
  named : ∀ entry ∈ db.devices, entry.uuid ≠ none
  clean : ∀ entry ∈ db.devices, entry.dirty = false → Stored lib db.storage entry

/-- The entry at one address may differ from the storage. -/
structure SyncedExcept (address : Address) (db : JsonDatabase) : Prop where
  heap : Heap db
  named : ∀ entry ∈ db.devices, entry.uuid ≠ none
  clean : ∀ entry ∈ db.devices, entry.address ≠ address → entry.dirty = false →
    Stored lib db.storage entry

/-- A call is safe when it does not change a clean device without a save. -/
def Safe (db : JsonDatabase) (stored : Bool) : Call → Prop
  | .load json permissive => ∀ device uuid,
      deviceFromJSON lib storageContext permissive json = some device → device.uuid = some uuid →
      db.deviceEntry uuid = none →
      Admitted db.resourcesByUri (treeChecks lib db.nextAddress (newEntry db device).device) →
      db.storage.lookup uuid = some (deviceToJSON lib storageContext device)
  | .addEndpoint endpoint => ∀ uuid id entry, endpoint.deviceUuid = some uuid → endpoint.id = some id →
      db.deviceEntry uuid = some entry →
      Admitted db.resourcesByUri (endpointChecks lib entry.address (addedEndpoint db endpoint)) →
      stored = true ∨ entry.dirty = true
  | .saveMetadata metadata => ∀ entry owner, MetadataOwner db metadata entry owner →
      metadataUriIsValid lib metadata.uri metadata.deviceUuid metadata.endpointId metadata.id = true ∨
        entry.dirty = true
  | _ => True

end

section
variable {lib : Library} {db next : JsonDatabase} {result stored : Bool} {address : Address} {origin : Set String}

theorem text_injective {first second : Option String} (left : first ≠ none) (right : second ≠ none)
    (same : text first = text second) : first = second := by
  obtain ⟨one, equal⟩ := Option.ne_none_iff_exists'.mp left
  obtain ⟨two, other⟩ := Option.ne_none_iff_exists'.mp right
  subst equal other
  exact congrArg some same

/-- A save for one entry keeps the documents of the others. -/
theorem Stored.of_other {storage : Storage} {entry other : CacheEntry} (saved : Bool)
    (held : Stored lib storage other) (left : other.uuid ≠ none) (right : entry.uuid ≠ none)
    (different : other.uuid ≠ entry.uuid) :
    Stored lib (savedStorage lib storage entry.device saved) other := by
  cases saved with
  | false => exact held
  | true =>
      have keys : text other.uuid ≠ text entry.uuid := fun same =>
        different (text_injective left right same)
      exact (AList.lookup_insert_ne keys).trans held

theorem Stored.saved (storage : Storage) (entry : CacheEntry) :
    Stored lib (savedStorage lib storage entry.device true) entry :=
  AList.lookup_insert _

/-- Two held entries with one uuid are one entry. -/
theorem Heap.entry_unique (heap : Heap db) {first second : CacheEntry} (left : first ∈ db.devices)
    (right : second ∈ db.devices) (same : first.uuid = second.uuid) : first = second :=
  List.inj_on_of_nodup_map heap.uuids_distinct left right same

theorem SyncedExcept.of_memory (synced : SyncedExcept lib address db)
    (devices : next.devices = db.devices) (storage : next.storage = db.storage)
    (grown : db.nextAddress ≤ next.nextAddress) : SyncedExcept lib address next where
  heap := synced.heap.of_memory (by unfold JsonDatabase.memory; rw [devices]) grown
  named := by
    rw [devices]
    exact synced.named
  clean := by
    rw [devices, storage]
    exact synced.clean

/-- A write to one device leaves every other entry as it was. -/
theorem SyncedExcept.updateDevice (synced : SyncedExcept lib address db)
    (update : CachedDevice → CachedDevice) (same : ∀ device, (update device).uuid = device.uuid)
    (heap : Heap (db.updateDevice address update)) :
    SyncedExcept lib address (db.updateDevice address update) where
  heap := heap
  named := by
    intro entry member
    obtain ⟨old, held, equal⟩ := List.mem_map.mp member
    subst equal
    split
    · change (update old.device).uuid ≠ none
      rw [same]
      exact synced.named old held
    · exact synced.named old held
  clean := by
    intro entry member different unmarked
    obtain ⟨old, held, equal⟩ := List.mem_map.mp member
    subst equal
    split at different
    · rename_i inside
      exact absurd inside different
    · rename_i outside
      rw [if_neg outside] at unmarked ⊢
      exact synced.clean old held outside unmarked

/-- A flush brings the excepted entry in line with its dirty flag. -/
theorem SyncedExcept.flush (synced : SyncedExcept lib address db)
    (flushed : flushEntry lib db address stored = some (result, next)) : Synced lib next := by
  have heap := synced.heap.flush lib flushed
  obtain ⟨entry, held, _, state⟩ := flushEntry_cases lib flushed
  have same : entry.address = address := Cells.read_address held
  subst state
  refine ⟨heap, ?_, ?_⟩
  · intro other member
    obtain ⟨old, inside, equal⟩ := List.mem_map.mp member
    subst equal
    split <;> exact synced.named old inside
  · intro other member unmarked
    obtain ⟨old, inside, equal⟩ := List.mem_map.mp member
    subst equal
    by_cases reached : old.address = address
    · have unique := List.inj_on_of_nodup_map synced.heap.entries_distinct inside
        (Cells.read_mem held) (reached.trans same.symm)
      subst unique
      rw [if_pos reached] at unmarked ⊢
      have saved : stored = true := by simpa using unmarked
      subst saved
      exact Stored.saved db.storage old
    · rw [if_neg reached] at unmarked ⊢
      refine (synced.clean old inside reached unmarked).of_other stored (synced.named old inside)
        (synced.named entry (Cells.read_mem held)) fun equal => ?_
      have unique := synced.heap.entry_unique inside (Cells.read_mem held) equal
      exact reached (unique ▸ same)

/-- A save of the excepted entry without a flag change makes it stored or leaves it dirty. -/
theorem SyncedExcept.save {address : Address} (synced : SyncedExcept lib address db)
    {entry : CacheEntry} (member : entry ∈ db.devices) (place : entry.address = address)
    (saved : stored = true ∨ entry.dirty = true) :
    Synced lib { db with storage := savedStorage lib db.storage entry.device stored } where
  heap := synced.heap.of_memory rfl (Nat.le_refl _)
  named := synced.named
  clean := by
    intro other inside unmarked
    by_cases reached : other.address = address
    · have unique := List.inj_on_of_nodup_map synced.heap.entries_distinct inside member
        (reached.trans place.symm)
      subst unique
      rcases saved with success | dirty
      · subst success
        exact Stored.saved db.storage other
      · exact absurd (unmarked.symm.trans dirty) Bool.false_ne_true
    · refine (synced.clean other inside reached unmarked).of_other stored (synced.named other inside)
        (synced.named entry member) fun equal => ?_
      have unique := synced.heap.entry_unique inside member equal
      exact reached (unique ▸ place)

/-- A mutation outside the devices and the storage keeps the entries in line. -/
theorem Synced.of_devices (synced : Synced lib db) (devices : next.devices = db.devices)
    (storage : next.storage = db.storage) (heap : Heap next) : Synced lib next := by
  refine ⟨heap, ?_, ?_⟩
  · rw [devices]
    exact synced.named
  · rw [devices, storage]
    exact synced.clean

theorem Synced.withResource (synced : Synced lib db) (entry address : Address)
    (update : DeviceResource → DeviceResource)
    (same : ∀ resource, (update resource).uri = resource.uri) :
    Synced lib (withResource db entry address update) := by
  refine ⟨synced.heap.withResource entry address update same, ?_, ?_⟩
  · intro other member
    obtain ⟨old, held, equal⟩ := List.mem_map.mp member
    subst equal
    split <;> exact synced.named old held
  · intro other member unmarked
    obtain ⟨old, held, equal⟩ := List.mem_map.mp member
    subst equal
    by_cases reached : old.address = entry
    · rw [if_pos reached] at unmarked
      exact absurd unmarked (Bool.noConfusion)
    · rw [if_neg reached] at unmarked ⊢
      exact synced.clean old held unmarked

/-- A new device is in line when its document is stored. -/
theorem Synced.withDevice (synced : Synced lib db) {device : DeviceRecord} {uuid : String}
    (named : device.uuid = some uuid) (unknown : db.deviceEntry uuid = none) {storage : Storage}
    (own : storage.lookup uuid = some (document lib (newEntry db device).device))
    (others : ∀ entry ∈ db.devices, Stored lib db.storage entry → Stored lib storage entry) :
    Synced lib { withDevice lib db device with storage := storage } := by
  have heap := synced.heap.exchange (exchange_withDevice lib synced.heap device named unknown)
  refine ⟨heap.of_memory rfl (Nat.le_refl _), ?_, ?_⟩
  · intro entry member
    rcases List.mem_append.mp member with old | new
    · exact synced.named entry old
    · rw [List.mem_singleton.mp new]
      change device.uuid ≠ none
      simp [named]
  · intro entry member unmarked
    rcases List.mem_append.mp member with old | new
    · exact others entry old (synced.clean entry old unmarked)
    · rw [List.mem_singleton.mp new]
      change storage.lookup (text device.uuid) = _
      rw [named]
      exact own

/-- Every stored key was there at the start or is the uuid of a held device. -/
def Accounted (origin : Set String) (db : JsonDatabase) : Prop :=
  ∀ key, key ∈ db.storage → key ∈ origin ∨ some key ∈ db.devices.map CacheEntry.uuid

/-- A save adds only the uuid of a held device. -/
theorem Accounted.save {origin : Set String} (accounted : Accounted origin db) (entry : CacheEntry)
    (stored : Bool) (uuids : db.devices.map CacheEntry.uuid ⊆ next.devices.map CacheEntry.uuid)
    (storage : next.storage = savedStorage lib db.storage entry.device stored)
    (named : entry.uuid ≠ none) (member : entry.uuid ∈ next.devices.map CacheEntry.uuid) :
    Accounted origin next := by
  intro key held
  rw [storage] at held
  cases stored with
  | false => exact (accounted key held).imp_right fun inside => uuids inside
  | true =>
      rcases (AList.mem_insert _).mp held with same | old
      · right
        obtain ⟨uuid, given⟩ := Option.ne_none_iff_exists'.mp named
        have equal : key = uuid := by
          rw [same]
          change text entry.uuid = uuid
          rw [given]
          rfl
        rw [equal, ← given]
        exact member
      · exact (accounted key old).imp_right fun inside => uuids inside

/-- A write that keeps the uuids of its entries keeps the uuid list. -/
theorem uuids_updateEntry (address : Address) (update : CacheEntry → CacheEntry)
    (same : ∀ entry, (update entry).uuid = entry.uuid) :
    (db.updateEntry address update).devices.map CacheEntry.uuid = db.devices.map CacheEntry.uuid :=
  Cells.map_write CacheEntry.uuid update fun entry _ _ => same entry

theorem Accounted.flush (accounted : Accounted origin db) (named : ∀ entry ∈ db.devices, entry.uuid ≠ none)
    (flushed : flushEntry lib db address stored = some (result, next)) : Accounted origin next := by
  obtain ⟨entry, held, _, state⟩ := flushEntry_cases lib flushed
  have uuids : next.devices.map CacheEntry.uuid = db.devices.map CacheEntry.uuid := by
    rw [state]
    exact uuids_updateEntry address _ fun _ => rfl
  have member := Cells.read_mem held
  refine accounted.save entry stored (by rw [uuids]; exact List.Subset.refl _) (by rw [state])
    (named entry member) ?_
  rw [uuids]
  exact List.mem_map_of_mem member

end

/-- Every call of the run is safe in the state that it reaches. -/
def SafeRun (lib : Library) (db : JsonDatabase) (calls : List (Call × Bool)) : Prop :=
  Runs.Guarded (step lib) (fun db input => Safe lib db input.2 input.1) db calls

theorem Synced.empty (lib : Library) (storage : Storage) : Synced lib (JsonDatabase.empty storage) :=
  ⟨Heap.empty _, by simp [JsonDatabase.empty], by simp [JsonDatabase.empty]⟩

/-- This endpoint belongs to the sample device. -/
def sampleEndpoint : DeviceEndpoint where
  id := some "1"
  uri := some "/a/ep/1"
  profile := some "light"
  profileVersion := 1
  deviceUuid := some "a"
  enabled := true
  resources := []
  metadata := []

end Barton.Database
