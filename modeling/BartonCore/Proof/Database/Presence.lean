import BartonCore.Proof.Database.Effects

namespace Barton.Database
open Registry

section
variable {lib : Library} {db middle next : JsonDatabase} {result stored : Bool} {uuid : String}

/-- The device is in the database. -/
def JsonDatabase.has (db : JsonDatabase) (uuid : String) : Bool := (db.deviceEntry uuid).isSome

/-- The same devices are in both databases. -/
def SameDevices (db next : JsonDatabase) : Prop := ∀ uuid, next.has uuid = db.has uuid

theorem SameDevices.refl (db : JsonDatabase) : SameDevices db db := fun _ => rfl

/-- A write through a pointer to an entry changes the entries with that address. -/
theorem deviceEntry_updateEntry (address : Address) (update : CacheEntry → CacheEntry)
    (same : ∀ entry, (update entry).uuid = entry.uuid) (uuid : String) :
    (db.updateEntry address update).deviceEntry uuid =
      (db.deviceEntry uuid).map fun entry => if entry.address = address then update entry else entry := by
  unfold JsonDatabase.deviceEntry JsonDatabase.updateEntry Cells.write
  apply Cells.read_map
  intro entry
  by_cases inside : entry.address = address
  · simp [inside, same]
  · simp [inside]

/-- A write through a pointer to an entry keeps the devices. -/
theorem SameDevices.written (address : Address) (update : CacheEntry → CacheEntry)
    (state : next.devices = Cells.write CacheEntry.address address update db.devices)
    (same : ∀ entry, (update entry).uuid = entry.uuid) : SameDevices db next := by
  intro uuid
  have entry : next.deviceEntry uuid = (db.updateEntry address update).deviceEntry uuid := by
    unfold JsonDatabase.deviceEntry JsonDatabase.updateEntry
    rw [state]
  unfold JsonDatabase.has
  rw [entry, deviceEntry_updateEntry address update same, Option.isSome_map]

theorem deviceEntry_flushEntry {address : Address}
    (flushed : flushEntry lib db address stored = some (result, next)) (uuid : String) :
    next.deviceEntry uuid = (db.deviceEntry uuid).map fun entry =>
      if entry.address = address then { entry with dirty := !stored } else entry := by
  obtain ⟨entry, _, _, written⟩ := flushEntry_cases lib flushed
  subst written
  exact deviceEntry_updateEntry address (fun entry => { entry with dirty := !stored }) (fun _ => rfl) uuid

theorem SameDevices.flush {address : Address}
    (flushed : flushEntry lib middle address stored = some (result, next))
    (written : SameDevices db middle) : SameDevices db next := by
  intro uuid
  rw [← written uuid]
  unfold JsonDatabase.has
  rw [deviceEntry_flushEntry flushed, Option.isSome_map]

theorem SameDevices.saveEndpoint {endpoint : DeviceEndpoint}
    (saved : jsonDatabaseSaveEndpoint lib db endpoint stored = some (result, next)) :
    SameDevices db next := by
  rcases jsonDatabaseSaveEndpoint_cases lib saved with
    ⟨_, same⟩ | ⟨uri, entry, found, _, _, ⟨_, flushed⟩ | ⟨_, flushed⟩⟩
  · exact same ▸ SameDevices.refl db
  · exact SameDevices.flush flushed (SameDevices.written _ _ rfl fun _ => rfl)
  · exact SameDevices.flush flushed (SameDevices.written _ _ rfl fun _ => rfl)

theorem SameDevices.saveResource {resource : DeviceResource}
    (saved : jsonDatabaseSaveResource lib db resource stored = some (result, next)) :
    SameDevices db next := by
  rcases jsonDatabaseSaveResource_cases lib saved with
    ⟨_, _, same⟩ | ⟨entry, address, _, ⟨_, _, same⟩ | ⟨_, flushed⟩⟩
  · exact same ▸ SameDevices.refl db
  · exact same ▸ SameDevices.written _ _ rfl fun _ => rfl
  · exact SameDevices.flush flushed (SameDevices.written _ _ rfl fun _ => rfl)

theorem SameDevices.updateDate {resource : DeviceResource} {now : UInt64}
    (updated : jsonDatabaseUpdateDateOfLastSyncMillis db resource now = some (result, next)) :
    SameDevices db next := by
  rcases jsonDatabaseUpdateDateOfLastSyncMillis_cases updated with
    ⟨_, _, same⟩ | ⟨entry, address, _, _, same⟩
  · exact same ▸ SameDevices.refl db
  · exact same ▸ SameDevices.written _ _ rfl fun _ => rfl

theorem SameDevices.createMetadata {entry : Address} {owner : Option Address}
    {metadata : DeviceMetadata}
    (created : createMetadata lib db entry owner metadata stored = some (result, next)) :
    SameDevices db next := by
  have appended : SameDevices db (withMetadata db entry owner metadata) := by
    apply SameDevices.written _ _ rfl
    intro held
    cases owner <;> rfl
  rcases createMetadata_cases lib created with ⟨_, _, same⟩ | ⟨_, flushed⟩
  · exact same ▸ appended
  · exact SameDevices.flush flushed appended

theorem SameDevices.saveMetadata {metadata : DeviceMetadata}
    (saved : jsonDatabaseSaveMetadata lib db metadata stored = some (result, next)) :
    SameDevices db next := by
  rcases jsonDatabaseSaveMetadata_cases lib saved with
    ⟨_, same⟩ | ⟨uri, entry, owner, found, value, _, _, _, flushed⟩ | ⟨entry, _, flushed⟩ |
      ⟨entry, owner, _, created⟩
  · exact same ▸ SameDevices.refl db
  · exact SameDevices.flush flushed (SameDevices.written _ _ rfl fun _ => rfl)
  · exact SameDevices.flush flushed (SameDevices.refl db)
  · exact SameDevices.createMetadata created

theorem SameDevices.removeMetadata {uri : String}
    (removed : jsonDatabaseRemoveMetadataByUri lib db uri stored = some (result, next)) :
    SameDevices db next := by
  rcases jsonDatabaseRemoveMetadataByUri_cases lib removed with
    ⟨_, same⟩ | ⟨entry, owner, address, list, _, _, _, ⟨_, flushed⟩ | ⟨_, _, same⟩⟩
  · exact same ▸ SameDevices.refl db
  · apply SameDevices.flush flushed
    apply SameDevices.written _ _ rfl
    intro held
    cases owner <;> rfl
  · exact same ▸ SameDevices.refl db

/-- An addition changes only the presence of its own device. -/
theorem has_addDevice {device : DeviceRecord}
    (added : jsonDatabaseAddDevice lib db device stored = some (result, next))
    (other : device.uuid ≠ some uuid) : next.has uuid = db.has uuid := by
  rcases jsonDatabaseAddDevice_cases lib added with
    ⟨_, _, same⟩ | ⟨own, named, _, _, _, _, same⟩ | ⟨_, _, _, _, _, _, same, _⟩
  · rw [same]
  · subst same
    have different : (newEntry db device).uuid ≠ some uuid := other
    unfold JsonDatabase.has JsonDatabase.deviceEntry
    show (Cells.read CacheEntry.uuid (some uuid) (db.devices ++ [newEntry db device])).isSome = _
    rw [Cells.read_append_singleton, if_neg different, Option.or_none]
  · rw [same]
    rfl

/-- A removal that succeeds leaves no device with the uuid. -/
theorem has_removeDevice
    (removed : jsonDatabaseRemoveDeviceById db uuid stored = some (result, next)) :
    (result = true ∧ db.has uuid = true ∧ next.has uuid = false) ∨
      (result = false ∧ next = db ∧ (db.has uuid = false ∨ stored = false)) := by
  rcases jsonDatabaseRemoveDeviceById_cases removed with
    ⟨reason, refused, same⟩ | ⟨entry, uris, known, _, success, same⟩
  · refine Or.inr ⟨refused, same, reason.imp_left ?_⟩
    intro unknown
    rw [JsonDatabase.has, unknown, Option.isSome_none]
  · refine Or.inl ⟨success, by rw [JsonDatabase.has, known, Option.isSome_some], ?_⟩
    subst same
    rw [JsonDatabase.has, Option.isSome_eq_false_iff, Option.isNone_iff_eq_none]
    exact Cells.read_delete

/-- An unknown device with acceptable URIs is added when the storage works. -/
theorem jsonDatabaseAddDevice_accepted {device : DeviceRecord} (named : device.uuid = some uuid)
    (unknown : db.has uuid = false) (accepted : (addedTree lib db device).1 = true) :
    ∃ next, jsonDatabaseAddDevice lib db device true = some (true, next) ∧
      (next.deviceEntry uuid).map (fun entry => CachedDevice.record entry.device) = some device := by
  have missing : db.deviceEntry uuid = none := by
    rwa [JsonDatabase.has, Option.isSome_eq_false_iff, Option.isNone_iff_eq_none] at unknown
  refine ⟨{ withDevice lib db device with
    storage := savedStorage lib db.storage (newEntry db device).device true }, ?_, ?_⟩
  · unfold jsonDatabaseAddDevice
    simp only [named, loadDeviceIntoCache_accepted lib named missing accepted, saveDevice_eq]
    rfl
  · have name : (newEntry db device).uuid = some uuid := named
    have absent : ∀ other ∈ db.devices, other.uuid ≠ (newEntry db device).uuid := by
      rw [name]
      exact Cells.read_eq_none.mp missing
    have found := Cells.read_append_fresh absent
    rw [name] at found
    have entry : JsonDatabase.deviceEntry { withDevice lib db device with
        storage := savedStorage lib db.storage (newEntry db device).device true } uuid =
        some (newEntry db device) := found
    rw [entry, Option.map_some, newEntry, deviceClone_record]

end

end Barton.Database
