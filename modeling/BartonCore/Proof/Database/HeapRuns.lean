import BartonCore.Proof.Database.Effects

namespace Barton.Database
open Registry

section Exchanges
variable (lib : Library) {db : JsonDatabase} {entry : CacheEntry} {owner : Option Address} {uuid : String}

theorem mem_range'_bounds {start length address : Nat} (member : address ∈ List.range' start length) :
    start ≤ address ∧ address < start + length := by
  rw [List.mem_range'_1] at member
  exact member

/-- A new device adds the items of its tree. -/
theorem exchange_withDevice (heap : Heap db) (device : DeviceRecord)
    (named : device.uuid = some uuid) (unknown : db.deviceEntry uuid = none) :
    Exchange db (withDevice lib db device) []
      (treeItems db.nextAddress (newEntry db device).device) db.items where
  before := List.Perm.refl _
  after := by
    rw [JsonDatabase.items_eq, JsonDatabase.items_eq]
    unfold withDevice
    rw [List.flatMap_append, List.flatMap_cons, List.flatMap_nil, List.append_nil]
    exact List.perm_append_comm
  distinct := by
    rw [show (newEntry db device).device = deviceClone (db.nextAddress + 1) device from rfl,
      deviceClone_targets]
    exact List.nodup_range' ..
  fresh := by
    intro item member
    have target := List.mem_map_of_mem (f := fun item : Item => item.2.target) member
    rw [show (newEntry db device).device = deviceClone (db.nextAddress + 1) device from rfl,
      deviceClone_targets] at target
    have bounds := mem_range'_bounds target
    exact ⟨bounds.1, by rw [withDevice]; simpa only [Nat.add_assoc] using bounds.2⟩
  grown := by
    unfold withDevice
    exact Nat.le_trans (Nat.le_add_right _ _) (Nat.le_add_right _ _)
  uuids := by
    have absent := Cells.read_eq_none.mp unknown
    unfold JsonDatabase.memory withDevice
    rw [List.map_append, List.map_append, List.nodup_append]
    refine ⟨heap.uuids, List.nodup_singleton _, ?_⟩
    intro first member second other
    rw [List.map_map] at member
    obtain ⟨entry, held, same⟩ := List.mem_map.mp member
    have last : second = some uuid := by
      have equal := List.mem_singleton.mp other
      rw [equal]
      exact named
    rw [← same, last]
    exact absent entry held

theorem Heap.uuids_distinct (heap : Heap db) : (db.devices.map CacheEntry.uuid).Nodup := by
  have uuids := heap.uuids
  rwa [JsonDatabase.memory, List.map_map] at uuids

theorem Heap.deviceEntry_at (heap : Heap db)
    (known : db.deviceEntry uuid = some entry) : db.entryAt entry.address = some entry :=
  heap.entryAt_of_mem (Cells.read_mem known)

/-- A new endpoint adds the items of its tree. -/
theorem exchange_withEndpoint (heap : Heap db)
    (held : db.entryAt entry.address = some entry) (endpoint : DeviceEndpoint) :
    Exchange db (withEndpoint lib db entry endpoint) []
      (endpointItems entry.address (addedEndpoint db endpoint)) db.items where
  before := List.Perm.refl _
  after := by
    obtain ⟨rest, before, after⟩ := heap.items_updateDevice held
    refine (after (appendEndpoint (addedEndpoint db endpoint))).trans ?_
    refine ((treeItems_appendEndpoint entry.address _).append_right rest).trans ?_
    rw [List.append_assoc]
    exact before.symm.append_left _
  distinct := by
    rw [addedEndpoint, endpointClone_targets]
    exact List.nodup_range' ..
  fresh := by
    intro item member
    have target := List.mem_map_of_mem (f := fun item : Item => item.2.target) member
    rw [addedEndpoint, endpointClone_targets] at target
    exact mem_range'_bounds target
  grown := Nat.le_add_right _ _
  uuids := by
    rw [withEndpoint, uuids_updateDevice]
    · exact heap.uuids
    · intro device
      rfl

/-- A list that gets one more element at the next address adds one item. -/
theorem exchange_append {Element : Type} (after : JsonDatabase) {list : List Element} {element : Element}
    {toItem : Element → Item} {rest : List Item} (before : db.items.Perm (list.map toItem ++ rest))
    (appended : after.items.Perm ((list ++ [element]).map toItem ++ rest))
    (target : (toItem element).2.target = db.nextAddress) (grown : after.nextAddress = db.nextAddress + 1)
    (uuids : (after.memory.map fun entry => entry.2.uuid).Nodup) :
    Exchange db after [] [toItem element] db.items where
  before := List.Perm.refl _
  after := by
    refine appended.trans ?_
    refine List.Perm.trans ?_ (before.symm.append_left _)
    rw [List.map_append, List.append_assoc]
    exact List.perm_append_comm_assoc _ _ _
  distinct := List.nodup_singleton _
  fresh := by
    intro item member
    rw [List.mem_singleton.mp member, target, grown]
    exact ⟨Nat.le_refl _, Nat.lt_succ_self _⟩
  grown := by
    rw [grown]
    exact Nat.le_succ _
  uuids := uuids

/-- New metadata adds one item. -/
theorem exchange_withMetadata (heap : Heap db) (held : db.entryAt entry.address = some entry)
    {list : List CachedMetadata} (owned : entry.device.metadataOf owner = some list)
    (metadata : DeviceMetadata) :
    Exchange db (withMetadata db entry.address owner metadata) []
      [metadataItem entry.address owner ⟨db.nextAddress, metadata⟩] db.items := by
  obtain ⟨rest, before, after⟩ := heap.items_changeMetadata held owned
  have appended := after fun list => list ++ [⟨db.nextAddress, metadata⟩]
  apply exchange_append (withMetadata db entry.address owner metadata) before appended rfl rfl
  rw [withMetadata, uuids_updateDevice]
  · exact heap.uuids
  · intro device
    cases owner <;> rfl

/-- A new resource adds one item. -/
theorem exchange_withNewResource (heap : Heap db) (held : db.entryAt entry.address = some entry)
    {list : List CachedResource} (owned : entry.device.resourcesOf owner = some list)
    (resource : DeviceResource) :
    Exchange db (withNewResource lib db entry owner resource) []
      [resourceItem entry.address owner ⟨db.nextAddress, resource⟩] db.items := by
  obtain ⟨rest, before, after⟩ := heap.items_changeResources held owned
  have appended := after fun list => list ++ [⟨db.nextAddress, resource⟩]
  apply exchange_append (withNewResource lib db entry owner resource) before appended rfl rfl
  rw [withNewResource, uuids_updateDevice]
  · exact heap.uuids
  · intro device
    cases owner <;> rfl

/-- The tree items of an endpoint do not depend on its flags. -/
theorem treeItems_replace (entry address : Address) (device : CachedDevice) (endpoint : DeviceEndpoint)
    (resources : List CachedResource) :
    treeItems entry (device.updateEndpoint address fun content =>
      { content with enabled := endpoint.enabled, profileVersion := endpoint.profileVersion, resources }) =
      treeItems entry (device.changeResources (some address) fun _ => resources) := by
  have kept : (device.endpoints.map fun endpointCell : CachedEndpoint => endpointItems entry
      (if endpointCell.address = address then ⟨endpointCell.address, { endpointCell.content with
        enabled := endpoint.enabled, profileVersion := endpoint.profileVersion, resources }⟩
        else endpointCell)) =
      device.endpoints.map fun endpointCell : CachedEndpoint => endpointItems entry
        (if endpointCell.address = address then
          ⟨endpointCell.address, { endpointCell.content with resources }⟩ else endpointCell) := by
    apply List.map_congr_left
    intro endpointCell _
    split <;> rfl
  have flat := congrArg List.flatten kept
  simp only [← List.flatMap_def] at flat
  simp only [treeItems, CachedDevice.updateEndpoint, CachedDevice.changeResources, updateAt, Cells.write,
    List.flatMap_map]
  rw [flat]

/-- A replacement exchanges the resource items of one endpoint. -/
theorem exchange_withReplaced (heap : Heap db) {found : CachedEndpoint}
    {uri : String} (located : EndpointFound db uri entry found) (endpoint : DeviceEndpoint) :
    ∃ rest, Exchange db (withReplaced lib db entry found endpoint)
      (found.content.resources.map (resourceItem entry.address (some found.address)))
      ((replacedResources db endpoint).map (resourceItem entry.address (some found.address))) rest := by
  have owned : entry.device.resourcesOf (some found.address) = some found.content.resources := by
    rw [CachedDevice.resourcesOf, located.inside]
    rfl
  obtain ⟨rest, before, after⟩ := heap.items_changeResources located.held owned
  refine ⟨rest, before, ?_, ?_, ?_, Nat.le_add_right _ _, ?_⟩
  · refine List.Perm.trans ?_ (after fun _ => replacedResources db endpoint)
    rw [JsonDatabase.items_eq, JsonDatabase.items_eq]
    unfold withReplaced JsonDatabase.updateDevice JsonDatabase.updateEntry Cells.write
    rw [List.flatMap_map, List.flatMap_map]
    refine List.Perm.of_eq (congrArg (List.flatMap · db.devices) (funext fun other => ?_))
    split
    · exact treeItems_replace _ _ _ _ _
    · rfl
  · rw [resourceItems_targets, replacedResources, cloneList_addresses]
    exact List.nodup_range' ..
  · intro item member
    have target := List.mem_map_of_mem (f := fun item : Item => item.2.target) member
    rw [resourceItems_targets, replacedResources, cloneList_addresses] at target
    exact mem_range'_bounds target
  · rw [withReplaced, uuids_updateDevice]
    · exact heap.uuids
    · intro device
      rfl

/-- The removed metadata is the one behind the pointer. -/
theorem exchange_withoutMetadata (heap : Heap db) (held : db.entryAt entry.address = some entry)
    {list : List CachedMetadata} (owned : entry.device.metadataOf owner = some list)
    (uri : String) {item : CachedMetadata} (member : item ∈ list) :
    Exchange db (withoutMetadata db uri entry.address owner item.address)
      [metadataItem entry.address owner item] []
      (withoutMetadata db uri entry.address owner item.address).items where
  before := by
    obtain ⟨rest, before, after⟩ := heap.items_changeMetadata held owned
    have distinct : (list.map Allocated.address).Nodup := by
      have targets := (before.map fun item => item.2.target).nodup_iff.mp heap.targets
      rw [List.map_append, metadataItems_targets, List.nodup_append] at targets
      exact targets.1
    obtain ⟨first, second, split, others⟩ := Cells.read_split distinct
      (Cells.read_of_mem distinct member)
    have deleted := after (Cells.delete Allocated.address item.address)
    rw [split, Cells.delete_split rfl others] at deleted
    refine before.trans (List.Perm.trans ?_ (deleted.symm.append_left _))
    rw [split, List.perm_iff_count]
    intro other
    simp only [List.map_append, List.map_cons, List.count_append, List.count_cons, List.count_nil]
    omega
  after := List.Perm.refl _
  distinct := List.nodup_nil
  fresh := by simp
  grown := Nat.le_refl _
  uuids := by
    rw [withoutMetadata, uuids_updateDevice]
    · exact heap.uuids
    · intro device
      cases owner <;> rfl

/-- A removed device takes the items of its tree with it. -/
theorem exchange_withoutDevice (heap : Heap db) (known : db.deviceEntry uuid = some entry) (uris : List String) :
    Exchange db (withoutDevice db uuid uris) (treeItems entry.address entry.device) []
      (withoutDevice db uuid uris).items where
  before := by
    have distinct := heap.uuids_distinct
    obtain ⟨before, after, split, others⟩ := Cells.read_split distinct known
    have kept : (withoutDevice db uuid uris).devices = before ++ after := by
      change Cells.delete _ _ db.devices = _
      rw [split]
      exact Cells.delete_split (Cells.read_address known) others
    rw [JsonDatabase.items_eq, JsonDatabase.items_eq, kept, split]
    simp only [List.flatMap_append, List.flatMap_cons]
    exact List.perm_append_comm_assoc _ _ _
  after := List.Perm.refl _
  distinct := List.nodup_nil
  fresh := by simp
  grown := Nat.le_refl _
  uuids := by
    rw [JsonDatabase.memory, List.map_map]
    exact List.Nodup.sublist (List.filter_sublist.map _) heap.uuids_distinct

end Exchanges

section Heap
variable (lib : Library) {db next : JsonDatabase} {result stored : Bool} {entry : CacheEntry}

theorem resourceItem_mem_treeItems (entry : Address) {device : CachedDevice} {resource : CachedResource}
    (inside : resource ∈ device.allResources) : ∃ owner, resourceItem entry owner resource ∈ treeItems entry device := by
  unfold treeItems endpointItems
  rcases List.mem_append.mp inside with deep | flat
  · obtain ⟨endpoint, held, kept⟩ := List.mem_flatMap.mp deep
    refine ⟨some endpoint.address, List.mem_cons_of_mem _ (List.mem_append_left _ ?_)⟩
    refine List.mem_flatMap.mpr ⟨endpoint, held, List.mem_cons_of_mem _ (List.mem_append_left _ ?_)⟩
    exact List.mem_map_of_mem kept
  · refine ⟨none, List.mem_cons_of_mem _ (List.mem_append_right _ (List.mem_append_left _ ?_))⟩
    exact List.mem_map_of_mem flat

/-- Every resource of a held device is older than the next address. -/
theorem Heap.resource_fresh (heap : Heap db) (member : entry ∈ db.devices) :
    ∀ resource ∈ entry.device.allResources, resource.address ≠ db.nextAddress := by
  intro resource inside
  obtain ⟨owner, held⟩ := resourceItem_mem_treeItems entry.address inside
  have bound := heap.allocated _ ((Heap.treeItems_sublist member).subset held)
  exact Nat.ne_of_lt bound

/-- Deleting a just appended resource restores the device. -/
theorem restoreResource_eq (db : JsonDatabase) (owner : Option Address) (resource : DeviceResource)
    (device : CachedDevice)
    (fresh : ∀ other ∈ device.allResources, other.address ≠ db.nextAddress) :
    restoreResource db owner resource device = device := by
  cases owner with
  | none =>
      have kept := @Cells.delete_append_fresh CachedResource Address _ Allocated.address
        device.resources ⟨db.nextAddress, resource⟩ fun other member =>
          fresh other (List.mem_append_right _ member)
      unfold restoreResource appendResource
      simp only [CachedDevice.changeResources]
      exact congrArg (fun resources => { device with resources }) kept
  | some address =>
      have joined : (restoreResource db (some address) resource device).endpoints =
          Cells.write Allocated.address address (fun endpoint => ⟨endpoint.address, { endpoint.content with
            resources := Cells.delete Allocated.address db.nextAddress
              (endpoint.content.resources ++ [⟨db.nextAddress, resource⟩]) }⟩) device.endpoints :=
        Cells.write_write _ _ fun _ => rfl
      have kept : (restoreResource db (some address) resource device).endpoints = device.endpoints := by
        rw [joined]
        apply Cells.write_id
        intro endpoint member _
        have restored := @Cells.delete_append_fresh CachedResource Address _ Allocated.address
          endpoint.content.resources ⟨db.nextAddress, resource⟩ fun other inside =>
            fresh other (List.mem_append_left _ (List.mem_flatMap.mpr ⟨endpoint, member, inside⟩))
        rw [restored]
      exact congrArg (fun endpoints => { device with endpoints }) kept

/-- A failed resource addition leaves every tree as it was. -/
theorem Heap.restored (heap : Heap db) (address : Address) (owner : Option Address) (resource : DeviceResource) :
    (db.updateDevice address (restoreResource db owner resource)).devices = db.devices := by
  apply Cells.write_id
  intro entry member _
  rw [restoreResource_eq db owner resource entry.device (heap.resource_fresh member)]

theorem MetadataOwner.owned (heap : Heap db) {metadata : DeviceMetadata}
    {owner : Option Address} (creates : MetadataOwner db metadata entry owner) :
    ∃ list, entry.device.metadataOf owner = some list := by
  obtain ⟨uuid, _, known⟩ := creates.known
  rcases creates.chosen with ⟨_, same⟩ | ⟨id, endpoint, _, found, same⟩
  · subst same
    exact ⟨entry.device.metadata, rfl⟩
  · subst same
    have distinct := heap.endpoints_distinct (Cells.read_mem known)
    have read : entry.device.endpointAt endpoint.address = some endpoint :=
      Cells.read_of_mem distinct (findEndpoint_mem found)
    exact ⟨endpoint.content.metadata, by rw [CachedDevice.metadataOf, read]; rfl⟩

theorem MetadataOwner.held (heap : Heap db) {metadata : DeviceMetadata}
    {owner : Option Address} (creates : MetadataOwner db metadata entry owner) :
    db.entryAt entry.address = some entry := by
  obtain ⟨uuid, _, known⟩ := creates.known
  exact heap.deviceEntry_at known

theorem Heap.flush {address : Address} (heap : Heap db)
    (flushed : flushEntry lib db address stored = some (result, next)) : Heap next := by
  obtain ⟨_, same, address⟩ := flushEntry_same lib flushed
  exact heap.of_memory same.memory (Nat.le_of_eq address.symm)

/-- A write through a resource locator is a write to the device up to the dirty flag. -/
theorem memory_withResource (db : JsonDatabase) (entry address : Address) (update : DeviceResource → DeviceResource) :
    (withResource db entry address update).memory =
      (db.updateDevice entry fun device => device.updateResource address update).memory := by
  unfold JsonDatabase.memory withResource JsonDatabase.updateDevice JsonDatabase.updateEntry Cells.write
  rw [List.map_map, List.map_map]
  apply List.map_congr_left
  intro held _
  by_cases same : held.address = entry
  · simp [same, CacheEntry.memory]
  · simp [same]

theorem items_withResource (db : JsonDatabase) (entry address : Address) (update : DeviceResource → DeviceResource)
    (same : ∀ resource, (update resource).uri = resource.uri) :
    (withResource db entry address update).items = db.items := by
  have kept := items_updateDevice_same db entry (fun device => device.updateResource address update)
    fun _ => treeItems_updateResource entry address update same
  unfold JsonDatabase.items at kept ⊢
  rw [memory_withResource, kept]

theorem Heap.withResource (heap : Heap db) (entry address : Address) (update : DeviceResource → DeviceResource)
    (same : ∀ resource, (update resource).uri = resource.uri) :
    Heap (withResource db entry address update) := by
  refine heap.of_items (items_withResource db entry address update same) (Nat.le_refl _) ?_
  rw [memory_withResource]
  exact uuids_updateDevice db entry (fun device => device.updateResource address update) fun _ => rfl

/-- A call never makes two objects share an address or two devices share a uuid. -/
theorem perform_heap (heap : Heap db) {call : Call}
    (performed : perform lib db stored call = some (result, next)) : Heap next := by
  cases call with
  | reload =>
      obtain ⟨_, same⟩ := dropDevices_cases performed
      rw [same]
      exact Heap.empty _
  | load json permissive =>
      rcases loadDevice_cases lib performed with ⟨_, same⟩ | ⟨device, _, loaded⟩
      · exact same ▸ heap
      · rcases loadDeviceIntoCache_cases lib loaded with
          ⟨_, _, same⟩ | ⟨uuid, named, unknown, _, _, same⟩ | ⟨_, _, _, _, _, _, same, _⟩
        · exact same ▸ heap
        · exact same ▸ heap.exchange (exchange_withDevice lib heap device named unknown)
        · rw [same]
          exact heap.of_memory rfl (Nat.le_trans (Nat.le_add_right _ _) (Nat.le_add_right _ _))
  | addDevice device =>
      rcases jsonDatabaseAddDevice_cases lib performed with
        ⟨_, _, same⟩ | ⟨uuid, named, unknown, _, _, _, same⟩ | ⟨_, _, _, _, _, _, same, _⟩
      · exact same ▸ heap
      · have loaded := heap.exchange (exchange_withDevice lib heap device named unknown)
        rw [same]
        exact loaded.of_memory rfl (Nat.le_refl _)
      · rw [same]
        exact heap.of_memory rfl (Nat.le_trans (Nat.le_add_right _ _) (Nat.le_add_right _ _))
  | addEndpoint endpoint =>
      rcases jsonDatabaseAddEndpoint_cases lib performed with
        ⟨_, _, grown, same⟩ | ⟨uuid, id, entry, _, _, known, ⟨_, _, same⟩ | ⟨_, _, same⟩⟩
      · rw [same]
        exact heap.of_memory rfl (Nat.le_add_right _ _)
      · rw [same]
        exact heap.of_memory rfl (Nat.le_add_right _ _)
      · have added := heap.exchange
          (exchange_withEndpoint lib heap (heap.deviceEntry_at known) endpoint)
        rw [same]
        exact added.of_memory rfl (Nat.le_refl _)
  | addResource ownerUri resource =>
      rcases jsonDatabaseAddResource_cases lib performed with ⟨_, same⟩ | ⟨address, owner, _, added⟩
      · exact same ▸ heap
      · obtain ⟨entry, list, held, same, owned, outcome⟩ := addResourceTo_cases lib added
        subst same
        rcases outcome with ⟨_, _, _, same⟩ | ⟨_, grown, _, devices, _⟩
        · have grown := heap.exchange (exchange_withNewResource lib heap held owned resource)
          rw [same]
          exact grown.of_memory rfl (Nat.le_refl _)
        · refine heap.of_memory ?_ (by rw [grown]; exact Nat.le_succ _)
          unfold JsonDatabase.memory
          rw [devices, heap.restored]
  | saveEndpoint endpoint =>
      rcases jsonDatabaseSaveEndpoint_cases lib performed with
        ⟨_, same⟩ | ⟨uri, entry, found, _, located, ⟨_, flushed⟩ | ⟨_, flushed⟩⟩
      · exact same ▸ heap
      · refine Heap.flush lib ?_ flushed
        refine heap.of_items ?_ (Nat.le_refl _) ?_
        · exact items_updateDevice_same db _ _ fun _ => treeItems_updateEnabled _ _ _
        · exact uuids_updateDevice db _ _ fun _ => rfl
      · obtain ⟨rest, change⟩ := exchange_withReplaced lib heap located endpoint
        exact Heap.flush lib (heap.exchange change) flushed
  | saveResource resource =>
      rcases jsonDatabaseSaveResource_cases lib performed with
        ⟨_, _, same⟩ | ⟨entry, address, _, ⟨_, _, same⟩ | ⟨_, flushed⟩⟩
      · exact same ▸ heap
      · exact same ▸ heap.withResource entry address _ fun _ => rfl
      · refine Heap.flush lib ?_ flushed
        exact heap.withResource entry address _ fun _ => rfl
  | updateDateOfLastSyncMillis resource now =>
      rcases jsonDatabaseUpdateDateOfLastSyncMillis_cases performed with
        ⟨_, _, same⟩ | ⟨entry, address, _, _, same⟩
      · exact same ▸ heap
      · exact same ▸ heap.withResource entry address _ fun _ => rfl
  | saveMetadata metadata =>
      rcases jsonDatabaseSaveMetadata_cases lib performed with
        ⟨_, same⟩ | ⟨uri, entry, owner, found, value, _, _, _, flushed⟩ | ⟨entry, _, flushed⟩ |
          ⟨entry, owner, creates, created⟩
      · exact same ▸ heap
      · refine Heap.flush lib ?_ flushed
        refine heap.of_items ?_ (Nat.le_refl _) ?_
        · exact items_updateDevice_same db _ _ fun _ => treeItems_updateMetadata _ _ _ fun _ => rfl
        · exact uuids_updateDevice db _ _ fun _ => rfl
      · exact heap.flush lib flushed
      · obtain ⟨list, owned⟩ := creates.owned heap
        have grown := heap.exchange (exchange_withMetadata heap (creates.held heap) owned metadata)
        rcases createMetadata_cases lib created with ⟨_, _, same⟩ | ⟨_, flushed⟩
        · exact same ▸ grown
        · refine Heap.flush lib ?_ flushed
          exact grown.of_memory rfl (Nat.le_refl _)
  | removeMetadataByUri uri =>
      rcases jsonDatabaseRemoveMetadataByUri_cases lib performed with
        ⟨_, same⟩ | ⟨entry, owner, address, list, _, held, owned,
          ⟨⟨item, member, same⟩, flushed⟩ | ⟨_, _, same⟩⟩
      · exact same ▸ heap
      · subst same
        exact Heap.flush lib (heap.exchange (exchange_withoutMetadata heap held owned uri member)) flushed
      · rw [same]
        exact heap.of_memory rfl (Nat.le_refl _)
  | removeDeviceById uuid =>
      rcases jsonDatabaseRemoveDeviceById_cases performed with ⟨_, _, same⟩ | ⟨entry, uris, known, _, _, same⟩
      · exact same ▸ heap
      · have removed := heap.exchange (exchange_withoutDevice heap known uris)
        rw [same]
        exact removed.of_memory rfl (Nat.le_refl _)

end Heap

end Barton.Database
