import BartonCore.Proof.Database.IndexRuns

namespace Barton.Database
open Registry

/-- These calls add objects to the database. -/
def Call.isAddition : Call → Bool
  | .addDevice _ | .addEndpoint _ | .addResource _ _ | .saveMetadata _ => true
  | _ => false

/-- A call is atomic when a failure leaves every tree and every lookup as it was. -/
def Atomic (lib : Library) (db : JsonDatabase) (stored : Bool) (call : Call) : Prop :=
  ∀ next, perform lib db stored call = some (false, next) → SameContents db next

/-- This condition excludes the failures that the code does not undo. -/
def Undone (lib : Library) (db : JsonDatabase) (stored : Bool) : Call → Prop
  | .addDevice device => FreshTree db device
  | .addEndpoint endpoint => ∀ uuid id entry, endpoint.deviceUuid = some uuid → endpoint.id = some id →
      db.deviceEntry uuid = some entry →
      (Admitted db.resourcesByUri (endpointChecks lib entry.address (addedEndpoint db endpoint)) ∧
        stored = true) ∨
      ¬Admitted db.resourcesByUri [endpointCheck lib entry.address (addedEndpoint db endpoint)]
  | .saveMetadata metadata =>
      (∀ uri entry owner found value, metadata.uri = some uri → MetadataFound db uri entry owner found →
        metadata.value = some value → stored = true ∨ found.content.value = some value) ∧
      ∀ entry owner, MetadataOwner db metadata entry owner → stored = true ∧
        metadataUriIsValid lib metadata.uri metadata.deviceUuid metadata.endpointId metadata.id = true
  | _ => True

section
variable (lib : Library) {db next : JsonDatabase} {stored : Bool}
  {entry : CacheEntry} {metadata : DeviceMetadata} {owner : Option Address}

theorem SameContents.trans {middle : JsonDatabase} (first : SameContents db middle)
    (second : SameContents middle next) : SameContents db next :=
  ⟨second.memory.trans first.memory, fun uri => (second.index uri).trans (first.index uri)⟩

/-- New items are not the same contents. -/
theorem Exchange.not_same {added : List Item} (change : Exchange db next [] added db.items)
    (nonempty : added ≠ []) : ¬SameContents db next := by
  intro same
  have sizes := change.after.length_eq
  rw [same.items, List.length_append] at sizes
  have positive := List.length_pos_of_ne_nil nonempty
  omega

/-- The tree of a registered device used no URI of the index. -/
theorem fresh_of_addedTree {device : DeviceRecord} {uris : List String}
    (listed : deviceUris (newEntry db device).device = some uris)
    (complete : (addedTree lib db device).1 = true) : ∀ uri ∈ uris, uri ∉ db.resourcesByUri := by
  obtain ⟨pairs, registered, _, fresh⟩ := (Table.register_success_iff _ _).mp complete
  have items := items_of_registrations _ pairs registered
  rw [treeChecks_items] at items
  have keyed := deviceUris_eq db.nextAddress (newEntry db device).device fun item member => by
    rw [items] at member
    obtain ⟨pair, _, same⟩ := List.mem_map.mp member
    simp [← same, keyedItem]
  rw [listed, Option.some.injEq, items, filterMap_keyedItem] at keyed
  rw [keyed]
  exact fresh

theorem addDevice_total (stored : Bool) {device : DeviceRecord} {uris : List String}
    (listed : deviceUris (newEntry db device).device = some uris) :
    ∃ outcome, jsonDatabaseAddDevice lib db device stored = some outcome := by
  unfold jsonDatabaseAddDevice
  cases named : device.uuid with
  | none => exact ⟨_, rfl⟩
  | some uuid =>
      have name : (newEntry db device).uuid = some uuid := named
      cases known : db.deviceEntry uuid with
      | some entry =>
          simp [loadDeviceIntoCache, named, known, removeDeviceURIEntries, listed]
      | none =>
          have put : putDeviceURIEntries lib (newEntry db device).address db.resourcesByUri
              (newEntry db device).device = addedTree lib db device :=
            putDeviceURIEntries_eq lib _ _ _
          cases success : addedTree lib db device with
          | mk accepted index =>
              cases accepted <;> cases stored <;>
                simp [loadDeviceIntoCache, named, known, addDeviceURIEntries, put, success,
                  removeDeviceURIEntries, listed, deleteDevice_appended name known, saveDevice_eq]

/-- A failed device addition is undone exactly when its URIs were new. -/
theorem addDevice_atomic_iff (device : DeviceRecord) :
    Atomic lib db stored (.addDevice device) ↔ FreshTree db device := by
  constructor
  · intro atomic
    by_cases missing : device.uuid = none
    · exact Or.inl missing
    · refine Or.inr fun uris listed => ?_
      obtain ⟨⟨result, next⟩, performed⟩ := addDevice_total lib stored listed
      rcases jsonDatabaseAddDevice_cases lib performed with
        ⟨absent, _⟩ | ⟨_, _, _, complete, _⟩ | ⟨_, others, index, _, again, refused, same, _⟩
      · exact absurd absent missing
      · exact fresh_of_addedTree lib listed complete
      · rw [listed, Option.some.injEq] at again
        subst again refused
        have kept := (atomic next performed).index
        intro uri inside
        rw [← AList.lookup_eq_none, ← kept uri, same]
        change (index.eraseAll uris).lookup uri = none
        rw [Table.lookup_eraseAll, if_pos inside]
  · intro fresh next performed
    rcases jsonDatabaseAddDevice_cases lib performed with
      ⟨_, _, same⟩ | ⟨_, _, _, _, _, impossible, _⟩ | ⟨uuid, uris, index, named, listed, _, same, origin⟩
    · exact same ▸ ⟨rfl, fun _ => rfl⟩
    · exact absurd impossible Bool.false_ne_true
    · rcases fresh with missing | fresh
      · simp [named] at missing
      · rw [same]
        refine destroyed_same lib listed (fresh uris listed) ?_
        exact origin.imp_right fun deep => deep.imp And.left And.left

theorem addEndpoint_total (db : JsonDatabase) (stored : Bool) (endpoint : DeviceEndpoint) :
    ∃ outcome, jsonDatabaseAddEndpoint lib db endpoint stored = some outcome := by
  unfold jsonDatabaseAddEndpoint
  split
  · dsimp only
    split
    · exact ⟨_, rfl⟩
    · split <;> exact ⟨_, rfl⟩
  · exact ⟨_, rfl⟩

/-- A put that was accepted stays visible after the rest of its batch. -/
theorem lookup_of_first (index : UriIndex) (first : Check) (rest : List Check) {uri : String}
    (named : first.1.1 = some uri) (admitted : Admitted index [first]) :
    (index.register ((first :: rest).map Check.registration)).2.lookup uri = some first.1.2 := by
  have accepted := (register_iff_admitted index [first]).mpr admitted
  have valid : first.2 = true := admitted.valid first List.mem_cons_self
  have fresh : uri ∉ index := admitted.fresh first List.mem_cons_self uri named
  have registration : first.registration = some (uri, first.1.2) := by
    simp [Check.registration, valid, named]
  have single : index.register [first.registration] = (true, AList.insert uri first.1.2 index) := by
    simp [registration, Table.register, fresh]
  rw [List.map_cons, ← List.singleton_append, Table.register_append, single]
  change (Table.register (AList.insert uri first.1.2 index) _).2.lookup uri = _
  rw [Table.lookup_register_of_mem _ _ _ ((AList.mem_insert _).mpr (Or.inl rfl))]
  exact AList.lookup_insert _

/-- A failed endpoint addition is undone exactly when nothing was registered. -/
theorem addEndpoint_atomic_iff (heap : Heap db) (endpoint : DeviceEndpoint) :
    Atomic lib db stored (.addEndpoint endpoint) ↔ Undone lib db stored (.addEndpoint endpoint) := by
  constructor
  · intro atomic uuid id entry owner named known
    obtain ⟨⟨result, next⟩, performed⟩ := addEndpoint_total lib db stored endpoint
    rcases jsonDatabaseAddEndpoint_cases lib performed with
      ⟨absent, _⟩ | ⟨other, name, found, sameOwner, _, sameEntry, outcome⟩
    · rcases absent uuid owner with missing | missing
      · simp [named] at missing
      · simp [known] at missing
    · rw [owner, Option.some.injEq] at sameOwner
      subst sameOwner
      rw [known, Option.some.injEq] at sameEntry
      subst sameEntry
      rcases outcome with ⟨_, refused, same⟩ | ⟨complete, equal, same⟩
      · right
        subst refused
        intro admitted
        obtain ⟨uri, present⟩ := Option.ne_none_iff_exists'.mp
          (admitted.named _ List.mem_cons_self)
        have visible := lookup_of_first db.resourcesByUri _
          ((addedEndpoint db endpoint).content.resources.map
            (resourceCheck lib entry.address (some (addedEndpoint db endpoint).address)) ++
          (addedEndpoint db endpoint).content.metadata.map
            (metadataCheck lib entry.address (some (addedEndpoint db endpoint).address)))
          present admitted
        have kept := (atomic next performed).index uri
        have fresh := admitted.fresh _ List.mem_cons_self uri present
        rw [AList.lookup_eq_none.mpr fresh, same] at kept
        change (addedEndpointEntries lib db entry endpoint).2.lookup uri = none at kept
        rw [addedEndpointEntries, endpointChecks, visible] at kept
        simp at kept
      · left
        refine ⟨(register_iff_admitted _ _).mp complete, ?_⟩
        by_contra unstored
        rw [Bool.not_eq_true] at unstored
        subst unstored equal
        have change := exchange_withEndpoint lib heap (heap.deviceEntry_at known) endpoint
        refine change.not_same (by simp [endpointItems]) ?_
        have kept := atomic next performed
        rw [same] at kept
        exact kept
  · intro undone next performed
    rcases jsonDatabaseAddEndpoint_cases lib performed with
      ⟨_, _, _, same⟩ | ⟨uuid, id, entry, owner, named, known, outcome⟩
    · rw [same]
      exact ⟨rfl, fun _ => rfl⟩
    · rcases undone uuid id entry owner named known with ⟨admitted, saved⟩ | first
      · have complete : (addedEndpointEntries lib db entry endpoint).1 = true :=
          (register_iff_admitted _ _).mpr admitted
        rcases outcome with ⟨refused, _⟩ | ⟨_, equal, _⟩
        · exact absurd (complete.symm.trans refused) (by simp)
        · exact absurd (equal.trans saved) (by simp)
      · rw [← register_iff_admitted, Bool.not_eq_true] at first
        have shape : addedEndpointEntries lib db entry endpoint = (false, db.resourcesByUri) := by
          unfold addedEndpointEntries endpointChecks
          rw [List.map_cons, ← List.singleton_append, Table.register_append,
            if_neg (by simpa using first)]
          exact Prod.ext first (db.resourcesByUri.register_singleton_refused _ first)
        rcases outcome with ⟨_, _, same⟩ | ⟨complete, _, _⟩
        · rw [same, shape]
          exact ⟨rfl, fun _ => rfl⟩
        · rw [shape] at complete
          simp at complete

/-- A failed resource addition is always undone. -/
theorem addResource_atomic (heap : Heap db) (ownerUri : Option String) (resource : DeviceResource) :
    Atomic lib db stored (.addResource ownerUri resource) := by
  intro next performed
  rcases jsonDatabaseAddResource_cases lib performed with ⟨_, same⟩ | ⟨address, owner, _, added⟩
  · exact same ▸ ⟨rfl, fun _ => rfl⟩
  · obtain ⟨entry, list, _, _, _, outcome⟩ := addResourceTo_cases lib added
    rcases outcome with ⟨_, _, impossible, _⟩ | ⟨_, _, _, devices, index⟩
    · exact absurd impossible Bool.false_ne_true
    · refine ⟨?_, index⟩
      unfold JsonDatabase.memory
      rw [devices, heap.restored]

/-- Every metadata item of a held device has an address of its own. -/
theorem Heap.metadata_distinct (heap : Heap db) (member : entry ∈ db.devices) :
    (entry.device.allMetadata.map Allocated.address).Nodup := by
  refine List.Nodup.sublist ?_ heap.targets
  refine List.Sublist.trans ?_ ((Heap.treeItems_sublist member).map fun item => item.2.target)
  unfold treeItems CachedDevice.allMetadata
  rw [List.map_cons, List.map_append, List.map_append, List.map_append, metadataItems_targets]
  refine (List.Sublist.append ?_ (List.sublist_append_right _ _)).trans (List.sublist_cons_self _ _)
  generalize entry.device.endpoints = endpoints
  induction endpoints with
  | nil => exact List.Sublist.slnil
  | cons endpoint rest ih =>
      rw [List.flatMap_cons, List.flatMap_cons, List.map_append, List.map_append]
      refine List.Sublist.append ?_ ih
      unfold endpointItems
      rw [List.map_cons, List.map_append, metadataItems_targets]
      exact (List.sublist_append_right _ _).trans (List.sublist_cons_self _ _)

/-- A metadata write leaves the device exactly when it writes the old value. -/
theorem updateMetadata_eq_iff {device : CachedDevice} {found : CachedMetadata} {value : String}
    (distinct : (device.allMetadata.map Allocated.address).Nodup) (inside : found ∈ device.allMetadata) :
    (device.updateMetadata found.address fun content => { content with value := some value }) = device ↔
      found.content.value = some value := by
  constructor
  · intro same
    have joined : (device.updateMetadata found.address fun content =>
        { content with value := some value }).allMetadata =
        updateAt found.address (fun content => { content with value := some value })
          device.allMetadata := by
      simp only [CachedDevice.allMetadata, CachedDevice.updateMetadata, updateAt, Cells.write,
        List.map_append, List.map_flatMap, List.flatMap_map]
    have all := joined.symm
    rw [same] at all
    unfold updateAt Cells.write at all
    nth_rewrite 2 [← List.map_id device.allMetadata] at all
    have kept := List.map_inj_left.mp all found inside
    rw [if_pos rfl] at kept
    have content := congrArg (fun item => item.content.value) kept
    exact content.symm
  · intro same
    have each : ∀ item ∈ device.allMetadata, item.address = found.address →
        (⟨item.address, { item.content with value := some value }⟩ : CachedMetadata) = item := by
      intro item member equal
      have unique := List.inj_on_of_nodup_map distinct member inside equal
      subst unique
      rw [← same]
    have root : updateAt found.address (fun content => { content with value := some value })
        device.metadata = device.metadata :=
      Cells.write_id _ fun item member => each item (List.mem_append_right _ member)
    have deep : (device.updateMetadata found.address fun content =>
        { content with value := some value }).endpoints = device.endpoints := by
      change device.endpoints.map _ = device.endpoints
      conv_rhs => rw [← List.map_id device.endpoints]
      apply List.map_congr_left
      intro endpoint member
      have kept : updateAt found.address (fun content => { content with value := some value })
          endpoint.content.metadata = endpoint.content.metadata :=
        Cells.write_id _ fun item held => each item
          (List.mem_append_left _ (List.mem_flatMap.mpr ⟨endpoint, member, held⟩))
      rw [kept]
      rfl
    exact congrArg₂ (fun endpoints metadata => { device with endpoints, metadata }) deep root

/-- A device write leaves the memory exactly when it leaves the held device. -/
theorem Heap.memory_updateDevice_iff (heap : Heap db)
    (held : db.entryAt entry.address = some entry) (update : CachedDevice → CachedDevice) :
    (db.updateDevice entry.address update).memory = db.memory ↔ update entry.device = entry.device := by
  constructor
  · intro same
    unfold JsonDatabase.memory JsonDatabase.updateDevice JsonDatabase.updateEntry Cells.write at same
    rw [List.map_map] at same
    have kept := List.map_inj_left.mp same entry (Cells.read_mem held)
    rw [Function.comp_apply, if_pos rfl] at kept
    exact congrArg Prod.snd kept
  · intro same
    refine Cells.map_write CacheEntry.memory _ fun other member equal => ?_
    have unique := List.inj_on_of_nodup_map heap.entries_distinct member (Cells.read_mem held) equal
    subst unique
    exact congrArg (Prod.mk other.address) same

theorem flushEntry_total {address : Address} (stored : Bool) (held : db.entryAt address = some entry) :
    ∃ outcome, flushEntry lib db address stored = some outcome := by
  unfold flushEntry
  rw [held]
  exact ⟨_, rfl⟩

/-- A save of metadata that is found writes its value. -/
theorem saveMetadata_found {uri value : String} {found : CachedMetadata} (named : metadata.uri = some uri)
    (present : MetadataFound db uri entry owner found) (given : metadata.value = some value) :
    jsonDatabaseSaveMetadata lib db metadata stored =
      flushEntry lib (db.updateDevice entry.address fun device =>
        device.updateMetadata found.address fun content => { content with value := some value })
        entry.address stored := by
  unfold jsonDatabaseSaveMetadata
  simp only [named, present.located, present.held, Option.bind_some, present.inside, given]

/-- A save of metadata that is not found creates it with its owner. -/
theorem saveMetadata_creates (creates : MetadataOwner db metadata entry owner) :
    jsonDatabaseSaveMetadata lib db metadata stored =
      createMetadata lib db entry.address owner metadata stored := by
  obtain ⟨uri, named, absent⟩ := creates.unlocated
  obtain ⟨uuid, device, known⟩ := creates.known
  unfold jsonDatabaseSaveMetadata
  rcases creates.chosen with ⟨missing, same⟩ | ⟨id, endpoint, given, found, same⟩
  · simp only [named, absent, device, Option.bind_some, known, missing, same]
  · simp only [named, absent, device, Option.bind_some, known, given, found, same]

theorem createMetadata_total (heap : Heap db) (creates : MetadataOwner db metadata entry owner) (stored : Bool) :
    ∃ outcome, createMetadata lib db entry.address owner metadata stored = some outcome := by
  unfold createMetadata
  dsimp only
  split
  · exact ⟨_, rfl⟩
  · have held := entryAt_updateDevice (creates.held heap) fun device =>
      device.changeMetadata owner fun list => list ++ [⟨db.nextAddress, metadata⟩]
    exact flushEntry_total lib stored held

/-- A failed metadata save is undone exactly when it wrote nothing new. -/
theorem saveMetadata_atomic_iff (heap : Heap db) (metadata : DeviceMetadata) :
    Atomic lib db stored (.saveMetadata metadata) ↔ Undone lib db stored (.saveMetadata metadata) := by
  constructor
  · intro atomic
    constructor
    · intro uri entry owner found value named present given
      have held := entryAt_updateDevice present.held fun device =>
        device.updateMetadata found.address fun content => { content with value := some value }
      obtain ⟨⟨result, next⟩, flushed⟩ := flushEntry_total lib stored held
      obtain ⟨same, contents, _⟩ := flushEntry_same lib flushed
      subst same
      cases result with
      | true => exact Or.inl rfl
      | false =>
          right
          have kept := atomic next ((saveMetadata_found lib named present given).trans flushed)
          have memory := contents.memory.symm.trans kept.memory
          rw [heap.memory_updateDevice_iff present.held] at memory
          refine (updateMetadata_eq_iff ?_ ?_).mp memory
          · exact heap.metadata_distinct (Cells.read_mem present.held)
          · exact Cells.read_mem present.inside
    · intro entry owner creates
      obtain ⟨⟨result, next⟩, created⟩ := createMetadata_total lib heap creates stored
      have performed := (saveMetadata_creates lib creates).trans created
      obtain ⟨list, owned⟩ := creates.owned heap
      have change := exchange_withMetadata heap (creates.held heap) owned metadata
      have grown := change.not_same (List.cons_ne_nil _ _)
      rcases createMetadata_cases lib created with ⟨_, refused, same⟩ | ⟨accepted, flushed⟩
      · subst refused same
        exact absurd (atomic _ performed) grown
      · obtain ⟨equal, contents, _⟩ := flushEntry_same lib flushed
        subst equal
        cases result with
        | true =>
            have admitted := (register_iff_admitted _ [addedMetadata lib db entry.address owner metadata]).mp
              accepted
            exact ⟨rfl, admitted.valid _ List.mem_cons_self⟩
        | false =>
            have kept := atomic next performed
            have items := contents.items.symm.trans kept.items
            have sizes := change.after.length_eq
            change (withMetadata db entry.address owner metadata).items = db.items at items
            rw [items, List.length_append, List.length_singleton] at sizes
            omega
  · intro undone next performed
    rcases jsonDatabaseSaveMetadata_cases lib performed with
      ⟨_, same⟩ | ⟨uri, entry, owner, found, value, named, present, given, flushed⟩ |
        ⟨entry, _, flushed⟩ | ⟨entry, owner, creates, created⟩
    · exact same ▸ ⟨rfl, fun _ => rfl⟩
    · obtain ⟨same, contents, _⟩ := flushEntry_same lib flushed
      rcases undone.1 uri entry owner found value named present given with saved | equal
      · exact absurd (same.trans saved) Bool.false_ne_true
      · refine SameContents.trans ?_ contents
        refine ⟨?_, fun _ => rfl⟩
        rw [heap.memory_updateDevice_iff present.held]
        refine (updateMetadata_eq_iff ?_ ?_).mpr equal
        · exact heap.metadata_distinct (Cells.read_mem present.held)
        · exact Cells.read_mem present.inside
    · exact (flushEntry_same lib flushed).2.1
    · obtain ⟨saved, valid⟩ := undone.2 entry owner creates
      rcases createMetadata_cases lib created with ⟨refused, _, _⟩ | ⟨_, flushed⟩
      · have accepted := (register_iff_admitted _ _).mpr (creates.admitted lib valid)
        rw [List.map_cons, List.map_nil, refused] at accepted
        exact absurd accepted Bool.false_ne_true
      · exact absurd ((flushEntry_same lib flushed).1.trans saved) Bool.false_ne_true

/-- An addition is atomic exactly when its failure is one that the code undoes. -/
theorem addition_atomic_iff (lib : Library) (db : JsonDatabase) (indexed : Indexed db) (stored : Bool)
    (call : Call) (addition : call.isAddition = true) :
    Atomic lib db stored call ↔ Undone lib db stored call := by
  cases call with
  | addDevice device => exact addDevice_atomic_iff lib device
  | addEndpoint endpoint => exact addEndpoint_atomic_iff lib indexed.heap endpoint
  | addResource ownerUri resource =>
      exact iff_of_true (addResource_atomic lib indexed.heap ownerUri resource) trivial
  | saveMetadata metadata => exact saveMetadata_atomic_iff lib indexed.heap metadata
  | _ => simp [Call.isAddition] at addition

theorem addition_atomic_iff_sample : Indexed sampleDatabase ∧
    (Atomic sampleLibrary sampleDatabase false (.addResource (some "/a") sampleResource) ↔
      Undone sampleLibrary sampleDatabase false (.addResource (some "/a") sampleResource)) :=
  ⟨sampleDatabase_indexed,
    addition_atomic_iff sampleLibrary sampleDatabase sampleDatabase_indexed false _ rfl⟩

/-- A second addition of a device fails and deletes the locator of the first. -/
theorem not_addition_atomic :
    ¬∀ (lib : Library) (db : JsonDatabase) (stored : Bool) (call : Call), Indexed db →
      call.isAddition = true → Atomic lib db stored call := by
  intro claim
  have same := claim sampleLibrary sampleDatabase true (.addDevice sampleDevice)
    sampleDatabase_indexed rfl _ rfl
  have kept := same.index "/a"
  exact absurd kept (by decide +kernel)

end

end Barton.Database
