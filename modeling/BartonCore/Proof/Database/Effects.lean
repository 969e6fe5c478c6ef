import BartonCore.Construction.Database.Queries
import BartonCore.Construction.Database.Saves
import BartonCore.Proof.Database.Trees

namespace Barton.Database
open Registry

section
variable (lib : Library) {db next : JsonDatabase} {result stored : Bool}
  {resource : DeviceResource} {owner : Option Address} {device : DeviceRecord} {uuid : String} {uri : String}

/-- This is the document that a save writes for a cached device. -/
def document (device : CachedDevice) : Json := deviceToJSON lib storageContext device.record

/-- This is the storage after a save with the given outcome. -/
def savedStorage (storage : Storage) (device : CachedDevice) (stored : Bool) : Storage :=
  if stored then AList.insert (text device.uuid) (document lib device) storage else storage

theorem saveDevice_eq (db : JsonDatabase) (device : CachedDevice) (stored : Bool) :
    saveDevice lib db device stored =
      (stored, { db with storage := savedStorage lib db.storage device stored }) := by
  cases stored <;> rfl

/-- A flush changes only the dirty flag of its entry and the storage. -/
theorem flushEntry_cases {address : Address} (flushed : flushEntry lib db address stored = some (result, next)) :
    ∃ entry, db.entryAt address = some entry ∧ result = stored ∧
      next = { db with
        devices := Cells.write CacheEntry.address address
          (fun entry => { entry with dirty := !stored }) db.devices
        storage := savedStorage lib db.storage entry.device stored } := by
  unfold flushEntry at flushed
  simp only [saveDevice_eq, Option.map_eq_some_iff, Prod.mk.injEq] at flushed
  obtain ⟨entry, found, same, written⟩ := flushed
  exact ⟨entry, found, same.symm, written.symm⟩

theorem flushEntry_same {address : Address} (flushed : flushEntry lib db address stored = some (result, next)) :
    result = stored ∧ SameContents db next ∧ next.nextAddress = db.nextAddress := by
  obtain ⟨entry, _, same, written⟩ := flushEntry_cases lib flushed
  subst written
  refine ⟨same, ⟨?_, fun _ => rfl⟩, rfl⟩
  exact Cells.map_write CacheEntry.memory _ fun _ _ _ => rfl

/-- The deletion of a just appended entry leaves the other devices. -/
theorem deleteDevice_appended {entry : CacheEntry}
    (named : entry.uuid = some uuid) (unknown : db.deviceEntry uuid = none) (index : UriIndex)
    (nextAddress : Address) (storage : Storage) :
    deleteDevice ⟨db.devices ++ [entry], index, storage, nextAddress⟩ uuid =
      (deviceUris entry.device).map fun uris =>
        ⟨db.devices, index.eraseAll uris, storage, nextAddress⟩ := by
  have absent : ∀ other ∈ db.devices, other.uuid ≠ entry.uuid := by
    rw [named]
    exact Cells.read_eq_none.mp unknown
  have found := Cells.read_append_fresh absent
  have kept := Cells.delete_append_fresh absent
  rw [named] at found kept
  unfold deleteDevice JsonDatabase.deviceEntry
  simp only [found, removeDeviceURIEntries, Option.map_map, kept]
  rfl

/-- The registration of a new device tree. -/
def addedTree (db : JsonDatabase) (device : DeviceRecord) : Bool × UriIndex :=
  db.resourcesByUri.register
    ((treeChecks lib db.nextAddress (newEntry db device).device).map Check.registration)

/-- The state after a device entered the cache. -/
def withDevice (db : JsonDatabase) (device : DeviceRecord) : JsonDatabase :=
  { db with
    devices := db.devices ++ [newEntry db device]
    resourcesByUri := (addedTree lib db device).2
    nextAddress := db.nextAddress + 1 + DeviceRecord.size device }

/-- The state after a new tree was destroyed by its URIs. -/
def destroyed (db : JsonDatabase) (device : DeviceRecord) (index : UriIndex) (uris : List String) :
    JsonDatabase :=
  { db with
    resourcesByUri := index.eraseAll uris
    nextAddress := db.nextAddress + 1 + DeviceRecord.size device }

/-- A new device with acceptable URIs enters the cache. -/
theorem loadDeviceIntoCache_accepted (named : device.uuid = some uuid)
    (unknown : db.deviceEntry uuid = none) (complete : (addedTree lib db device).1 = true) :
    loadDeviceIntoCache lib db device = some (true, withDevice lib db device) := by
  have put : putDeviceURIEntries lib (newEntry db device).address db.resourcesByUri
      (newEntry db device).device = (true, (addedTree lib db device).2) :=
    (putDeviceURIEntries_eq lib _ _ _).trans (Prod.ext complete rfl)
  unfold loadDeviceIntoCache
  simp only [named, unknown, Option.isSome_none, Bool.false_eq_true, ↓reduceIte, addDeviceURIEntries, put]
  rfl

/-- A load succeeds, is refused at once, or destroys the new tree by its URIs. -/
theorem loadDeviceIntoCache_cases (loaded : loadDeviceIntoCache lib db device = some (result, next)) :
    (device.uuid = none ∧ result = false ∧ next = db) ∨
    (∃ uuid, device.uuid = some uuid ∧ db.deviceEntry uuid = none ∧
      (addedTree lib db device).1 = true ∧ result = true ∧ next = withDevice lib db device) ∨
    (∃ uuid uris index, device.uuid = some uuid ∧ deviceUris (newEntry db device).device = some uris ∧
      result = false ∧ next = destroyed db device index uris ∧
      (index = db.resourcesByUri ∨
        (index = (addedTree lib db device).2.eraseAll uris ∧ (addedTree lib db device).1 = false))) := by
  unfold loadDeviceIntoCache at loaded
  cases named : device.uuid with
  | none =>
      simp only [named, Option.some.injEq, Prod.mk.injEq] at loaded
      exact Or.inl ⟨rfl, loaded.1.symm, loaded.2.symm⟩
  | some uuid =>
      right
      simp only [named] at loaded
      cases known : db.deviceEntry uuid with
      | some entry =>
          right
          simp only [known, Option.isSome_some, ↓reduceIte, removeDeviceURIEntries, Option.map_map,
            Option.map_eq_some_iff] at loaded
          obtain ⟨uris, listed, same⟩ := loaded
          simp only [Function.comp_apply, Prod.mk.injEq] at same
          exact ⟨uuid, uris, db.resourcesByUri, rfl, listed, same.1.symm, same.2.symm, Or.inl rfl⟩
      | none =>
          have put : putDeviceURIEntries lib (newEntry db device).address db.resourcesByUri
              (newEntry db device).device = addedTree lib db device :=
            putDeviceURIEntries_eq lib _ _ _
          simp only [known, Option.isSome_none, Bool.false_eq_true, ↓reduceIte, addDeviceURIEntries,
            put] at loaded
          cases success : addedTree lib db device with
          | mk accepted index =>
              rw [success] at loaded
              cases accepted with
              | true =>
                  left
                  simp only [Option.some.injEq, Prod.mk.injEq] at loaded
                  refine ⟨uuid, rfl, known, rfl, loaded.1.symm, ?_⟩
                  rw [← loaded.2, withDevice, success]
              | false =>
                  right
                  have name : (newEntry db device).uuid = some uuid := named
                  cases listed : deviceUris (newEntry db device).device with
                  | none => simp [removeDeviceURIEntries, listed] at loaded
                  | some uris =>
                      simp only [removeDeviceURIEntries, listed, Option.map_some,
                        deleteDevice_appended name known, Option.some.injEq, Prod.mk.injEq] at loaded
                      exact ⟨uuid, uris, index.eraseAll uris, rfl, rfl, loaded.1.symm,
                        loaded.2.symm, Or.inr ⟨rfl, rfl⟩⟩

/-- An addition keeps the new device, is refused at once, or destroys the new tree by its URIs. -/
theorem jsonDatabaseAddDevice_cases (added : jsonDatabaseAddDevice lib db device stored = some (result, next)) :
    (device.uuid = none ∧ result = false ∧ next = db) ∨
    (∃ uuid, device.uuid = some uuid ∧ db.deviceEntry uuid = none ∧
      (addedTree lib db device).1 = true ∧ stored = true ∧ result = true ∧
      next = { withDevice lib db device with
        storage := savedStorage lib db.storage (newEntry db device).device true }) ∨
    (∃ uuid uris index, device.uuid = some uuid ∧ deviceUris (newEntry db device).device = some uris ∧
      result = false ∧ next = destroyed db device index uris ∧
      (index = db.resourcesByUri ∨
        (index = (addedTree lib db device).2.eraseAll uris ∧ (addedTree lib db device).1 = false) ∨
        (index = (addedTree lib db device).2 ∧ (addedTree lib db device).1 = true))) := by
  unfold jsonDatabaseAddDevice at added
  cases named : device.uuid with
  | none =>
      simp only [named, Option.some.injEq, Prod.mk.injEq] at added
      exact Or.inl ⟨rfl, added.1.symm, added.2.symm⟩
  | some uuid =>
      right
      simp only [named] at added
      cases loaded : loadDeviceIntoCache lib db device with
      | none => simp [loaded] at added
      | some outcome =>
          obtain ⟨success, middle⟩ := outcome
          rw [loaded] at added
          rcases loadDeviceIntoCache_cases lib loaded with
            ⟨missing, _⟩ | ⟨_, same, unknown, complete, accepted, state⟩ |
              ⟨_, uris, index, same, listed, refused, state, origin⟩
          · simp [named] at missing
          · rw [named, Option.some.injEq] at same
            subst same accepted state
            simp only [saveDevice_eq] at added
            cases stored with
            | true =>
                left
                simp only [Option.some.injEq, Prod.mk.injEq] at added
                exact ⟨uuid, rfl, unknown, complete, rfl, added.1.symm, added.2.symm⟩
            | false =>
                right
                have name : (newEntry db device).uuid = some uuid := named
                simp only [withDevice, deleteDevice_appended name unknown, Option.map_map,
                  Option.map_eq_some_iff] at added
                obtain ⟨uris, listed, equal⟩ := added
                simp only [Function.comp_apply, Prod.mk.injEq] at equal
                exact ⟨uuid, uris, _, rfl, listed, equal.1.symm, equal.2.symm,
                  Or.inr (Or.inr ⟨rfl, complete⟩)⟩
          · right
            rw [named, Option.some.injEq] at same
            subst same refused
            simp only [Option.some.injEq, Prod.mk.injEq] at added
            refine ⟨uuid, uris, index, rfl, listed, added.1.symm, added.2 ▸ state, ?_⟩
            exact origin.imp_right Or.inl

/-- This is the endpoint clone that an addition makes. -/
def addedEndpoint (db : JsonDatabase) (endpoint : DeviceEndpoint) : CachedEndpoint :=
  endpointClone db.nextAddress endpoint

/-- The registration of a new endpoint tree. -/
def addedEndpointEntries (db : JsonDatabase) (entry : CacheEntry) (endpoint : DeviceEndpoint) :
    Bool × UriIndex :=
  db.resourcesByUri.register
    ((endpointChecks lib entry.address (addedEndpoint db endpoint)).map Check.registration)

/-- The append of an endpoint to its device. -/
def appendEndpoint (endpoint : CachedEndpoint) (device : CachedDevice) : CachedDevice :=
  { device with endpoints := device.endpoints ++ [endpoint] }

/-- The state after an endpoint entered the tree and the index. -/
def withEndpoint (db : JsonDatabase) (entry : CacheEntry) (endpoint : DeviceEndpoint) : JsonDatabase :=
  JsonDatabase.updateDevice { db with
    nextAddress := db.nextAddress + DeviceEndpoint.size endpoint
    resourcesByUri := (addedEndpointEntries lib db entry endpoint).2 } entry.address
    (appendEndpoint (addedEndpoint db endpoint))

/-- An endpoint is refused at once, is refused after some puts, or enters the tree. -/
theorem jsonDatabaseAddEndpoint_cases {endpoint : DeviceEndpoint}
    (added : jsonDatabaseAddEndpoint lib db endpoint stored = some (result, next)) :
    ((∀ uuid, endpoint.deviceUuid = some uuid → endpoint.id = none ∨ db.deviceEntry uuid = none) ∧
      result = false ∧ ∃ grown, next = { db with nextAddress := db.nextAddress + grown }) ∨
    (∃ uuid id entry, endpoint.deviceUuid = some uuid ∧ endpoint.id = some id ∧
      db.deviceEntry uuid = some entry ∧
      (((addedEndpointEntries lib db entry endpoint).1 = false ∧ result = false ∧
        next = { db with
          nextAddress := db.nextAddress + DeviceEndpoint.size endpoint
          resourcesByUri := (addedEndpointEntries lib db entry endpoint).2 }) ∨
      ((addedEndpointEntries lib db entry endpoint).1 = true ∧ result = stored ∧
        next = { withEndpoint lib db entry endpoint with
          storage := savedStorage lib db.storage
            (appendEndpoint (addedEndpoint db endpoint) entry.device) stored }))) := by
  unfold jsonDatabaseAddEndpoint at added
  cases owner : endpoint.deviceUuid with
  | none =>
      left
      simp only [owner, Option.some.injEq, Prod.mk.injEq] at added
      exact ⟨by simp, added.1.symm, 0, added.2.symm⟩
  | some uuid =>
      cases named : endpoint.id with
      | none =>
          left
          simp only [owner, named, Option.some.injEq, Prod.mk.injEq] at added
          exact ⟨by simp, added.1.symm, 0, added.2.symm⟩
      | some id =>
          simp only [owner, named] at added
          cases known : db.deviceEntry uuid with
          | none =>
              left
              simp only [known, Option.some.injEq, Prod.mk.injEq] at added
              exact ⟨by simpa using known, added.1.symm, _, added.2.symm⟩
          | some entry =>
              right
              refine ⟨uuid, id, entry, rfl, rfl, known, ?_⟩
              have put : addEndpointURIEntries lib entry.address db.resourcesByUri
                  (endpointClone db.nextAddress endpoint) = addedEndpointEntries lib db entry endpoint :=
                addEndpointURIEntries_eq lib _ _ _
              simp only [known, put, saveDevice_eq] at added
              cases registered : addedEndpointEntries lib db entry endpoint with
              | mk accepted index =>
                  rw [registered] at added
                  cases accepted with
                  | false =>
                      simp only [Option.some.injEq, Prod.mk.injEq] at added
                      exact Or.inl ⟨rfl, added.1.symm, added.2.symm⟩
                  | true =>
                      simp only [Option.some.injEq, Prod.mk.injEq] at added
                      refine Or.inr ⟨rfl, added.1.symm, ?_⟩
                      rw [← added.2, withEndpoint, registered]
                      rfl

/-- This is the state after a write through a resource locator. -/
def withResource (db : JsonDatabase) (entry address : Address)
    (update : DeviceResource → DeviceResource) : JsonDatabase :=
  db.updateEntry entry fun entry =>
    { entry with device := entry.device.updateResource address update, dirty := true }

/-- The fields that a saved resource replaces. -/
def replaceResource (resource content : DeviceResource) : DeviceResource :=
  { content with
    value := resource.value
    cachingPolicy := resource.cachingPolicy
    mode := resource.mode
    dateOfLastSyncMillis := resource.dateOfLastSyncMillis }

theorem writeResource_cases {entry address : Address} {update : DeviceResource → DeviceResource}
    (written : writeResource db entry address update = some next) :
    next = withResource db entry address update := by
  unfold writeResource at written
  obtain ⟨found, _, later⟩ := Option.bind_eq_some_iff.mp written
  obtain ⟨_, _, same⟩ := Option.map_eq_some_iff.mp later
  exact same.symm

theorem locateResource_of_resource {name : Option String} {entry address : Address} (named : name = some uri)
    (located : db.resourcesByUri.lookup uri = some (.resource entry owner address)) :
    db.locateResource name = some (entry, address) := by
  rw [JsonDatabase.locateResource, named, Option.bind_some, located]

theorem locateResource_of_other {name : Option String} (named : name = some uri) (other : ∀ entry owner address,
      db.resourcesByUri.lookup uri ≠ some (.resource entry owner address)) :
    db.locateResource name = none := by
  rw [JsonDatabase.locateResource, named, Option.bind_some]
  cases located : db.resourcesByUri.lookup uri with
  | none => rfl
  | some locator =>
      cases locator with
      | resource entry owner address => exact absurd located (other entry owner address)
      | _ => rfl

/-- A resource save writes through a locator and then flushes, or waits for a later flush. -/
theorem jsonDatabaseSaveResource_cases
    (saved : jsonDatabaseSaveResource lib db resource stored = some (result, next)) :
    (db.locateResource resource.uri = none ∧ result = false ∧ next = db) ∨
    (∃ entry address, db.locateResource resource.uri = some (entry, address) ∧
      ((resource.mode &&& resourceModeLazySaveNext ≠ 0 ∧ result = true ∧
        next = withResource db entry address (replaceResource resource)) ∨
      (resource.mode &&& resourceModeLazySaveNext = 0 ∧
        flushEntry lib (withResource db entry address (replaceResource resource)) entry stored =
          some (result, next)))) := by
  unfold jsonDatabaseSaveResource at saved
  split at saved
  · rename_i unnamed
    simp only [Option.some.injEq, Prod.mk.injEq] at saved
    exact Or.inl ⟨by rw [unnamed]; rfl, saved.1.symm, saved.2.symm⟩
  · rename_i uri named
    split at saved
    · rename_i entry owner address located
      obtain ⟨written, state, rest⟩ := Option.bind_eq_some_iff.mp saved
      have same := writeResource_cases state
      subst same
      refine Or.inr ⟨entry, address, locateResource_of_resource named located, ?_⟩
      split at rest
      · rename_i eager
        exact Or.inr ⟨eager, rest⟩
      · rename_i lazy
        simp only [Option.some.injEq, Prod.mk.injEq] at rest
        exact Or.inl ⟨lazy, rest.1.symm, rest.2.symm⟩
    · simp only [Option.some.injEq, Prod.mk.injEq] at saved
      rename_i other
      exact Or.inl ⟨locateResource_of_other named other, saved.1.symm, saved.2.symm⟩

theorem jsonDatabaseUpdateDateOfLastSyncMillis_cases {now : UInt64}
    (updated : jsonDatabaseUpdateDateOfLastSyncMillis db resource now = some (result, next)) :
    (db.locateResource resource.uri = none ∧ result = false ∧ next = db) ∨
    (∃ entry address, db.locateResource resource.uri = some (entry, address) ∧ result = true ∧
      next = withResource db entry address fun content => { content with dateOfLastSyncMillis := now }) := by
  unfold jsonDatabaseUpdateDateOfLastSyncMillis at updated
  split at updated
  · rename_i unnamed
    simp only [Option.some.injEq, Prod.mk.injEq] at updated
    exact Or.inl ⟨by rw [unnamed]; rfl, updated.1.symm, updated.2.symm⟩
  · rename_i uri named
    split at updated
    · rename_i entry owner address located
      obtain ⟨written, state, same⟩ := Option.map_eq_some_iff.mp updated
      have equal := writeResource_cases state
      simp only [Prod.mk.injEq] at same
      exact Or.inr ⟨entry, address, locateResource_of_resource named located, same.1.symm,
        same.2 ▸ equal⟩
    · simp only [Option.some.injEq, Prod.mk.injEq] at updated
      rename_i other
      exact Or.inl ⟨locateResource_of_other named other, updated.1.symm, updated.2.symm⟩

/-- An endpoint locator leads to a held endpoint. -/
structure EndpointFound (db : JsonDatabase) (uri : String) (entry : CacheEntry)
    (endpoint : CachedEndpoint) : Prop where
  located : db.resourcesByUri.lookup uri = some (.endpoint entry.address endpoint.address)
  held : db.entryAt entry.address = some entry
  inside : entry.device.endpointAt endpoint.address = some endpoint

/-- These are the new resources of an endpoint whose profile version changes. -/
def replacedResources (db : JsonDatabase) (endpoint : DeviceEndpoint) : List CachedResource :=
  cloneList db.nextAddress endpoint.resources

/-- The index after the replacement of the endpoint resources. -/
def replacedIndex (db : JsonDatabase) (entry : CacheEntry) (found : CachedEndpoint)
    (endpoint : DeviceEndpoint) : UriIndex :=
  replaceEndpointResources lib entry.address db.resourcesByUri found (replacedResources db endpoint)

/-- The state after the replacement of the endpoint resources. -/
def withReplaced (db : JsonDatabase) (entry : CacheEntry) (found : CachedEndpoint)
    (endpoint : DeviceEndpoint) : JsonDatabase :=
  JsonDatabase.updateDevice { db with
    nextAddress := db.nextAddress + endpoint.resources.length
    resourcesByUri := replacedIndex lib db entry found endpoint } entry.address fun device =>
    device.updateEndpoint found.address fun content =>
      { content with
        enabled := endpoint.enabled
        profileVersion := endpoint.profileVersion
        resources := replacedResources db endpoint }

/-- An endpoint save does nothing, writes the enabled flag, or replaces the resources. -/
theorem jsonDatabaseSaveEndpoint_cases {endpoint : DeviceEndpoint}
    (saved : jsonDatabaseSaveEndpoint lib db endpoint stored = some (result, next)) :
    (result = false ∧ next = db) ∨
    (∃ uri entry found, endpoint.uri = some uri ∧ EndpointFound db uri entry found ∧
      ((found.content.profileVersion = endpoint.profileVersion ∧
        flushEntry lib (db.updateDevice entry.address fun device =>
          device.updateEndpoint found.address fun content =>
            { content with enabled := endpoint.enabled }) entry.address stored = some (result, next)) ∨
      (found.content.profileVersion ≠ endpoint.profileVersion ∧
        flushEntry lib (withReplaced lib db entry found endpoint) entry.address stored =
          some (result, next)))) := by
  unfold jsonDatabaseSaveEndpoint at saved
  split at saved
  · simp only [Option.some.injEq, Prod.mk.injEq] at saved
    exact Or.inl ⟨saved.1.symm, saved.2.symm⟩
  · rename_i uri named
    split at saved
    · rename_i entryAddress address located
      obtain ⟨entry, held, rest⟩ := Option.bind_eq_some_iff.mp saved
      obtain ⟨found, inside, rest⟩ := Option.bind_eq_some_iff.mp rest
      have first : entry.address = entryAddress := Cells.read_address held
      have second : found.address = address := Cells.read_address inside
      subst first second
      refine Or.inr ⟨uri, entry, found, named, ⟨located, held, inside⟩, ?_⟩
      split at rest
      · rename_i same
        exact Or.inl ⟨same, rest⟩
      · rename_i different
        exact Or.inr ⟨different, rest⟩
    · simp only [Option.some.injEq, Prod.mk.injEq] at saved
      exact Or.inl ⟨saved.1.symm, saved.2.symm⟩

/-- A metadata locator leads to held metadata. -/
structure MetadataFound (db : JsonDatabase) (uri : String) (entry : CacheEntry)
    (owner : Option Address) (metadata : CachedMetadata) : Prop where
  located : db.resourcesByUri.lookup uri = some (.metadata entry.address owner metadata.address)
  held : db.entryAt entry.address = some entry
  inside : entry.device.metadataAt metadata.address = some metadata

/-- The call creates metadata in a list of the entry. -/
structure MetadataOwner (db : JsonDatabase) (metadata : DeviceMetadata) (entry : CacheEntry)
    (owner : Option Address) : Prop where
  unlocated : ∃ uri, metadata.uri = some uri ∧ db.resourcesByUri.lookup uri = none
  known : ∃ uuid, metadata.deviceUuid = some uuid ∧ db.deviceEntry uuid = some entry
  chosen : (metadata.endpointId = none ∧ owner = none) ∨
    ∃ id endpoint, metadata.endpointId = some id ∧
      findEndpoint id entry.device.endpoints = some (some endpoint) ∧ owner = some endpoint.address

/-- The state after metadata was appended and before its URI is checked. -/
def withMetadata (db : JsonDatabase) (entry : Address) (owner : Option Address)
    (metadata : DeviceMetadata) : JsonDatabase :=
  JsonDatabase.updateDevice { db with nextAddress := db.nextAddress + 1 } entry fun device =>
    device.changeMetadata owner fun list => list ++ [⟨db.nextAddress, metadata⟩]

/-- The check of the new metadata. -/
def addedMetadata (db : JsonDatabase) (entry : Address) (owner : Option Address)
    (metadata : DeviceMetadata) : Check :=
  metadataCheck lib entry owner ⟨db.nextAddress, metadata⟩

/-- The creation appends the metadata, and flushes only when its URI is accepted. -/
theorem createMetadata_cases {entry : Address} {metadata : DeviceMetadata}
    (created : createMetadata lib db entry owner metadata stored = some (result, next)) :
    ((db.resourcesByUri.register [(addedMetadata lib db entry owner metadata).registration]).1 = false ∧
      result = false ∧ next = withMetadata db entry owner metadata) ∨
    ((db.resourcesByUri.register [(addedMetadata lib db entry owner metadata).registration]).1 = true ∧
      flushEntry lib { withMetadata db entry owner metadata with
        resourcesByUri := (db.resourcesByUri.register
          [(addedMetadata lib db entry owner metadata).registration]).2 } entry stored =
        some (result, next)) := by
  unfold createMetadata at created
  simp only [addDeviceMetadataURIEntry_eq] at created
  change (match db.resourcesByUri.register [(addedMetadata lib db entry owner metadata).registration] with
    | (false, index) => some (false, { withMetadata db entry owner metadata with resourcesByUri := index })
    | (true, index) => flushEntry lib { withMetadata db entry owner metadata with
        resourcesByUri := index } entry stored) = _ at created
  cases registered : db.resourcesByUri.register
    [(addedMetadata lib db entry owner metadata).registration] with
  | mk accepted index =>
      rw [registered] at created
      cases accepted with
      | true => exact Or.inr ⟨rfl, created⟩
      | false =>
          simp only [Option.some.injEq, Prod.mk.injEq] at created
          have same := db.resourcesByUri.register_singleton_refused _ (congrArg Prod.fst registered)
          rw [registered] at same
          subst same
          exact Or.inl ⟨rfl, created.1.symm, created.2.symm⟩

theorem findEndpoint_mem {id : String} {endpoints : List CachedEndpoint} {endpoint : CachedEndpoint}
    (found : findEndpoint id endpoints = some (some endpoint)) : endpoint ∈ endpoints := by
  induction endpoints with
  | nil => simp [findEndpoint] at found
  | cons first rest ih =>
      unfold findEndpoint at found
      obtain ⟨name, _, later⟩ := Option.bind_eq_some_iff.mp found
      split at later
      · simp only [Option.some.injEq] at later
        exact later ▸ List.mem_cons_self
      · exact List.mem_cons_of_mem _ (ih later)

/-- A metadata save does nothing, updates, saves an unchanged device, or creates. -/
theorem jsonDatabaseSaveMetadata_cases {metadata : DeviceMetadata}
    (saved : jsonDatabaseSaveMetadata lib db metadata stored = some (result, next)) :
    (result = false ∧ next = db) ∨
    (∃ uri entry owner found value, metadata.uri = some uri ∧ MetadataFound db uri entry owner found ∧
      metadata.value = some value ∧
      flushEntry lib (db.updateDevice entry.address fun device =>
        device.updateMetadata found.address fun content => { content with value := some value })
        entry.address stored = some (result, next)) ∨
    (∃ entry : CacheEntry, (db.locatedEntry metadata.uri = none ∧
      db.ownerEntry metadata.deviceUuid = some entry.address) ∧
      flushEntry lib db entry.address stored = some (result, next)) ∨
    (∃ entry owner, MetadataOwner db metadata entry owner ∧
      createMetadata lib db entry.address owner metadata stored = some (result, next)) := by
  unfold jsonDatabaseSaveMetadata at saved
  cases named : metadata.uri with
  | none =>
      simp only [named, Option.some.injEq, Prod.mk.injEq] at saved
      exact Or.inl ⟨saved.1.symm, saved.2.symm⟩
  | some uri =>
      simp only [named] at saved
      split at saved
      · rename_i entryAddress owner address located
        obtain ⟨entry, held, rest⟩ := Option.bind_eq_some_iff.mp saved
        obtain ⟨found, inside, rest⟩ := Option.bind_eq_some_iff.mp rest
        obtain ⟨value, given, rest⟩ := Option.bind_eq_some_iff.mp rest
        have first : entry.address = entryAddress := Cells.read_address held
        have second : found.address = address := Cells.read_address inside
        subst first second
        exact Or.inr (Or.inl ⟨uri, entry, owner, found, value, rfl, ⟨located, held, inside⟩,
          given, rest⟩)
      · simp only [Option.some.injEq, Prod.mk.injEq] at saved
        exact Or.inl ⟨saved.1.symm, saved.2.symm⟩
      · rename_i located
        obtain ⟨uuid, device, rest⟩ := Option.bind_eq_some_iff.mp saved
        split at rest
        · simp only [Option.some.injEq, Prod.mk.injEq] at rest
          exact Or.inl ⟨rest.1.symm, rest.2.symm⟩
        · rename_i entry known
          right
          right
          split at rest
          · rename_i absent
            exact Or.inr ⟨entry, none, ⟨⟨uri, named, located⟩, ⟨uuid, device, known⟩,
              Or.inl ⟨absent, rfl⟩⟩, rest⟩
          · rename_i id given
            split at rest
            · simp at rest
            · refine Or.inl ⟨entry, ⟨?_, ?_⟩, rest⟩
              · rw [JsonDatabase.locatedEntry, Option.bind_some, located, Option.map_none]
              · rw [JsonDatabase.ownerEntry, device, Option.bind_some, known, Option.map_some]
            · rename_i endpoint found
              exact Or.inr ⟨entry, some endpoint.address, ⟨⟨uri, named, located⟩, ⟨uuid, device, known⟩,
                Or.inr ⟨id, endpoint, given, found, rfl⟩⟩, rest⟩

/-- The append of a resource to a list of the device. -/
def appendResource (owner : Option Address) (resource : CachedResource) (device : CachedDevice) :
    CachedDevice :=
  device.changeResources owner fun list => list ++ [resource]

/-- The check of the new resource. -/
def addedResource (db : JsonDatabase) (entry : CacheEntry) (owner : Option Address)
    (resource : DeviceResource) : Check :=
  resourceCheck lib entry.address owner ⟨db.nextAddress, resource⟩

/-- The state after a resource entered its list and the index. -/
def withNewResource (db : JsonDatabase) (entry : CacheEntry) (owner : Option Address)
    (resource : DeviceResource) : JsonDatabase :=
  JsonDatabase.updateDevice { db with
    nextAddress := db.nextAddress + 1
    resourcesByUri := (db.resourcesByUri.register
      [(addedResource lib db entry owner resource).registration]).2 } entry.address
    (appendResource owner ⟨db.nextAddress, resource⟩)

/-- The append and the deletion of one resource. -/
def restoreResource (db : JsonDatabase) (owner : Option Address) (resource : DeviceResource)
    (device : CachedDevice) : CachedDevice :=
  (appendResource owner ⟨db.nextAddress, resource⟩ device).changeResources owner
    (Cells.delete Allocated.address db.nextAddress)

/-- A resource enters its list and the index, or both are restored. -/
theorem addResourceTo_cases {entryAddress : Address}
    (added : addResourceTo lib db entryAddress owner resource stored = some (result, next)) :
    ∃ entry list, db.entryAt entryAddress = some entry ∧ entry.address = entryAddress ∧
      entry.device.resourcesOf owner = some list ∧
      (((db.resourcesByUri.register [(addedResource lib db entry owner resource).registration]).1 = true ∧
        stored = true ∧ result = true ∧
        next = { withNewResource lib db entry owner resource with
          storage := savedStorage lib db.storage
            (appendResource owner ⟨db.nextAddress, resource⟩ entry.device) true }) ∨
      (result = false ∧ next.nextAddress = db.nextAddress + 1 ∧ next.storage = db.storage ∧
        next.devices = (db.updateDevice entryAddress (restoreResource db owner resource)).devices ∧
        ∀ uri, next.resourcesByUri.lookup uri = db.resourcesByUri.lookup uri)) := by
  unfold addResourceTo at added
  obtain ⟨entry, held, rest⟩ := Option.bind_eq_some_iff.mp added
  obtain ⟨list, owned, rest⟩ := Option.map_eq_some_iff.mp rest
  have same : entry.address = entryAddress := Cells.read_address held
  subst same
  refine ⟨entry, list, held, rfl, owned, ?_⟩
  have joined (index : UriIndex) (storage : Storage) :
      (JsonDatabase.updateDevice (JsonDatabase.updateDevice
        ⟨db.devices, index, storage, db.nextAddress + 1⟩ entry.address
          (appendResource owner ⟨db.nextAddress, resource⟩)) entry.address fun device =>
            device.changeResources owner (Cells.delete Allocated.address db.nextAddress)).devices =
        (db.updateDevice entry.address (restoreResource db owner resource)).devices :=
    Cells.write_write _ _ fun _ => rfl
  simp only [addDeviceResourceURIEntry_eq, saveDevice_eq] at rest
  change (match db.resourcesByUri.register [(addedResource lib db entry owner resource).registration] with
    | (false, index) => _
    | (true, index) => _) = _ at rest
  cases registered : db.resourcesByUri.register
    [(addedResource lib db entry owner resource).registration] with
  | mk accepted index =>
      rw [registered] at rest
      cases accepted with
      | false =>
          right
          simp only [Prod.mk.injEq] at rest
          have unchanged := db.resourcesByUri.register_singleton_refused _
            (congrArg Prod.fst registered)
          rw [registered] at unchanged
          change index = db.resourcesByUri at unchanged
          rw [← rest.2]
          exact ⟨rest.1.symm, rfl, rfl, joined _ _, fun uri => by rw [← unchanged]; rfl⟩
      | true =>
          cases stored with
          | true =>
              left
              simp only [Prod.mk.injEq] at rest
              refine ⟨rfl, rfl, rest.1.symm, ?_⟩
              rw [← rest.2, withNewResource, registered]
              rfl
          | false =>
              right
              simp only [Prod.mk.injEq] at rest
              rw [← rest.2]
              refine ⟨rest.1.symm, rfl, rfl, joined _ _, fun uri => ?_⟩
              change (index.eraseAll (resourceUris [⟨db.nextAddress, resource⟩])).lookup uri = _
              have undone := db.resourcesByUri.lookup_register_eraseAll
                [(addedResource lib db entry owner resource).registration]
                (resourceUris [⟨db.nextAddress, resource⟩])
              rw [registered] at undone
              refine undone ?_ ?_ uri
              · have success := congrArg Prod.fst registered
                obtain ⟨pairs, same, _, fresh⟩ := (Table.register_success_iff _ _).mp success
                have items := items_of_registrations
                  [addedResource lib db entry owner resource] pairs same
                rw [resourceUris_eq entry.address owner]
                change ∀ key ∈ ([addedResource lib db entry owner resource].map Prod.fst).filterMap
                  Prod.fst, _
                rw [items, filterMap_keyedItem]
                exact fresh
              · intro key value member
                exact mem_resourceUris lib entry.address (List.takeWhile_subset _ member)

theorem jsonDatabaseAddResource_cases {ownerUri : Option String}
    (added : jsonDatabaseAddResource lib db ownerUri resource stored = some (result, next)) :
    (result = false ∧ next = db) ∨
    (∃ entryAddress owner, db.locatedEntry ownerUri = some entryAddress ∧
      addResourceTo lib db entryAddress owner resource stored = some (result, next)) := by
  unfold jsonDatabaseAddResource at added
  split at added
  · split at added
    · rename_i located
      exact Or.inr ⟨_, none, by rw [JsonDatabase.locatedEntry, Option.bind_some, located]; rfl, added⟩
    · rename_i located
      exact Or.inr ⟨_, some _, by rw [JsonDatabase.locatedEntry, Option.bind_some, located]; rfl, added⟩
    · simp only [Option.some.injEq, Prod.mk.injEq] at added
      exact Or.inl ⟨added.1.symm, added.2.symm⟩
  · simp only [Option.some.injEq, Prod.mk.injEq] at added
    exact Or.inl ⟨added.1.symm, added.2.symm⟩

/-- The state after metadata left its list and the index. -/
def withoutMetadata (db : JsonDatabase) (uri : String) (entry : Address) (owner : Option Address)
    (address : Address) : JsonDatabase :=
  JsonDatabase.updateDevice { db with resourcesByUri := AList.erase uri db.resourcesByUri } entry
    fun device => device.changeMetadata owner (Cells.delete Allocated.address address)

/-- A metadata removal does nothing, removes, or finds no metadata behind the locator. -/
theorem jsonDatabaseRemoveMetadataByUri_cases
    (removed : jsonDatabaseRemoveMetadataByUri lib db uri stored = some (result, next)) :
    (result = false ∧ next = db) ∨
    (∃ entry owner address list,
      db.resourcesByUri.lookup uri = some (.metadata entry.address owner address) ∧
      db.entryAt entry.address = some entry ∧ entry.device.metadataOf owner = some list ∧
      (((∃ item ∈ list, item.address = address) ∧
        flushEntry lib (withoutMetadata db uri entry.address owner address) entry.address stored =
          some (result, next)) ∨
      ((∀ item ∈ list, item.address ≠ address) ∧ result = false ∧
        next = { db with resourcesByUri := AList.erase uri db.resourcesByUri }))) := by
  unfold jsonDatabaseRemoveMetadataByUri at removed
  split at removed
  · rename_i entryAddress owner address located
    obtain ⟨entry, held, rest⟩ := Option.bind_eq_some_iff.mp removed
    obtain ⟨list, owned, rest⟩ := Option.bind_eq_some_iff.mp rest
    have same : entry.address = entryAddress := Cells.read_address held
    subst same
    refine Or.inr ⟨entry, owner, address, list, located, held, owned, ?_⟩
    split at rest
    · rename_i present
      obtain ⟨item, member, equal⟩ := List.any_eq_true.mp present
      exact Or.inl ⟨⟨item, member, by simpa using equal⟩, rest⟩
    · rename_i absent
      simp only [Option.some.injEq, Prod.mk.injEq] at rest
      refine Or.inr ⟨?_, rest.1.symm, rest.2.symm⟩
      intro item member equal
      exact absent (List.any_eq_true.mpr ⟨item, member, by simpa using equal⟩)
  · simp only [Option.some.injEq, Prod.mk.injEq] at removed
    exact Or.inl ⟨removed.1.symm, removed.2.symm⟩

/-- The state after a device and its URIs are gone. -/
def withoutDevice (db : JsonDatabase) (uuid : String) (uris : List String) : JsonDatabase :=
  { db with
    devices := Cells.delete CacheEntry.uuid (some uuid) db.devices
    resourcesByUri := db.resourcesByUri.eraseAll uris }

/-- A device removal does nothing or removes the device with its document. -/
theorem jsonDatabaseRemoveDeviceById_cases
    (removed : jsonDatabaseRemoveDeviceById db uuid stored = some (result, next)) :
    ((db.deviceEntry uuid = none ∨ stored = false) ∧ result = false ∧ next = db) ∨
    (∃ entry uris, db.deviceEntry uuid = some entry ∧ deviceUris entry.device = some uris ∧
      result = true ∧ next = { withoutDevice db uuid uris with
        storage := AList.erase uuid db.storage }) := by
  unfold jsonDatabaseRemoveDeviceById at removed
  split at removed
  · rename_i unknown
    simp only [Option.some.injEq, Prod.mk.injEq] at removed
    exact Or.inl ⟨Or.inl unknown, removed.1.symm, removed.2.symm⟩
  · rename_i entry known
    split at removed
    · obtain ⟨cleaned, deleted, same⟩ := Option.map_eq_some_iff.mp removed
      have found : JsonDatabase.deviceEntry { db with storage := AList.erase uuid db.storage } uuid =
        some entry := known
      simp only [deleteDevice, found, removeDeviceURIEntries, Option.map_map,
        Option.map_eq_some_iff] at deleted
      obtain ⟨uris, listed, state⟩ := deleted
      simp only [Prod.mk.injEq] at same
      exact Or.inr ⟨entry, uris, known, listed, same.1.symm, same.2 ▸ state.symm⟩
    · rename_i failed
      simp only [Option.some.injEq, Prod.mk.injEq] at removed
      exact Or.inl ⟨Or.inr (Bool.eq_false_of_not_eq_true failed), removed.1.symm, removed.2.symm⟩

theorem dropDevices_cases (dropped : dropDevices db = some (result, next)) :
    result = true ∧ next = JsonDatabase.empty db.storage := by
  obtain ⟨_, _, same⟩ := Option.map_eq_some_iff.mp dropped
  simp only [Prod.mk.injEq] at same
  exact ⟨same.1.symm, same.2.symm⟩

/-- A stored document that parses is loaded. -/
theorem loadDevice_cases {json : Json} {permissive : Bool}
    (loaded : loadDevice lib db json permissive = some (result, next)) :
    (result = false ∧ next = db) ∨
    (∃ device, deviceFromJSON lib storageContext permissive json = some device ∧
      loadDeviceIntoCache lib db device = some (result, next)) := by
  unfold loadDevice at loaded
  split at loaded
  · simp only [Option.some.injEq, Prod.mk.injEq] at loaded
    exact Or.inl ⟨loaded.1.symm, loaded.2.symm⟩
  · rename_i device parsed
    exact Or.inr ⟨device, parsed, loaded⟩

end

end Barton.Database
