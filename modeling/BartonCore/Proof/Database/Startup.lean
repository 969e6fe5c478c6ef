import BartonCore.Construction.Database.Startup
import BartonCore.Proof.Database.Locators
import BartonCore.Proof.Database.IndexRuns
import BartonCore.Proof.Database.Readings

namespace Barton.Database
open Registry

/-- These are the URIs of an endpoint and of its lists. -/
def DeviceEndpoint.uris (endpoint : DeviceEndpoint) : List (Option String) :=
  endpoint.uri :: (endpoint.resources.map DeviceResource.uri ++
    endpoint.metadata.map DeviceMetadata.uri)

/-- These are the URIs of a device and of everything below it. -/
def DeviceRecord.uris (device : DeviceRecord) : List (Option String) :=
  device.uri :: (device.endpoints.flatMap DeviceEndpoint.uris ++
    (device.resources.map DeviceResource.uri ++ device.metadata.map DeviceMetadata.uri))

/-- The device has a URI of a device that was loaded earlier. -/
def Clash (loaded : List DeviceRecord) (device : DeviceRecord) : Prop :=
  ∃ uri ∈ DeviceRecord.uris device, uri ∈ loaded.flatMap DeviceRecord.uris

instance (loaded : List DeviceRecord) (device : DeviceRecord) : Decidable (Clash loaded device) :=
  inferInstanceAs (Decidable (∃ uri ∈ DeviceRecord.uris device, uri ∈ loaded.flatMap DeviceRecord.uris))

/-- The device has a new uuid, and its URIs are new and distinct. -/
def Loads (loaded : List DeviceRecord) (device : DeviceRecord) : Prop :=
  device.uuid ∉ loaded.map Device.uuid ∧ (DeviceRecord.uris device).Nodup ∧ ¬Clash loaded device

instance (loaded : List DeviceRecord) (device : DeviceRecord) : Decidable (Loads loaded device) :=
  inferInstanceAs (Decidable (device.uuid ∉ loaded.map Device.uuid ∧
    (DeviceRecord.uris device).Nodup ∧ ¬Clash loaded device))

section Purpose
variable (lib : Library)

/-- A document is read strictly or permissively. -/
def reading (permissive : Bool) (text : String) : Option DeviceRecord :=
  (lib.cJSONParse text).bind (deviceFromJSON lib storageContext permissive)

/-- The document loads strictly or, failing that, permissively. -/
def accepted (loaded : List DeviceRecord) (text : String) : Option DeviceRecord :=
  ((reading lib false text).filter fun device => Loads loaded device).or
    ((reading lib true text).filter fun device => Loads loaded device)

/-- A document that loads adds its device, and any other document adds nothing. -/
def admitText (loaded : List DeviceRecord) (text : String) : List DeviceRecord :=
  loaded ++ (accepted lib loaded text).toList

/-- These are the readable documents under the device keys. -/
def Namespace.deviceTexts (documents : Namespace) : List String :=
  documents.deviceKeys.filterMap documents.text

/-- These devices belong into the database. -/
def expected (documents : Namespace) : List DeviceRecord :=
  documents.deviceTexts.foldl (admitText lib) []

/-- No document that can be read has a URI of a device that was loaded before it. -/
def Undisturbed (loaded : List DeviceRecord) : List String → Prop
  | [] => True
  | text :: rest =>
      (∀ permissive device, reading lib permissive text = some device → ¬Clash loaded device) ∧
        Undisturbed (admitText lib loaded text) rest

end Purpose

/-- These are the devices that the database holds, without their addresses. -/
def JsonDatabase.records (db : JsonDatabase) : List DeviceRecord :=
  db.devices.map fun entry => CachedDevice.record entry.device

/-- The database holds the devices, each under a uuid of its own, and indexes all their objects. -/
structure Holds (db : JsonDatabase) (devices : List DeviceRecord) : Prop where
  records : db.records = devices
  distinct : (devices.map Device.uuid).Nodup
  exact : Exact db.resourcesByUri db.items

/-- The maps exist and hold the devices. -/
def Serves (process : Process) (devices : List DeviceRecord) : Prop :=
  ∃ db, process.database = some db ∧ Holds db devices

/-- A failed restore does not reach the storage. -/
def StartUp.ready : StartUp → Bool
  | .restore _ restoreError _ => restoreError.accepted
  | .initialization _ | .reload _ => true

/-- The storage is ready, its system properties can be read unless nothing else loads, and no document has a
URI of a device that was loaded before it. -/
structure StartUp.Clean (lib : Library) (startUp : StartUp) : Prop where
  ready : startUp.ready = true
  readable : storageLoadJSON lib startUp.documents systemPropertiesKey ≠ none ∨
    ∀ text ∈ startUp.documents.deviceTexts, accepted lib [] text = none
  undisturbed : Undisturbed lib [] startUp.documents.deviceTexts

section Trees
variable {lib : Library} {db : JsonDatabase}

theorem treeItems_uris (entry : Address) (device : CachedDevice) :
    (treeItems entry device).map Prod.fst = DeviceRecord.uris device.record := by
  simp [treeItems, endpointItems, resourceItem, metadataItem, DeviceRecord.uris, DeviceEndpoint.uris,
    CachedDevice.record, CachedEndpoint.record, List.map_flatMap, List.flatMap_map, Function.comp_def]

theorem items_uris (db : JsonDatabase) : db.items.map Prod.fst = db.records.flatMap DeviceRecord.uris := by
  rw [db.items_eq, List.map_flatMap, JsonDatabase.records, List.flatMap_map]
  simp only [treeItems_uris]

theorem treeChecks_uris (entry : Address) (device : CachedDevice) :
    ((treeChecks lib entry device).map fun check => check.1.1) = DeviceRecord.uris device.record := by
  rw [← treeItems_uris entry, ← treeChecks_items lib, List.map_map]
  rfl

/-- The checks of a tree pass when the URIs of its record are valid. -/
theorem treeChecks_valid (entry : Address) {device : CachedDevice}
    (valid : ValidDevice lib device.record) :
    ∀ check ∈ treeChecks lib entry device, check.2 = true := by
  have resources (owner : Option Address) (list : List CachedResource)
      (each : ∀ resource ∈ list.map Allocated.content, ValidResource lib resource) :
      ∀ check ∈ list.map (resourceCheck lib entry owner), check.2 = true := by
    intro check member
    obtain ⟨resource, held, rfl⟩ := List.mem_map.mp member
    exact each _ (List.mem_map_of_mem held)
  have metadata (owner : Option Address) (list : List CachedMetadata)
      (each : ∀ item ∈ list.map Allocated.content, ValidMetadata lib item) :
      ∀ check ∈ list.map (metadataCheck lib entry owner), check.2 = true := by
    intro check member
    obtain ⟨item, held, rfl⟩ := List.mem_map.mp member
    exact each _ (List.mem_map_of_mem held)
  unfold treeChecks
  rw [List.forall_mem_cons, List.forall_mem_append, List.forall_mem_append]
  refine ⟨valid.located, ?_, resources none _ valid.resources, metadata none _ valid.metadata⟩
  intro check member
  obtain ⟨endpoint, held, inside⟩ := List.mem_flatMap.mp member
  have passed := valid.endpoints _ (List.mem_map_of_mem held)
  unfold endpointChecks at inside
  rcases List.mem_cons.mp inside with rfl | deep
  · exact passed.located
  · rcases List.mem_append.mp deep with one | other
    · exact resources _ _ passed.resources check one
    · exact metadata _ _ passed.metadata check other

end Trees

section Names
variable {lib : Library}

theorem present_of_matches (empty : lib.stringIsEmpty none = true) {uri : Option String}
    {required : List (Option String)} {expected : String}
    (valid : uriMatches lib uri required expected = true) :
    uri ≠ none ∧ ∀ name ∈ required, name ≠ none := by
  unfold uriMatches at valid
  rw [Bool.and_eq_true, Bool.and_eq_true, List.all_eq_true] at valid
  constructor
  · rintro rfl
    simp [empty] at valid
  · rintro name member rfl
    have named := valid.1.2 none member
    simp [empty] at named

/-- Every object of a valid device has a URI. -/
theorem ValidDevice.named (empty : lib.stringIsEmpty none = true) {device : DeviceRecord}
    (valid : ValidDevice lib device) : ∀ uri ∈ DeviceRecord.uris device, uri ≠ none := by
  have resources (list : List DeviceResource) (each : ∀ resource ∈ list, ValidResource lib resource) :
      ∀ uri ∈ list.map DeviceResource.uri, uri ≠ none := by
    intro uri member
    obtain ⟨resource, held, rfl⟩ := List.mem_map.mp member
    exact (present_of_matches empty (each resource held)).1
  have metadata (list : List DeviceMetadata) (each : ∀ item ∈ list, ValidMetadata lib item) :
      ∀ uri ∈ list.map DeviceMetadata.uri, uri ≠ none := by
    intro uri member
    obtain ⟨item, held, rfl⟩ := List.mem_map.mp member
    exact (present_of_matches empty (each item held)).1
  unfold DeviceRecord.uris
  rw [List.forall_mem_cons, List.forall_mem_append, List.forall_mem_append]
  refine ⟨(present_of_matches empty valid.located).1, ?_, resources _ valid.resources,
    metadata _ valid.metadata⟩
  intro uri member
  obtain ⟨endpoint, held, inside⟩ := List.mem_flatMap.mp member
  have passed := valid.endpoints endpoint held
  unfold DeviceEndpoint.uris at inside
  rcases List.mem_cons.mp inside with rfl | deep
  · exact (present_of_matches empty passed.located).1
  · rcases List.mem_append.mp deep with one | other
    · exact resources _ passed.resources uri one
    · exact metadata _ passed.metadata uri other

theorem ValidDevice.uuid (empty : lib.stringIsEmpty none = true) {device : DeviceRecord}
    (valid : ValidDevice lib device) : ∃ uuid, device.uuid = some uuid :=
  Option.ne_none_iff_exists'.mp
    ((present_of_matches empty valid.located).2 device.uuid List.mem_cons_self)

end Names

/-- The index is exact, and the devices are the ones that were loaded. -/
structure Books (db : JsonDatabase) (loaded : List DeviceRecord) : Prop where
  indexed : Indexed db
  records : db.records = loaded

/-- Some object of a device is no longer behind its URI. -/
structure Lost (db : JsonDatabase) : Prop where
  heap : Heap db
  missing : ∃ uri locator, (some uri, locator) ∈ db.items ∧ db.resourcesByUri.lookup uri ≠ some locator

theorem Lost.not_exact {db : JsonDatabase} (lost : Lost db) : ¬Exact db.resourcesByUri db.items := by
  intro exact
  obtain ⟨uri, locator, member, absent⟩ := lost.missing
  exact absent ((exact.found uri locator).mpr member)

section Load
variable {lib : Library} {db next : JsonDatabase} {loaded : List DeviceRecord} {device : DeviceRecord}
  {result : Bool}

theorem newEntry_record (db : JsonDatabase) (device : DeviceRecord) :
    CachedDevice.record (newEntry db device).device = device :=
  deviceClone_record _ device

/-- The objects of a new device have fresh addresses. -/
theorem newEntry_fresh (db : JsonDatabase) (device : DeviceRecord) :
    ∀ item ∈ treeItems db.nextAddress (newEntry db device).device, db.nextAddress ≤ item.2.target := by
  intro item member
  have target := List.mem_map_of_mem (f := fun item : Item => item.2.target) member
  rw [show (newEntry db device).device = deviceClone (db.nextAddress + 1) device from rfl,
    deviceClone_targets] at target
  exact (mem_range'_bounds target).1

theorem destroyed_grown (db : JsonDatabase) (device : DeviceRecord) (index : UriIndex)
    (uris : List String) : db.nextAddress ≤ (destroyed db device index uris).nextAddress :=
  Nat.le_trans (Nat.le_add_right _ _) (Nat.le_add_right _ _)

theorem records_withDevice (db : JsonDatabase) (device : DeviceRecord) :
    (withDevice lib db device).records = db.records ++ [device] := by
  rw [JsonDatabase.records, withDevice, List.map_append, List.map_singleton, newEntry_record]
  rfl

theorem deviceEntry_eq_none_iff (db : JsonDatabase) (uuid : String) :
    db.deviceEntry uuid = none ↔ some uuid ∉ db.records.map Device.uuid := by
  rw [JsonDatabase.deviceEntry, Cells.read_eq_none, JsonDatabase.records, List.map_map, List.mem_map]
  push Not
  rfl

/-- The URIs of the loaded devices are the keys of the index. -/
theorem Books.mem_index_iff (books : Books db loaded) (uri : String) :
    uri ∈ db.resourcesByUri ↔ some uri ∈ loaded.flatMap DeviceRecord.uris := by
  rw [books.indexed.exact.mem_iff, items_uris, books.records]

/-- A new device enters the cache and the index exactly when it loads. -/
theorem Books.loads_iff (books : Books db loaded) (empty : lib.stringIsEmpty none = true)
    (valid : ValidDevice lib device) {uuid : String} (named : device.uuid = some uuid) :
    Loads loaded device ↔ db.deviceEntry uuid = none ∧ (addedTree lib db device).1 = true := by
  have uris := @treeChecks_uris lib db.nextAddress (newEntry db device).device
  rw [newEntry_record] at uris
  have present (check : Check) (member : check ∈ treeChecks lib db.nextAddress (newEntry db device).device) :
      check.1.1 ∈ DeviceRecord.uris device := by
    rw [← uris]
    exact List.mem_map_of_mem (f := fun check : Check => check.1.1) member
  rw [Loads, addedTree, register_iff_admitted, deviceEntry_eq_none_iff, books.records, named]
  refine and_congr_right fun _ => ⟨?_, ?_⟩
  · rintro ⟨distinct, apart⟩
    refine ⟨?_, ?_, by rw [uris]; exact distinct, ?_⟩
    · apply treeChecks_valid
      rw [newEntry_record]
      exact valid
    · intro check member
      exact valid.named empty _ (present check member)
    · intro check member uri same known
      apply apart
      exact ⟨some uri, same ▸ present check member, (books.mem_index_iff uri).mp known⟩
  · intro admitted
    refine ⟨by rw [← uris]; exact admitted.distinct, ?_⟩
    rintro ⟨uri, own, other⟩
    rw [← uris] at own
    obtain ⟨check, member, rfl⟩ := List.mem_map.mp own
    obtain ⟨name, same⟩ := Option.ne_none_iff_exists'.mp (admitted.named check member)
    apply admitted.fresh check member name same
    rw [books.mem_index_iff, ← same]
    exact other

/-- The destruction of a valid device deletes exactly its URIs. -/
theorem destroyed_uris (empty : lib.stringIsEmpty none = true) (valid : ValidDevice lib device)
    {uris : List String} (listed : deviceUris (newEntry db device).device = some uris) (uri : String) :
    uri ∈ uris ↔ some uri ∈ DeviceRecord.uris device := by
  have same := treeItems_uris db.nextAddress (newEntry db device).device
  rw [newEntry_record] at same
  have keyed := deviceUris_eq db.nextAddress (newEntry db device).device fun item member => by
    apply valid.named empty
    rw [← same]
    exact List.mem_map_of_mem member
  rw [listed, Option.some.injEq] at keyed
  rw [keyed, ← same, List.mem_filterMap, List.mem_map]

/-- A new device that loads is appended to the devices. -/
theorem Books.load_accepted (books : Books db loaded) (empty : lib.stringIsEmpty none = true)
    (valid : ValidDevice lib device) (loads : Loads loaded device)
    (reached : loadDeviceIntoCache lib db device = some (result, next)) :
    result = true ∧ Books next (loaded ++ [device]) := by
  obtain ⟨uuid, named⟩ := valid.uuid empty
  obtain ⟨unknown, complete⟩ := (books.loads_iff empty valid named).mp loads
  rw [loadDeviceIntoCache_accepted lib named unknown complete, Option.some.injEq, Prod.mk.injEq] at reached
  obtain ⟨rfl, rfl⟩ := reached
  refine ⟨rfl, books.indexed.exact_withDevice lib named unknown complete, ?_⟩
  rw [records_withDevice, books.records]

/-- A device that does not load is destroyed by its URIs. -/
theorem Books.load_refused (books : Books db loaded) (empty : lib.stringIsEmpty none = true)
    (valid : ValidDevice lib device) (fails : ¬Loads loaded device)
    (reached : loadDeviceIntoCache lib db device = some (result, next)) :
    result = false ∧ ∃ uris index, deviceUris (newEntry db device).device = some uris ∧
      next = destroyed db device index uris ∧
      (index = db.resourcesByUri ∨ index = (addedTree lib db device).2.eraseAll uris) := by
  obtain ⟨uuid, named⟩ := valid.uuid empty
  rcases loadDeviceIntoCache_cases lib reached with
    ⟨missing, _⟩ | ⟨other, same, unknown, complete, _, _⟩ |
      ⟨_, uris, index, _, listed, refused, state, origin⟩
  · rw [named] at missing
    cases missing
  · rw [named, Option.some.injEq] at same
    subst same
    exact absurd ((books.loads_iff empty valid named).mpr ⟨unknown, complete⟩) fails
  · exact ⟨refused, uris, index, listed, state, origin.imp_right And.left⟩

/-- A device without a known URI leaves no trace when it does not load. -/
theorem Books.load_apart (books : Books db loaded) (empty : lib.stringIsEmpty none = true)
    (valid : ValidDevice lib device) (fails : ¬Loads loaded device) (apart : ¬Clash loaded device)
    (reached : loadDeviceIntoCache lib db device = some (result, next)) :
    result = false ∧ Books next loaded := by
  obtain ⟨refused, uris, index, listed, rfl, origin⟩ := books.load_refused empty valid fails reached
  have fresh : ∀ uri ∈ uris, uri ∉ db.resourcesByUri := by
    intro uri member known
    rw [destroyed_uris empty valid listed] at member
    exact apart ⟨some uri, member, (books.mem_index_iff uri).mp known⟩
  have same := destroyed_same lib listed fresh (origin.imp_right Or.inl)
  exact ⟨refused, books.indexed.of_same same (destroyed_grown _ _ _ _), books.records⟩

/-- A device with a known URI takes the locator of another device away. -/
theorem Books.load_clash (books : Books db loaded) (empty : lib.stringIsEmpty none = true)
    (valid : ValidDevice lib device) (clash : Clash loaded device)
    (reached : loadDeviceIntoCache lib db device = some (result, next)) :
    result = false ∧ Lost next := by
  have fails : ¬Loads loaded device := fun loads => loads.2.2 clash
  obtain ⟨refused, uris, index, listed, rfl, _⟩ := books.load_refused empty valid fails reached
  refine ⟨refused, books.indexed.heap.of_memory rfl (destroyed_grown _ _ _ _), ?_⟩
  obtain ⟨uri, own, other⟩ := clash
  obtain ⟨name, rfl⟩ := Option.ne_none_iff_exists'.mp (valid.named empty uri own)
  rw [← books.records, ← items_uris] at other
  obtain ⟨⟨key, locator⟩, member, same⟩ := List.mem_map.mp other
  change key = some name at same
  subst same
  refine ⟨name, locator, member, ?_⟩
  have erased := Table.lookup_eraseAll index uris name
  rw [if_pos ((destroyed_uris empty valid listed name).mpr own)] at erased
  change (index.eraseAll uris).lookup name ≠ some locator
  rw [erased]
  exact Option.some_ne_none locator |>.symm

/-- A lookup that survives an erasure was there before. -/
theorem lookup_of_eraseAll {index : UriIndex} {uris : List String} {uri : String} {locator : Locator}
    (found : (index.eraseAll uris).lookup uri = some locator) : index.lookup uri = some locator := by
  rw [Table.lookup_eraseAll] at found
  split at found
  · cases found
  · exact found

/-- A lost object stays lost. -/
theorem Lost.load (lost : Lost db) (reached : loadDeviceIntoCache lib db device = some (result, next)) :
    Lost next := by
  obtain ⟨uri, locator, member, absent⟩ := lost.missing
  have unregistered : (addedTree lib db device).2.lookup uri ≠ some locator := by
    intro found
    rcases fromItems_tree lib device uri locator found with before | added
    · exact absent before
    · exact absurd (lost.heap.allocated _ member) (Nat.not_lt_of_le (newEntry_fresh db device _ added))
  rcases loadDeviceIntoCache_cases lib reached with
    ⟨_, _, rfl⟩ | ⟨uuid, named, unknown, _, _, rfl⟩ | ⟨uuid, uris, index, _, _, _, rfl, origin⟩
  · exact lost
  · have change := exchange_withDevice lib lost.heap device named unknown
    refine ⟨lost.heap.exchange change, uri, locator, ?_, unregistered⟩
    exact change.after.mem_iff.mpr (List.mem_append_right _ member)
  · refine ⟨lost.heap.of_memory rfl (destroyed_grown _ _ _ _), uri, locator, member, ?_⟩
    intro found
    have kept := lookup_of_eraseAll found
    rcases origin with rfl | ⟨rfl, _⟩
    · exact absent kept
    · exact unregistered (lookup_of_eraseAll kept)

end Load

section Texts
variable {lib : Library} {db next : JsonDatabase} {loaded : List DeviceRecord} {result permissive : Bool}
  {text : String}

/-- The callback loads the reading of its text, if there is one. -/
theorem loadDeviceText_eq (permissive : Bool) (db : JsonDatabase) (text : String) :
    loadDeviceText lib permissive db text =
      match reading lib permissive text with
      | none => some (false, db)
      | some device => loadDeviceIntoCache lib db device := by
  unfold loadDeviceText reading
  cases lib.cJSONParse text with
  | none => rfl
  | some json => rfl

theorem reading_valid {device : DeviceRecord} (read : reading lib permissive text = some device) :
    ValidDevice lib device := by
  obtain ⟨json, _, accepted⟩ := Option.bind_eq_some_iff.mp read
  exact deviceFromJSON_valid accepted

/-- A text that can be read strictly reads the same permissively. -/
theorem reading_permissive {device : DeviceRecord} (read : reading lib false text = some device) :
    reading lib true text = some device := by
  obtain ⟨json, parsed, accepted⟩ := Option.bind_eq_some_iff.mp read
  rw [reading, parsed, Option.bind_some]
  exact deviceFromJSON_permissive accepted

/-- An attempt without a known URI loads its device or leaves no trace. -/
theorem Books.attempt (books : Books db loaded) (empty : lib.stringIsEmpty none = true)
    (apart : ∀ device, reading lib permissive text = some device → ¬Clash loaded device)
    (reached : loadDeviceText lib permissive db text = some (result, next)) :
    result = ((reading lib permissive text).filter fun device => Loads loaded device).isSome ∧
      Books next
        (loaded ++ ((reading lib permissive text).filter fun device => Loads loaded device).toList) := by
  rw [loadDeviceText_eq] at reached
  cases read : reading lib permissive text with
  | none =>
      rw [read, Option.some.injEq, Prod.mk.injEq] at reached
      obtain ⟨rfl, rfl⟩ := reached
      refine ⟨rfl, ?_⟩
      rw [Option.filter_none, Option.toList_none, List.append_nil]
      exact books
  | some device =>
      rw [read] at reached
      have valid := reading_valid read
      by_cases loads : Loads loaded device
      · obtain ⟨success, after⟩ := books.load_accepted empty valid loads reached
        rw [Option.filter_some_pos (by simpa using loads)]
        exact ⟨success, after⟩
      · obtain ⟨refused, after⟩ := books.load_apart empty valid loads (apart device read) reached
        rw [Option.filter_some_neg (by simpa using loads), Option.toList_none, List.append_nil]
        exact ⟨refused, after⟩

theorem Books.attempt_clash (books : Books db loaded) (empty : lib.stringIsEmpty none = true)
    {device : DeviceRecord} (read : reading lib permissive text = some device)
    (clash : Clash loaded device) (reached : loadDeviceText lib permissive db text = some (result, next)) :
    result = false ∧ Lost next := by
  rw [loadDeviceText_eq, read] at reached
  exact books.load_clash empty (reading_valid read) clash reached

theorem Lost.attempt (lost : Lost db)
    (reached : loadDeviceText lib permissive db text = some (result, next)) : Lost next := by
  rw [loadDeviceText_eq] at reached
  split at reached
  · rw [Option.some.injEq, Prod.mk.injEq] at reached
    exact reached.2 ▸ lost
  · exact lost.load reached

/-- These are the strict and the permissive attempt at one text. -/
def attempts (lib : Library) (db : JsonDatabase) (text : String) : Option JsonDatabase :=
  (loadDeviceText lib false db text).bind fun strict =>
    if strict.1 then some strict.2 else (loadDeviceText lib true strict.2 text).map Prod.snd

theorem loadStoredDevice_eq (documents : Namespace) (db : JsonDatabase) (key : String) :
    loadStoredDevice lib documents db key = (documents.text key).elim (some db) (attempts lib db) := by
  unfold loadStoredDevice storageParse
  cases documents.text key with
  | none => rfl
  | some text => rfl

/-- The keys without a readable document do not count. -/
theorem run_loadStoredDevice (documents : Namespace) (db : JsonDatabase) (keys : List String) :
    Runs.run (loadStoredDevice lib documents) db keys =
      Runs.run (attempts lib) db (keys.filterMap documents.text) := by
  induction keys generalizing db with
  | nil => rfl
  | cons key rest ih =>
      rw [Runs.run, loadStoredDevice_eq]
      cases found : documents.text key with
      | none =>
          rw [List.filterMap_cons_none found, Option.elim_none, Option.bind_some]
          exact ih db
      | some text =>
          rw [List.filterMap_cons_some found, Option.elim_some, Runs.run]
          exact congrArg (Option.bind (attempts lib db text)) (funext fun next => ih next)

/-- An undisturbed document loads its device or leaves no trace. -/
theorem Books.attempts (books : Books db loaded) (empty : lib.stringIsEmpty none = true)
    (apart : ∀ permissive device, reading lib permissive text = some device → ¬Clash loaded device)
    (reached : attempts lib db text = some next) : Books next (admitText lib loaded text) := by
  obtain ⟨⟨success, middle⟩, strict, later⟩ := Option.bind_eq_some_iff.mp reached
  obtain ⟨same, first⟩ := books.attempt empty (apart false) strict
  unfold admitText accepted
  cases kept : (reading lib false text).filter fun device => Loads loaded device with
  | some device =>
      rw [kept] at same first
      change success = true at same
      rw [same, if_pos rfl, Option.some.injEq] at later
      subst later
      exact first
  | none =>
      rw [kept] at same first
      change success = false at same
      rw [same, if_neg Bool.false_ne_true] at later
      rw [Option.toList_none, List.append_nil] at first
      obtain ⟨⟨recovered, final⟩, permissive, rfl⟩ := Option.map_eq_some_iff.mp later
      rw [Option.none_or]
      exact (first.attempt empty (apart true) permissive).2

/-- A disturbing document takes the locator of an earlier device away. -/
theorem Books.attempts_clash (books : Books db loaded) (empty : lib.stringIsEmpty none = true)
    {device : DeviceRecord} (read : reading lib permissive text = some device)
    (clash : Clash loaded device) (reached : Barton.Database.attempts lib db text = some next) :
    Lost next := by
  obtain ⟨⟨success, middle⟩, strict, later⟩ := Option.bind_eq_some_iff.mp reached
  cases first : reading lib false text with
  | some other =>
      -- The permissive reading is the strict one, so the strict attempt already does the damage.
      have same : other = device := by
        have also := reading_permissive first
        cases permissive with
        | false => exact Option.some.inj (first.symm.trans read)
        | true => exact Option.some.inj (also.symm.trans read)
      obtain ⟨refused, lost⟩ := books.attempt_clash empty first (same ▸ clash) strict
      change success = false at refused
      rw [refused, if_neg Bool.false_ne_true] at later
      obtain ⟨⟨recovered, final⟩, second, rfl⟩ := Option.map_eq_some_iff.mp later
      exact lost.attempt second
  | none =>
      rw [loadDeviceText_eq, first, Option.some.injEq, Prod.mk.injEq] at strict
      obtain ⟨rfl, rfl⟩ := strict
      rw [if_neg Bool.false_ne_true] at later
      obtain ⟨⟨recovered, final⟩, second, rfl⟩ := Option.map_eq_some_iff.mp later
      cases permissive with
      | false =>
          rw [first] at read
          cases read
      | true => exact (books.attempt_clash empty read clash second).2

theorem Lost.attempts (lost : Lost db) (reached : attempts lib db text = some next) : Lost next := by
  obtain ⟨⟨success, middle⟩, strict, later⟩ := Option.bind_eq_some_iff.mp reached
  have first := lost.attempt strict
  split at later
  · rw [Option.some.injEq] at later
    exact later ▸ first
  · obtain ⟨⟨recovered, final⟩, second, rfl⟩ := Option.map_eq_some_iff.mp later
    exact first.attempt second

/-- Undisturbed documents load exactly the expected devices. -/
theorem Books.run {final : JsonDatabase} {texts : List String} (books : Books db loaded)
    (empty : lib.stringIsEmpty none = true) (undisturbed : Undisturbed lib loaded texts)
    (reached : Runs.run (Barton.Database.attempts lib) db texts = some final) :
    Books final (texts.foldl (admitText lib) loaded) := by
  induction texts generalizing db loaded with
  | nil =>
      rw [Runs.run, Option.some.injEq] at reached
      exact reached ▸ books
  | cons text rest ih =>
      obtain ⟨next, stepped, later⟩ := Option.bind_eq_some_iff.mp reached
      exact ih (books.attempts empty undisturbed.1 stepped) undisturbed.2 later

/-- A disturbed run leaves an object without its locator. -/
theorem Books.run_disturbed {final : JsonDatabase} {texts : List String} (books : Books db loaded)
    (empty : lib.stringIsEmpty none = true) (disturbed : ¬Undisturbed lib loaded texts)
    (reached : Runs.run (Barton.Database.attempts lib) db texts = some final) : Lost final := by
  induction texts generalizing db loaded with
  | nil => exact absurd trivial disturbed
  | cons text rest ih =>
      obtain ⟨next, stepped, later⟩ := Option.bind_eq_some_iff.mp reached
      by_cases apart : ∀ permissive device, reading lib permissive text = some device →
          ¬Clash loaded device
      · exact ih (books.attempts empty apart stepped) (fun others => disturbed ⟨apart, others⟩) later
      · push Not at apart
        obtain ⟨permissive, device, read, clash⟩ := apart
        have lost := books.attempts_clash empty read clash stepped
        exact Runs.invariant (Barton.Database.attempts lib) Lost
          (fun _ _ _ held reached => held.attempts reached) lost later

end Texts

section Purpose
variable {lib : Library}

theorem admitText_grows (loaded : List DeviceRecord) (texts : List String) :
    loaded <+: texts.foldl (admitText lib) loaded := by
  induction texts generalizing loaded with
  | nil => exact List.prefix_rfl
  | cons text rest ih => exact (List.prefix_append _ _).trans (ih (admitText lib loaded text))

theorem admitText_nothing {loaded : List DeviceRecord} {text : String}
    (refused : accepted lib loaded text = none) : admitText lib loaded text = loaded := by
  rw [admitText, refused, Option.toList_none, List.append_nil]

/-- Nothing is expected exactly when no document loads. -/
theorem foldl_admitText_eq_nil_iff (texts : List String) :
    texts.foldl (admitText lib) [] = [] ↔ ∀ text ∈ texts, accepted lib [] text = none := by
  induction texts with
  | nil => simp
  | cons text rest ih =>
      rw [List.foldl_cons, List.forall_mem_cons]
      cases first : accepted lib [] text with
      | none =>
          rw [admitText_nothing first, ih]
          exact (and_iff_right rfl).symm
      | some device =>
          have kept := @admitText_grows lib (admitText lib [] text) rest
          rw [admitText, first] at kept ⊢
          constructor
          · intro same
            rw [same] at kept
            cases List.prefix_nil.mp kept
          · rintro ⟨absurdity, _⟩
            cases absurdity

/-- Documents that do not load do not disturb an empty database. -/
theorem undisturbed_of_nothing {texts : List String}
    (nothing : ∀ text ∈ texts, accepted lib [] text = none) : Undisturbed lib [] texts := by
  induction texts with
  | nil => trivial
  | cons text rest ih =>
      rw [List.forall_mem_cons] at nothing
      refine ⟨?_, ?_⟩
      · rintro permissive device _ ⟨uri, _, other⟩
        cases other
      · rw [admitText_nothing nothing.1]
        exact ih nothing.2

end Purpose

section StartUp
variable {lib : Library} {process after : Process} {result stored : Bool}

theorem Books.empty (storage : Storage) : Books (JsonDatabase.empty storage) [] where
  indexed := Indexed.empty storage
  records := rfl

theorem Books.holds {db : JsonDatabase} {loaded : List DeviceRecord} (books : Books db loaded) : Holds db loaded := by
  refine ⟨books.records, ?_, books.indexed.exact⟩
  have uuids := books.indexed.heap.uuids_distinct
  rw [← books.records, JsonDatabase.records, List.map_map]
  exact uuids

/-- The loaded devices are the expected ones exactly when the documents are undisturbed. -/
theorem loadDevices_iff (empty : lib.stringIsEmpty none = true) {documents : Namespace}
    {storage : Storage} {db : JsonDatabase}
    (loaded : loadDevices lib documents (JsonDatabase.empty storage) = some db) :
    Holds db (expected lib documents) ↔ Undisturbed lib [] documents.deviceTexts := by
  unfold loadDevices at loaded
  rw [run_loadStoredDevice] at loaded
  constructor
  · intro holds
    by_contra disturbed
    exact ((Books.empty storage).run_disturbed empty disturbed loaded).not_exact holds.exact
  · intro undisturbed
    exact ((Books.empty storage).run empty undisturbed loaded).holds

/-- A save of the system properties does not change the device documents. -/
theorem deviceTexts_insert (documents : Namespace) (text : Option String) :
    Namespace.deviceTexts (AList.insert systemPropertiesKey text documents) = documents.deviceTexts := by
  have keys : Namespace.deviceKeys (AList.insert systemPropertiesKey text documents) =
      documents.deviceKeys := by
    unfold Namespace.deviceKeys
    rw [AList.keys_insert, List.filter_cons_of_neg (by simp), documents.keys_nodup.erase_eq_filter,
      List.filter_filter]
    simp only [Bool.and_self]
  unfold Namespace.deviceTexts
  rw [keys]
  apply List.filterMap_congr
  intro key member
  have different : key ≠ systemPropertiesKey := by simpa using List.of_mem_filter member
  rw [Namespace.text, AList.lookup_insert_ne different]
  rfl

/-- The maps and the device documents stay as they are. -/
structure SameDocuments (process next : Process) : Prop where
  database : next.database = process.database
  texts : next.documents.deviceTexts = process.documents.deviceTexts

theorem saveSystemProperties_same (process : Process) (stored : Bool) :
    SameDocuments process (saveSystemProperties lib process stored).2 := by
  cases stored with
  | false => exact ⟨rfl, rfl⟩
  | true => exact ⟨rfl, deviceTexts_insert _ _⟩

theorem jsonDatabaseSetSystemPropertyNoLock_same (process : Process) (key value : String) (stored : Bool) :
    SameDocuments process (jsonDatabaseSetSystemPropertyNoLock lib process key value stored).2 := by
  have saved := @saveSystemProperties_same lib { process with
    systemProperties := some (AList.insert key value (AList.erase key (process.systemProperties.getD ∅))) }
    stored
  exact ⟨saved.database, saved.texts⟩

theorem migrateSysPropFile_same (process : Process) (stored : Bool) :
    SameDocuments process (migrateSysPropFile lib process stored).2 := by
  unfold migrateSysPropFile
  dsimp only
  split
  · exact ⟨rfl, rfl⟩
  · have saved := @jsonDatabaseSetSystemPropertyNoLock_same lib { process with
      systemProperties := some (renameProperty (renameProperty (process.systemProperties.getD ∅)
        "currentBlacklistMd5" "currentDenylistMd5") "currentBlacklistUrl" "currentDenylistUrl") }
      schemaVersionKey currentSchemaVersion stored
    exact ⟨saved.database, saved.texts⟩

/-- The system properties load exactly when their document can be read. -/
theorem loadSystemProperties_cases (loaded : loadSystemProperties lib process stored = some (result, after)) :
    result = (storageLoadJSON lib process.documents systemPropertiesKey).isSome ∧
      SameDocuments process after := by
  unfold loadSystemProperties at loaded
  dsimp only at loaded
  split at loaded
  · rename_i unreadable
    rw [Option.some.injEq, Prod.mk.injEq] at loaded
    obtain ⟨rfl, rfl⟩ := loaded
    rw [unreadable]
    exact ⟨rfl, rfl, rfl⟩
  · rename_i body readable
    obtain ⟨read, _, same⟩ := Option.map_eq_some_iff.mp loaded
    rw [Prod.mk.injEq] at same
    obtain ⟨rfl, rfl⟩ := same
    rw [readable]
    have migrated := @migrateSysPropFile_same lib { process with systemProperties := some read }
      stored
    exact ⟨rfl, migrated.database, migrated.texts⟩

theorem expected_congr {documents others : Namespace} (same : others.deviceTexts = documents.deviceTexts) :
    expected lib others = expected lib documents := by
  unfold expected
  rw [same]

/-- Initialization serves the expected devices when the system properties do not stand in the way. -/
theorem jsonDatabaseInitializeNoLock_iff (empty : lib.stringIsEmpty none = true)
    (closed : process.database = none)
    (returned : jsonDatabaseInitializeNoLock lib process stored = some (result, after)) :
    Serves after (expected lib process.documents) ↔
      (storageLoadJSON lib process.documents systemPropertiesKey ≠ none ∨
        ∀ text ∈ process.documents.deviceTexts, accepted lib [] text = none) ∧
      Undisturbed lib [] process.documents.deviceTexts := by
  obtain ⟨⟨success, loaded⟩, system, later⟩ := Option.bind_eq_some_iff.mp returned
  obtain ⟨rfl, same⟩ := loadSystemProperties_cases system
  dsimp only at later
  cases readable : storageLoadJSON lib process.documents systemPropertiesKey with
  | none =>
      rw [readable, Option.isSome_none, if_neg Bool.false_ne_true, Option.some.injEq, Prod.mk.injEq] at later
      obtain ⟨_, rfl⟩ := later
      have maps := (@jsonDatabaseSetSystemPropertyNoLock_same lib { loaded with
        database := some (JsonDatabase.empty (loaded.documents.storage lib)) } schemaVersionKey
        currentSchemaVersion stored).database
      rw [or_iff_right (not_not_intro rfl), ← foldl_admitText_eq_nil_iff]
      constructor
      · rintro ⟨db, found, holds⟩
        rw [maps, Option.some.injEq] at found
        subst found
        have nothing : expected lib process.documents = [] := holds.records.symm
        exact ⟨nothing, undisturbed_of_nothing ((foldl_admitText_eq_nil_iff _).mp nothing)⟩
      · rintro ⟨nothing, _⟩
        refine ⟨_, maps, ?_⟩
        rw [expected, nothing]
        exact (Books.empty _).holds
  | some body =>
      rw [readable, Option.isSome_some, if_pos rfl, same.database, closed, Option.getD_none] at later
      obtain ⟨db, ran, state⟩ := Option.map_eq_some_iff.mp later
      rw [Prod.mk.injEq] at state
      obtain ⟨_, rfl⟩ := state
      rw [and_iff_right (Or.inl (Option.some_ne_none body)), ← same.texts, ← expected_congr same.texts,
        ← loadDevices_iff empty ran]
      constructor
      · rintro ⟨other, found, holds⟩
        rw [Option.some.injEq] at found
        exact found ▸ holds
      · intro holds
        exact ⟨db, rfl, holds⟩

theorem jsonDatabaseCleanupNoLock_cases (cleaned : jsonDatabaseCleanupNoLock process = some after) :
    after.database = none ∧ after.documents = process.documents := by
  unfold jsonDatabaseCleanupNoLock at cleaned
  split at cleaned
  · rename_i closed
    rw [Option.some.injEq] at cleaned
    subst cleaned
    exact ⟨closed, rfl⟩
  · obtain ⟨_, _, rfl⟩ := Option.map_eq_some_iff.mp cleaned
    exact ⟨rfl, rfl⟩

/-- After a start-up the database serves the expected devices exactly when the start-up was clean. -/
theorem startUp_serves_iff {startUp : StartUp} (empty : lib.stringIsEmpty none = true)
    (returned : startUp.perform lib stored = some (result, after)) :
    Serves after (expected lib startUp.documents) ↔ startUp.Clean lib := by
  have clean (ready : startUp.ready = true) : startUp.Clean lib ↔
      (storageLoadJSON lib startUp.documents systemPropertiesKey ≠ none ∨
        ∀ text ∈ startUp.documents.deviceTexts, accepted lib [] text = none) ∧
      Undisturbed lib [] startUp.documents.deviceTexts :=
    ⟨fun clean => ⟨clean.readable, clean.undisturbed⟩, fun both => ⟨ready, both.1, both.2⟩⟩
  cases startUp with
  | initialization documents =>
      rw [clean rfl]
      exact jsonDatabaseInitializeNoLock_iff empty rfl returned
  | reload process =>
      obtain ⟨middle, cleaned, later⟩ := Option.bind_eq_some_iff.mp returned
      obtain ⟨closed, same⟩ := jsonDatabaseCleanupNoLock_cases cleaned
      have served := jsonDatabaseInitializeNoLock_iff empty closed later
      rw [same] at served
      rw [clean rfl]
      exact served
  | restore process restoreError restored =>
      obtain ⟨middle, cleaned, later⟩ := Option.bind_eq_some_iff.mp returned
      obtain ⟨closed, _⟩ := jsonDatabaseCleanupNoLock_cases cleaned
      cases allowed : restoreError.accepted with
      | true =>
          rw [if_pos allowed] at later
          rw [clean allowed]
          exact @jsonDatabaseInitializeNoLock_iff lib { middle with documents := restored } _ _ _ empty closed later
      | false =>
          rw [if_neg (by rw [allowed]; exact Bool.false_ne_true), Option.some.injEq, Prod.mk.injEq] at later
          obtain ⟨_, rfl⟩ := later
          constructor
          · rintro ⟨db, found, _⟩
            rw [closed] at found
            cases found
          · intro sound
            have ready : restoreError.accepted = true := sound.ready
            rw [allowed] at ready
            cases ready

end StartUp

/-- This document holds a device with an endpoint and a resource. -/
def storedDevice : Json :=
  .object [("uuid", .string "a"), ("uri", .string "/a"), ("deviceDriver", .string "zigbee"),
    ("deviceClass", .string "light"),
    ("deviceEndpoints", .object [("1", .object [("id", .string "1"), ("uri", .string "/a/ep/1"),
      ("profile", .string "light"), ("enabled", .bool true), ("resources", .object []),
      ("metadatas", .object [])])]),
    ("deviceResources", .object [("on", .object [("id", .string "on"), ("uri", .string "/a/r/on"),
      ("type", .string "boolean")])]),
    ("metadatas", .object [])]

/-- This is the text of the document. -/
def storedText : String :=
  "\x7b\"uuid\":\"a\",\"uri\":\"/a\",\"deviceDriver\":\"zigbee\"," ++
    "\"deviceClass\":\"light\",\"deviceEndpoints\":\x7b\"1\":\x7b\"id\":\"1\"," ++
    "\"uri\":\"/a/ep/1\",\"profile\":\"light\",\"enabled\":true," ++
    "\"resources\":\x7b\x7d,\"metadatas\":\x7b\x7d\x7d\x7d," ++
    "\"deviceResources\":\x7b\"on\":\x7b\"id\":\"on\",\"uri\":\"/a/r/on\"," ++
    "\"type\":\"boolean\"\x7d\x7d,\"metadatas\":\x7b\x7d\x7d"

/-- The parser knows the texts of the samples. -/
def startUpLibrary : Library :=
  { sampleLibrary with
    cJSONParse := fun text => if text = storedText then some storedDevice else sampleLibrary.cJSONParse text }

/-- The system properties can be read, and one device is stored. -/
def cleanDocuments : Namespace :=
  AList.insert systemPropertiesKey (some "\x7b\x7d") (AList.insert "a" (some storedText) ∅)

theorem startUp_serves_sample : ∃ after,
    (StartUp.initialization cleanDocuments).perform startUpLibrary true = some (true, after) ∧
    Serves after (expected startUpLibrary cleanDocuments) ∧
    (expected startUpLibrary cleanDocuments).map Device.uuid = [some "a"] := by
  have returned : ((StartUp.initialization cleanDocuments).perform startUpLibrary true).map Prod.fst =
      some true := by
    decide +kernel
  obtain ⟨⟨result, after⟩, reached, same⟩ := Option.map_eq_some_iff.mp returned
  change result = true at same
  subst same
  have empty : startUpLibrary.stringIsEmpty none = true := by decide
  have readable : (storageLoadJSON startUpLibrary cleanDocuments systemPropertiesKey).isSome = true := by
    decide +kernel
  have texts : cleanDocuments.deviceTexts = [storedText] := by decide +kernel
  have clean : (StartUp.initialization cleanDocuments).Clean startUpLibrary := by
    refine ⟨rfl, Or.inl (Option.isSome_iff_ne_none.mp readable), ?_⟩
    change Undisturbed startUpLibrary [] cleanDocuments.deviceTexts
    rw [texts]
    refine ⟨?_, trivial⟩
    rintro permissive device _ ⟨uri, _, other⟩
    cases other
  exact ⟨after, reached, (startUp_serves_iff empty reached).mpr clean, by decide +kernel⟩

/-- Without readable system properties the stored device is not loaded. -/
def unreadableDocuments : Namespace := AList.insert "a" (some storedText) ∅

/-- The same device is stored under two keys. -/
def clashingDocuments : Namespace := AList.insert "b" (some storedText) cleanDocuments

/-- Unreadable system properties hide the stored device, a failed restore leaves no maps, and the second copy
of a device takes the locator of the first one away. -/
theorem not_startUp_serves :
    (∃ after, (StartUp.initialization unreadableDocuments).perform startUpLibrary true = some (true, after) ∧
      ¬Serves after (expected startUpLibrary unreadableDocuments)) ∧
    (∃ after, (StartUp.restore (Process.start ∅) .failedCopy cleanDocuments).perform startUpLibrary true =
        some (false, after) ∧ ¬Serves after (expected startUpLibrary cleanDocuments)) ∧
    (∃ after, (StartUp.initialization clashingDocuments).perform startUpLibrary true = some (true, after) ∧
      ¬Serves after (expected startUpLibrary clashingDocuments)) := by
  refine ⟨?_, ?_, ?_⟩
  · have returned : ((StartUp.initialization unreadableDocuments).perform startUpLibrary true).map
        (fun state => (state.1, state.2.database.map JsonDatabase.records)) = some (true, some []) := by
      decide +kernel
    obtain ⟨⟨result, after⟩, reached, same⟩ := Option.map_eq_some_iff.mp returned
    rw [Prod.mk.injEq] at same
    obtain ⟨rfl, records⟩ := same
    refine ⟨after, reached, ?_⟩
    rintro ⟨db, found, holds⟩
    rw [found, Option.map_some, holds.records, Option.some.injEq] at records
    exact absurd records (by decide +kernel)
  · refine ⟨_, rfl, ?_⟩
    rintro ⟨db, found, _⟩
    cases found
  · have returned : ((StartUp.initialization clashingDocuments).perform startUpLibrary true).map
        (fun state => (state.1, state.2.database.map fun db =>
          (db.resourcesByUri.lookup "/a", decide ((some "/a", Locator.device 0) ∈ db.items)))) =
        some (true, some (none, true)) := by
      decide +kernel
    obtain ⟨⟨result, after⟩, reached, same⟩ := Option.map_eq_some_iff.mp returned
    rw [Prod.mk.injEq] at same
    obtain ⟨rfl, state⟩ := same
    refine ⟨after, reached, ?_⟩
    rintro ⟨db, found, holds⟩
    rw [found, Option.map_some, Option.some.injEq, Prod.mk.injEq, decide_eq_true_eq] at state
    have located := (holds.exact.found "/a" (.device 0)).mpr state.2
    rw [state.1] at located
    cases located

end Barton.Database
