import BartonCore.Construction.DeviceService.Metadata
import BartonCore.Proof.Database.Atomicity
import BartonCore.Proof.Database.Locators
import BartonCore.Proof.Database.Presence
import BartonCore.Proof.DeviceService.Removal

namespace Barton.Metadata
open Database Lifecycle PersistentData

section Reads

/-- This is the stored item behind the addresses of a locator. -/
def stored (db : JsonDatabase) (target : Address × Address) : Option DeviceMetadata :=
  (db.metadataAt target.1 target.2).map Allocated.content

/-- These are the addresses behind the metadata locator of a URI. -/
def located (db : JsonDatabase) (uri : String) : Option (Address × Address) :=
  match db.resourcesByUri.lookup uri with
  | some (.metadata entry _ address) => some (entry, address)
  | _ => none

variable {db next : JsonDatabase}

theorem located_eq_some {uri : String} {target : Address × Address} : located db uri = some target ↔
    ∃ owner, db.resourcesByUri.lookup uri = some (.metadata target.1 owner target.2) := by
  unfold located
  split
  · rename_i entry owner address same
    rw [same]
    constructor
    · intro equal
      obtain rfl := Option.some.inj equal
      exact ⟨owner, rfl⟩
    · rintro ⟨_, equal⟩
      cases equal
      rfl
  · rename_i other
    constructor
    · exact nofun
    · rintro ⟨owner, equal⟩
      exact absurd equal (other _ _ _)

/-- A read succeeds with a value when the URI is accessible and locates an item with the value. -/
theorem deviceServiceGetMetadata_iff {uri value : String} :
    deviceServiceGetMetadata db (some uri) = some (some (some value)) ↔
      jsonDatabaseIsUriAccessible db uri = some true ∧
        ∃ target item, located db uri = some target ∧ stored db target = some item ∧ item.value = some value := by
  unfold deviceServiceGetMetadata
  dsimp only
  cases jsonDatabaseIsUriAccessible db uri with
  | none => simp
  | some accessible =>
      cases accessible with
      | false => simp
      | true =>
          unfold jsonDatabaseGetMetadataByUri located stored
          cases db.resourcesByUri.lookup uri with
          | none => simp
          | some locator =>
              cases locator with
              | metadata entry owner address =>
                  cases db.metadataAt entry address <;> simp
              | _ => simp

/-- The devices of the same memory are found at the same addresses. -/
theorem entryAt_memory (address : Address) : (db.entryAt address).map CacheEntry.device =
    (db.memory.find? fun cell => cell.1 == address).map Prod.snd := by
  unfold JsonDatabase.entryAt JsonDatabase.memory Cells.read
  rw [List.find?_map, Option.map_map]
  rfl

theorem stored_eq (target : Address × Address) : stored db target =
    ((db.entryAt target.1).map CacheEntry.device).bind fun device =>
      (device.metadataAt target.2).map Allocated.content := by
  unfold stored JsonDatabase.metadataAt
  cases db.entryAt target.1 <;> rfl

theorem isEndpointEnabled_eq (entry : Address) (owner : Option Address) : isEndpointEnabled db entry owner =
    match owner with
    | none => some false
    | some address => ((db.entryAt entry).map CacheEntry.device).bind fun device =>
        (device.endpointAt address).map fun endpoint => endpoint.content.enabled := by
  unfold isEndpointEnabled JsonDatabase.endpointAt
  cases owner with
  | none => rfl
  | some address => cases db.entryAt entry <;> rfl

theorem stored_same (same : SameContents db next) (target : Address × Address) :
    stored next target = stored db target := by
  rw [stored_eq, stored_eq, entryAt_memory, entryAt_memory, same.memory]

theorem isEndpointEnabled_same (same : SameContents db next) (entry : Address) (owner : Option Address) :
    isEndpointEnabled next entry owner = isEndpointEnabled db entry owner := by
  rw [isEndpointEnabled_eq, isEndpointEnabled_eq, entryAt_memory, entryAt_memory, same.memory]

theorem located_same (same : SameContents db next) (uri : String) : located next uri = located db uri := by
  unfold located
  rw [same.index]

end Reads

section Writes
variable {db next : JsonDatabase} {target : Address × Address} {item : DeviceMetadata}

/-- One item is what it says, the others are as they were, and no endpoint is enabled or disabled. -/
structure Written (db next : JsonDatabase) (target : Address × Address) (item : DeviceMetadata) : Prop where
  holds : stored next target = some item
  others : ∀ other, other ≠ target → stored next other = stored db other
  enabled : ∀ entry owner, isEndpointEnabled next entry owner = isEndpointEnabled db entry owner

theorem Written.same {final : JsonDatabase} (written : Written db next target item)
    (same : SameContents next final) : Written db final target item where
  holds := (stored_same same target).trans written.holds
  others := fun other different => (stored_same same other).trans (written.others other different)
  enabled := fun entry owner => (isEndpointEnabled_same same entry owner).trans (written.enabled entry owner)

theorem allMetadata_updateMetadata (device : CachedDevice) (address : Address)
    (update : DeviceMetadata → DeviceMetadata) :
    (device.updateMetadata address update).allMetadata = updateAt address update device.allMetadata := by
  unfold CachedDevice.allMetadata CachedDevice.updateMetadata updateAt Cells.write
  rw [List.map_append, List.map_flatMap, List.flatMap_map]

theorem metadataAt_updateMetadata (device : CachedDevice) (address other : Address)
    (update : DeviceMetadata → DeviceMetadata) :
    ((device.updateMetadata address update).metadataAt other).map Allocated.content =
      ((device.metadataAt other).map Allocated.content).map fun content =>
        if other = address then update content else content := by
  unfold CachedDevice.metadataAt
  rw [allMetadata_updateMetadata, content_updateAt]

/-- The device at an address after a write to one of the devices. -/
theorem device_updateDevice (db : JsonDatabase) (address other : Address) (update : CachedDevice → CachedDevice) :
    ((db.updateDevice address update).entryAt other).map CacheEntry.device =
      ((db.entryAt other).map CacheEntry.device).map fun device =>
        if other = address then update device else device := by
  unfold JsonDatabase.updateDevice
  rw [entryAt_updateEntry db address other (by intro _; rfl), Option.map_map, Option.map_map]
  congr 1
  funext entry
  exact apply_ite CacheEntry.device _ _ _

/-- The value of an item is written through the pointers of its locator. -/
theorem written_updateMetadata (found : stored db target = some item) (update : DeviceMetadata → DeviceMetadata) :
    Written db (db.updateDevice target.1 fun device => device.updateMetadata target.2 update) target
      (update item) := by
  have each (other : Address × Address) :
      stored (db.updateDevice target.1 fun device => device.updateMetadata target.2 update) other =
        (stored db other).map fun content => if other = target then update content else content := by
    rw [stored_eq, stored_eq, device_updateDevice]
    cases (db.entryAt other.1).map CacheEntry.device with
    | none => rfl
    | some device =>
        by_cases same : other.1 = target.1
        · rw [Option.map_some, Option.bind_some, Option.bind_some, if_pos same, metadataAt_updateMetadata]
          simp only [Prod.ext_iff, same, true_and]
        · have different : other ≠ target := fun equal => same (congrArg Prod.fst equal)
          simp [same, different, Function.comp_def]
  constructor
  · rw [each, found]
    simp
  · intro other different
    rw [each]
    simp [different]
  · intro entry owner
    rw [isEndpointEnabled_eq, isEndpointEnabled_eq, device_updateDevice]
    cases owner with
    | none => rfl
    | some address =>
        cases (db.entryAt entry).map CacheEntry.device with
        | none => rfl
        | some device =>
            by_cases same : entry = target.1
            · simp only [Option.map_some, Option.bind_some, if_pos same]
              unfold CachedDevice.endpointAt CachedDevice.updateMetadata Cells.read
              dsimp only
              rw [List.find?_map, Option.map_map]
              rfl
            · simp [same]

end Writes

section Appends
variable {db : JsonDatabase} {device : CachedDevice} {added : CachedMetadata}

/-- The device with a new item at the end of one of its metadata lists. -/
def appended (device : CachedDevice) (owner : Option Address) (added : CachedMetadata) : CachedDevice :=
  device.changeMetadata owner fun list => list ++ [added]

/-- The items at the other addresses stay in their order. -/
theorem filter_appended (owner : Option Address) {test : CachedMetadata → Bool} (refused : test added = false) :
    (appended device owner added).allMetadata.filter test = device.allMetadata.filter test := by
  have single : [added].filter test = [] := by
    rw [List.filter_cons_of_neg (by rw [refused]; exact Bool.false_ne_true), List.filter_nil]
  unfold appended CachedDevice.changeMetadata CachedDevice.allMetadata
  cases owner with
  | none =>
      dsimp only
      rw [List.filter_append, List.filter_append, List.filter_append, single, List.append_nil]
  | some address =>
      unfold CachedDevice.updateEndpoint updateAt Cells.write
      dsimp only
      rw [List.filter_append, List.filter_append, List.flatMap_map, List.filter_flatMap, List.filter_flatMap]
      congr 2
      funext endpoint
      by_cases same : endpoint.address = address
      · rw [if_pos same]
        dsimp only
        rw [List.filter_append, single, List.append_nil]
      · rw [if_neg same]

theorem metadataAt_appended_of_ne (owner : Option Address) {address : Address} (different : added.address ≠ address) :
    (appended device owner added).metadataAt address = device.metadataAt address := by
  unfold CachedDevice.metadataAt Cells.read
  rw [← List.head?_filter, ← List.head?_filter, filter_appended]
  exact beq_false_of_ne different

/-- The new item is the only one at its address. -/
theorem metadataAt_appended {owner : Option Address} {list : List CachedMetadata}
    (owned : device.metadataOf owner = some list) (fresh : device.metadataAt added.address = none) :
    (appended device owner added).metadataAt added.address = some added := by
  have inside : added ∈ (appended device owner added).allMetadata := by
    unfold appended CachedDevice.changeMetadata CachedDevice.allMetadata
    cases owner with
    | none => simp
    | some address =>
        obtain ⟨endpoint, found, _⟩ := Option.map_eq_some_iff.mp owned
        apply List.mem_append_left
        unfold CachedDevice.updateEndpoint updateAt Cells.write
        dsimp only
        rw [List.flatMap_map, List.mem_flatMap]
        refine ⟨endpoint, Cells.read_mem found, ?_⟩
        rw [if_pos (Cells.read_address found)]
        exact List.mem_append_right _ List.mem_cons_self
  have others : (appended device owner added).allMetadata.filter
      (fun item => item.address == added.address && item != added) = [] := by
    rw [filter_appended owner (by simp)]
    rw [List.filter_eq_nil_iff]
    intro item member both
    have same : item.address = added.address := by
      rw [Bool.and_eq_true, beq_iff_eq] at both
      exact both.1
    exact Cells.read_eq_none.mp fresh item member same
  cases found : (appended device owner added).metadataAt added.address with
  | none => exact absurd rfl (Cells.read_eq_none.mp found added inside)
  | some item =>
      by_contra different
      have wrong : item ≠ added := fun same => different (congrArg some same)
      have member : item ∈ (appended device owner added).allMetadata.filter
          (fun item => item.address == added.address && item != added) := by
        rw [List.mem_filter]
        refine ⟨Cells.read_mem found, ?_⟩
        rw [Bool.and_eq_true, beq_iff_eq, bne_iff_ne]
        exact ⟨Cells.read_address found, wrong⟩
      rw [others] at member
      exact absurd member List.not_mem_nil

theorem endpointAt_appended (owner : Option Address) (address : Address) :
    ((appended device owner added).endpointAt address).map (fun endpoint => endpoint.content.enabled) =
      (device.endpointAt address).map fun endpoint => endpoint.content.enabled := by
  unfold appended CachedDevice.changeMetadata
  cases owner with
  | none => rfl
  | some holder =>
      unfold CachedDevice.updateEndpoint CachedDevice.endpointAt updateAt
      dsimp only
      rw [Cells.read_write_ite address _ (by intro _; rfl), Option.map_map]
      congr 1
      funext endpoint
      by_cases same : address = holder <;> simp [same]

theorem metadataItem_mem_treeItems (entry : Address) {device : CachedDevice} {item : CachedMetadata}
    (inside : item ∈ device.allMetadata) : ∃ owner, metadataItem entry owner item ∈ treeItems entry device := by
  unfold treeItems endpointItems
  rcases List.mem_append.mp inside with deep | flat
  · obtain ⟨endpoint, held, kept⟩ := List.mem_flatMap.mp deep
    refine ⟨some endpoint.address, List.mem_cons_of_mem _ (List.mem_append_left _ ?_)⟩
    refine List.mem_flatMap.mpr ⟨endpoint, held, List.mem_cons_of_mem _ (List.mem_append_right _ ?_)⟩
    exact List.mem_map_of_mem kept
  · refine ⟨none, List.mem_cons_of_mem _ (List.mem_append_right _ (List.mem_append_right _ ?_))⟩
    exact List.mem_map_of_mem flat

/-- No metadata item of a held device has the next address. -/
theorem metadataAt_fresh (heap : Heap db) {entry : CacheEntry} (member : entry ∈ db.devices) :
    entry.device.metadataAt db.nextAddress = none := by
  unfold CachedDevice.metadataAt
  rw [Cells.read_eq_none]
  intro item inside
  obtain ⟨owner, held⟩ := metadataItem_mem_treeItems entry.address inside
  have bound := heap.allocated _ ((Heap.treeItems_sublist member).subset held)
  exact Nat.ne_of_lt bound

/-- The item behind the locator of a URI has the URI. -/
theorem stored_uri (labelled : Labelled db) {uri : String} {target : Address × Address} {item : DeviceMetadata}
    (place : located db uri = some target) (found : stored db target = some item) : item.uri = some uri := by
  obtain ⟨owner, locator⟩ := located_eq_some.mp place
  obtain ⟨cached, read, rfl⟩ := Option.map_eq_some_iff.mp found
  obtain ⟨entry, held, inside⟩ := Option.bind_eq_some_iff.mp read
  obtain ⟨holder, member⟩ := metadataItem_mem_treeItems entry.address (Cells.read_mem inside)
  have listed := (Heap.treeItems_sublist (Cells.read_mem held)).subset member
  have address : cached.address = target.2 := Cells.read_address inside
  exact (labelled uri _ locator).2 _ listed address

/-- New metadata is stored at the next address, and nothing else changes. -/
theorem written_withMetadata (heap : Heap db) {entry : CacheEntry} {owner : Option Address}
    {list : List CachedMetadata} (held : db.entryAt entry.address = some entry)
    (owned : entry.device.metadataOf owner = some list) (metadata : DeviceMetadata) :
    Written db (withMetadata db entry.address owner metadata) (entry.address, db.nextAddress) metadata := by
  have device (other : Address) : ((withMetadata db entry.address owner metadata).entryAt other).map CacheEntry.device =
      ((db.entryAt other).map CacheEntry.device).map fun device =>
        if other = entry.address then appended device owner ⟨db.nextAddress, metadata⟩ else device :=
    device_updateDevice { db with nextAddress := db.nextAddress + 1 } entry.address other _
  constructor
  · rw [stored_eq, device, held]
    simp only [Option.map_some, Option.bind_some, if_true]
    rw [metadataAt_appended owned (metadataAt_fresh heap (Cells.read_mem held))]
    rfl
  · intro other different
    rw [stored_eq, stored_eq, device]
    cases (db.entryAt other.1).map CacheEntry.device with
    | none => rfl
    | some device =>
        by_cases same : other.1 = entry.address
        · simp only [Option.map_some, Option.bind_some, if_pos same]
          rw [metadataAt_appended_of_ne]
          intro equal
          exact different (Prod.ext same equal.symm)
        · simp [same]
  · intro holder endpoint
    rw [isEndpointEnabled_eq, isEndpointEnabled_eq, device]
    cases endpoint with
    | none => rfl
    | some address =>
        cases (db.entryAt holder).map CacheEntry.device with
        | none => rfl
        | some device =>
            by_cases same : holder = entry.address
            · simp only [Option.map_some, Option.bind_some, if_pos same]
              rw [endpointAt_appended]
            · simp [same]

end Appends
section Effects
variable {lib : Library} {db next : JsonDatabase} {result success : Bool} {metadata : DeviceMetadata}

/-- A save of metadata without a locator does nothing for these reasons. -/
inductive Refused (db : JsonDatabase) (metadata : DeviceMetadata) : Prop
  | taken (uri : String) (locator : Locator) (named : metadata.uri = some uri)
      (other : db.resourcesByUri.lookup uri = some locator)
  | unknownDevice (uuid : String) (device : metadata.deviceUuid = some uuid) (unknown : db.deviceEntry uuid = none)
  | unknownEndpoint (uuid id : String) (entry : CacheEntry) (device : metadata.deviceUuid = some uuid)
      (known : db.deviceEntry uuid = some entry) (endpoint : metadata.endpointId = some id)
      (unknown : findEndpoint id entry.device.endpoints = some none)

/-- The save of the metadata creates it. -/
def Creates (db : JsonDatabase) (metadata : DeviceMetadata) : Prop :=
  ∃ entry owner, MetadataOwner db metadata entry owner

theorem Refused.not_creates (refused : Refused db metadata) : ¬Creates db metadata := by
  rintro ⟨entry, owner, creates⟩
  obtain ⟨uuid, device, known⟩ := creates.known
  cases refused with
  | taken uri locator named other =>
      obtain ⟨_, same, absent⟩ := creates.unlocated
      obtain rfl := Option.some.inj (named.symm.trans same)
      rw [absent] at other
      cases other
  | unknownDevice _ same unknown =>
      obtain rfl := Option.some.inj (device.symm.trans same)
      rw [known] at unknown
      cases unknown
  | unknownEndpoint _ id _ same holder endpoint unknown =>
      obtain rfl := Option.some.inj (device.symm.trans same)
      obtain rfl := Option.some.inj (known.symm.trans holder)
      rcases creates.chosen with ⟨none, _⟩ | ⟨_, _, some, found, _⟩
      · rw [none] at endpoint
        cases endpoint
      · obtain rfl := Option.some.inj (some.symm.trans endpoint)
        rw [found] at unknown
        cases unknown

theorem sameContents_refl (db : JsonDatabase) : SameContents db db := ⟨rfl, fun _ => rfl⟩

/-- A save of metadata without a locator is refused, or it creates the metadata. -/
theorem jsonDatabaseSaveMetadata_unlocated {uri : String}
    (named : metadata.uri = some uri) (unlocated : located db uri = none)
    (saved : jsonDatabaseSaveMetadata lib db metadata success = some (result, next)) :
    (Refused db metadata ∧ SameContents db next) ∨
      ∃ entry owner, MetadataOwner db metadata entry owner ∧
        createMetadata lib db entry.address owner metadata success = some (result, next) := by
  unfold jsonDatabaseSaveMetadata at saved
  unfold located at unlocated
  rw [named] at saved
  dsimp only at saved
  cases found : db.resourcesByUri.lookup uri with
  | some locator =>
      rw [found] at saved unlocated
      left
      refine ⟨.taken uri locator named found, ?_⟩
      cases locator with
      | metadata entry owner address => cases unlocated
      | _ =>
          cases saved
          exact sameContents_refl db
  | none =>
      rw [found] at saved
      obtain ⟨uuid, device, rest⟩ := Option.bind_eq_some_iff.mp saved
      cases known : db.deviceEntry uuid with
      | none =>
          rw [known] at rest
          cases rest
          exact Or.inl ⟨.unknownDevice uuid device known, sameContents_refl db⟩
      | some entry =>
          rw [known] at rest
          dsimp only at rest
          cases endpointId : metadata.endpointId with
          | none =>
              rw [endpointId] at rest
              exact Or.inr ⟨entry, none, ⟨⟨uri, named, found⟩, ⟨uuid, device, known⟩, Or.inl ⟨endpointId, rfl⟩⟩, rest⟩
          | some id =>
              rw [endpointId] at rest
              dsimp only at rest
              cases search : findEndpoint id entry.device.endpoints with
              | none =>
                  rw [search] at rest
                  cases rest
              | some endpoint =>
                  rw [search] at rest
                  cases endpoint with
                  | none =>
                      exact Or.inl ⟨.unknownEndpoint uuid id entry device known endpointId search,
                        (flushEntry_same lib rest).2.1⟩
                  | some endpoint =>
                      exact Or.inr ⟨entry, some endpoint.address, ⟨⟨uri, named, found⟩, ⟨uuid, device, known⟩,
                        Or.inr ⟨id, endpoint, endpointId, search, rfl⟩⟩, rest⟩

/-- A save of metadata with a locator writes its value. -/
theorem jsonDatabaseSaveMetadata_located {uri value : String}
    {target : Address × Address} {item : DeviceMetadata} (named : metadata.uri = some uri)
    (given : metadata.value = some value) (place : located db uri = some target)
    (found : stored db target = some item)
    (saved : jsonDatabaseSaveMetadata lib db metadata success = some (result, next)) :
    Written db next target { item with value := some value } ∧
      ∀ uri, next.resourcesByUri.lookup uri = db.resourcesByUri.lookup uri := by
  obtain ⟨owner, locator⟩ := located_eq_some.mp place
  obtain ⟨cached, read, _⟩ := Option.map_eq_some_iff.mp found
  obtain ⟨entry, held, inside⟩ := Option.bind_eq_some_iff.mp read
  have first : entry.address = target.1 := Cells.read_address held
  have second : cached.address = target.2 := Cells.read_address inside
  rw [← first, ← second] at locator
  rw [← first] at held
  rw [← second] at inside
  rw [saveMetadata_found lib named ⟨locator, held, inside⟩ given] at saved
  obtain ⟨_, same, _⟩ := flushEntry_same lib saved
  rw [first, second] at same
  exact ⟨(written_updateMetadata found _).same same, same.index⟩

/-- Metadata with a valid URI is created under this URI. -/
theorem createMetadata_written (heap : Heap db) {uri : String} {entry : CacheEntry}
    {owner : Option Address} (named : metadata.uri = some uri) (creates : MetadataOwner db metadata entry owner)
    (valid : metadataUriIsValid lib metadata.uri metadata.deviceUuid metadata.endpointId metadata.id = true)
    (created : createMetadata lib db entry.address owner metadata success = some (result, next)) :
    Written db next (entry.address, db.nextAddress) metadata ∧
      next.resourcesByUri.lookup uri = some (.metadata entry.address owner db.nextAddress) ∧
      ∀ other, other ≠ uri → next.resourcesByUri.lookup other = db.resourcesByUri.lookup other := by
  obtain ⟨list, owned⟩ := creates.owned heap
  obtain ⟨_, same, absent⟩ := creates.unlocated
  obtain rfl := Option.some.inj (named.symm.trans same)
  have registration : (addedMetadata lib db entry.address owner metadata).registration =
      some (uri, .metadata entry.address owner db.nextAddress) := by
    show (if metadataUriIsValid lib metadata.uri metadata.deviceUuid metadata.endpointId metadata.id = true then
      metadata.uri.map _ else none) = _
    rw [if_pos valid, named]
    rfl
  have registered : db.resourcesByUri.register [(addedMetadata lib db entry.address owner metadata).registration] =
      (true, AList.insert uri (.metadata entry.address owner db.nextAddress) db.resourcesByUri) := by
    rw [registration, Registry.Table.register, if_neg (AList.lookup_eq_none.mp absent)]
    rfl
  rcases createMetadata_cases lib created with ⟨refused, _, _⟩ | ⟨_, flushed⟩
  · rw [registered] at refused
    cases refused
  · rw [registered] at flushed
    obtain ⟨_, contents, _⟩ := flushEntry_same lib flushed
    have written := written_withMetadata heap (creates.held heap) owned metadata
    have entered : Written db { withMetadata db entry.address owner metadata with
        resourcesByUri := AList.insert uri (.metadata entry.address owner db.nextAddress) db.resourcesByUri }
        (entry.address, db.nextAddress) metadata := ⟨written.holds, written.others, written.enabled⟩
    refine ⟨entered.same contents, ?_, ?_⟩
    · exact (contents.index uri).trans (AList.lookup_insert _)
    · intro other different
      exact (contents.index other).trans (AList.lookup_insert_ne different)

end Effects

section Parsing
variable {uri : String} {parsed : MetadataUri}

/-- The library compares texts without their case and knows the empty text. -/
structure TextLaws (lib : Library) : Prop where
  empty : ∀ text, lib.stringIsEmpty (some text) = decide (text = "")
  same : ∀ text, lib.stringCompareIgnoreCase text text = true

theorem ofList_ne_empty {text : List Char} (present : text ≠ []) : String.ofList text ≠ "" := by
  intro empty
  have letters := congrArg String.toList empty
  rw [String.toList_ofList] at letters
  exact present letters

theorem scanSegment_ne_empty {input rest : List Char} {segment : String}
    (scanned : scanSegment input = some (segment, rest)) : segment ≠ "" := by
  unfold scanSegment at scanned
  split at scanned
  · cases scanned
  · rename_i present
    cases scanned
    exact ofList_ne_empty present

theorem scanWord_ne_empty {input : List Char} {word : String} (scanned : scanWord input = some word) : word ≠ "" := by
  unfold scanWord at scanned
  split at scanned
  · cases scanned
  · rename_i present
    cases scanned
    exact ofList_ne_empty present

/-- The scans read a device id and a name, and an endpoint id for the URI of an endpoint. -/
theorem parseMetadataUri_parts (scanned : parseMetadataUri uri = some parsed) : parsed.deviceId ≠ "" ∧
    parsed.name ≠ "" ∧ (parsed.endpointId = "" ↔ strstr uri endpointMarker = false) := by
  unfold parseMetadataUri at scanned
  cases marked : strstr uri endpointMarker with
  | true =>
      rw [marked, if_pos rfl] at scanned
      unfold scanEndpointMetadata at scanned
      obtain ⟨_, _, scanned⟩ := Option.bind_eq_some_iff.mp scanned
      obtain ⟨⟨deviceId, _⟩, device, scanned⟩ := Option.bind_eq_some_iff.mp scanned
      obtain ⟨_, _, scanned⟩ := Option.bind_eq_some_iff.mp scanned
      obtain ⟨⟨endpointId, _⟩, endpoint, scanned⟩ := Option.bind_eq_some_iff.mp scanned
      obtain ⟨_, _, scanned⟩ := Option.bind_eq_some_iff.mp scanned
      obtain ⟨name, word, same⟩ := Option.bind_eq_some_iff.mp scanned
      cases same
      exact ⟨scanSegment_ne_empty device, scanWord_ne_empty word, iff_of_false (scanSegment_ne_empty endpoint) nofun⟩
  | false =>
      rw [marked, if_neg Bool.false_ne_true] at scanned
      unfold scanDeviceMetadata at scanned
      obtain ⟨_, _, scanned⟩ := Option.bind_eq_some_iff.mp scanned
      obtain ⟨⟨deviceId, _⟩, device, scanned⟩ := Option.bind_eq_some_iff.mp scanned
      obtain ⟨_, _, scanned⟩ := Option.bind_eq_some_iff.mp scanned
      obtain ⟨name, word, same⟩ := Option.bind_eq_some_iff.mp scanned
      cases same
      exact ⟨scanSegment_ne_empty device, scanWord_ne_empty word, iff_of_true rfl rfl⟩

end Parsing

section Calls
variable {lib : Library} {db next : JsonDatabase} {success : Bool} {uri value : String} {parsed : MetadataUri}

/-- The URI that is built again from the parts of a scanned URI. -/
def writtenUri (lib : Library) (parsed : MetadataUri) : String :=
  metadataUriCreate (some parsed.deviceId) (endpointIdOf lib parsed) (some parsed.name)

/-- The item that the call creates when there is none. -/
def newMetadata (lib : Library) (parsed : MetadataUri) (value : String) : DeviceMetadata :=
  ⟨some parsed.name, some (writtenUri lib parsed), endpointIdOf lib parsed, some parsed.deviceId, some value⟩

/-- The call finds its value, writes it, does nothing, or creates an item. -/
inductive Effect (lib : Library) (db next : JsonDatabase) (parsed : MetadataUri) (value : String) : Prop
  | kept (target : Address × Address) (item : DeviceMetadata)
      (place : located db (writtenUri lib parsed) = some target) (found : stored db target = some item)
      (equal : item.value = some value) (same : next = db)
  | changed (target : Address × Address) (item : DeviceMetadata) (old : String)
      (place : located db (writtenUri lib parsed) = some target) (found : stored db target = some item)
      (held : item.value = some old) (different : old ≠ value)
      (written : Written db next target { item with value := some value })
      (index : ∀ uri, next.resourcesByUri.lookup uri = db.resourcesByUri.lookup uri)
  | refused (place : located db (writtenUri lib parsed) = none) (refused : Refused db (newMetadata lib parsed value))
      (same : SameContents db next)
  | created (entry : CacheEntry) (owner : Option Address)
      (creates : MetadataOwner db (newMetadata lib parsed value) entry owner)
      (written : Written db next (entry.address, db.nextAddress) (newMetadata lib parsed value))
      (locator : next.resourcesByUri.lookup (writtenUri lib parsed) =
        some (.metadata entry.address owner db.nextAddress))
      (index : ∀ other, other ≠ writtenUri lib parsed →
        next.resourcesByUri.lookup other = db.resourcesByUri.lookup other)

theorem jsonDatabaseGetMetadataByUri_some {found : Option DeviceMetadata}
    (read : jsonDatabaseGetMetadataByUri db uri = some found) : (located db uri = none ∧ found = none) ∨
      ∃ target item, located db uri = some target ∧ stored db target = some item ∧ found = some item := by
  unfold jsonDatabaseGetMetadataByUri at read
  split at read
  · rename_i entry owner address locator
    obtain ⟨cached, inside, rfl⟩ := Option.map_eq_some_iff.mp read
    have place : located db uri = some (entry, address) := located_eq_some.mpr ⟨owner, locator⟩
    exact Or.inr ⟨(entry, address), cached.content, place, by rw [stored, inside]; rfl, rfl⟩
  · rename_i other
    obtain rfl := Option.some.inj read
    refine Or.inl ⟨Option.eq_none_iff_forall_not_mem.mpr fun target found => ?_, rfl⟩
    obtain ⟨owner, locator⟩ := located_eq_some.mp found
    exact other _ _ _ locator

/-- The created item has a valid URI. -/
theorem newMetadata_valid (laws : TextLaws lib) (device : parsed.deviceId ≠ "") (name : parsed.name ≠ "") :
    metadataUriIsValid lib (newMetadata lib parsed value).uri (newMetadata lib parsed value).deviceUuid
      (newMetadata lib parsed value).endpointId (newMetadata lib parsed value).id = true := by
  have written : writtenUri lib parsed ≠ "" := by
    intro empty
    have letters := congrArg String.toList empty
    unfold writtenUri at letters
    generalize endpointIdOf lib parsed = endpointId at letters
    cases endpointId <;> simp [metadataUriCreate, endpointUriCreate] at letters
  have compared : lib.stringCompareIgnoreCase (writtenUri lib parsed) (writtenUri lib parsed) = true := laws.same _
  unfold metadataUriIsValid uriMatches newMetadata
  simp [laws.empty, device, name, written]
  exact compared

theorem setMetadata_effect (laws : TextLaws lib) (heap : Heap db) (labelled : Labelled db)
    (device : parsed.deviceId ≠ "") (name : parsed.name ≠ "")
    (set : setMetadata lib db success parsed.deviceId (endpointIdOf lib parsed) parsed.name (some value) =
      some next) : Effect lib db next parsed value := by
  obtain ⟨found, read, rest⟩ := Option.bind_eq_some_iff.mp set
  obtain ⟨item, chosen, rest⟩ := Option.bind_eq_some_iff.mp rest
  rcases jsonDatabaseGetMetadataByUri_some read with ⟨place, rfl⟩ | ⟨target, old, place, held, rfl⟩
  · obtain rfl := Option.some.inj chosen
    obtain ⟨⟨result, after⟩, saved, rfl⟩ := Option.map_eq_some_iff.mp rest
    have named : (newMetadata lib parsed value).uri = some (writtenUri lib parsed) := rfl
    rcases jsonDatabaseSaveMetadata_unlocated named place saved with
      ⟨refused, same⟩ | ⟨entry, owner, creates, created⟩
    · exact .refused place refused same
    · obtain ⟨written, locator, index⟩ :=
        createMetadata_written heap named creates (newMetadata_valid laws device name) created
      exact .created entry owner creates written locator index
  · obtain ⟨before, holds, same⟩ := Option.map_eq_some_iff.mp chosen
    by_cases equal : before = value
    · rw [if_pos equal] at same
      subst same
      obtain rfl := Option.some.inj rest
      exact .kept target old place held (equal ▸ holds) rfl
    · rw [if_neg equal] at same
      subst same
      obtain ⟨⟨result, after⟩, saved, rfl⟩ := Option.map_eq_some_iff.mp rest
      have label := stored_uri labelled place held
      have named : ({ old with value := some value } : DeviceMetadata).uri = some (writtenUri lib parsed) := label
      obtain ⟨written, index⟩ := jsonDatabaseSaveMetadata_located named rfl place held saved
      exact .changed target old before place held holds equal written index

/-- The call returns true after it has scanned an accessible URI, whatever becomes of the save. -/
theorem deviceServiceSetMetadata_true
    (returned : deviceServiceSetMetadata lib db success (some uri) (some value) = some (true, next)) :
    jsonDatabaseIsUriAccessible db uri = some true ∧ ∃ parsed, parseMetadataUri uri = some parsed ∧
      setMetadata lib db success parsed.deviceId (endpointIdOf lib parsed) parsed.name (some value) = some next := by
  obtain ⟨accessible, answered, rest⟩ := Option.bind_eq_some_iff.mp returned
  cases accessible with
  | false => cases rest
  | true =>
      refine ⟨answered, ?_⟩
      rw [if_neg (by decide)] at rest
      cases scanned : parseMetadataUri uri with
      | none =>
          rw [scanned] at rest
          cases rest
      | some parsed =>
          rw [scanned] at rest
          obtain ⟨after, set, same⟩ := Option.map_eq_some_iff.mp rest
          cases same
          exact ⟨parsed, rfl, set⟩

end Calls

section Threads
variable {lib : Library} {drivers : Drivers} {service final : Service} {thread : List Frame} {result : Bool}

/-- A thread that no other thread interrupts returns. -/
def Finishes (lib : Library) (drivers : Drivers) (service : Service) (thread : List Frame) (result : Bool)
    (final : Service) : Prop :=
  ∃ schedule, Lifecycle.run lib drivers ⟨service, [thread]⟩ schedule = some ⟨final, [[.returned result]]⟩

/-- The thread has returned, or it makes its next move. -/
theorem Finishes.cases (finishes : Finishes lib drivers service thread result final) :
    (thread = [.returned result] ∧ service = final) ∨ ∃ outcome next frames,
      move lib drivers service thread outcome = some (next, frames) ∧ Finishes lib drivers next frames result final := by
  obtain ⟨schedule, ran⟩ := finishes
  cases schedule with
  | nil =>
      cases Option.some.inj ran
      exact Or.inl ⟨rfl, rfl⟩
  | cons input rest =>
      obtain ⟨current, stepped, later⟩ := Option.bind_eq_some_iff.mp ran
      obtain ⟨found, member, rest⟩ := Option.bind_eq_some_iff.mp stepped
      obtain ⟨⟨next, frames⟩, moved, rfl⟩ := Option.map_eq_some_iff.mp rest
      obtain ⟨position, same⟩ := List.getElem?_eq_some_iff.mp member
      have first : input.1 = 0 := Nat.lt_one_iff.mp position
      simp only [first, List.getElem_cons_zero] at same
      subst same
      simp only [first, List.set_cons_zero] at later
      exact Or.inr ⟨input.2, next, frames, moved, ⟨_, later⟩⟩

theorem Finishes.returned {answer : Bool} (finishes : Finishes lib drivers service [.returned answer] result final) :
    answer = result ∧ service = final := by
  rcases finishes.cases with ⟨same, equal⟩ | ⟨outcome, next, frames, moved, _⟩
  · cases same
    exact ⟨rfl, equal⟩
  · cases moved

/-- A thread that has not returned moves its first frame. -/
theorem Finishes.move {frame : Frame} {rest : List Frame} (pending : ∀ answer, frame ≠ .returned answer)
    (finishes : Finishes lib drivers service (frame :: rest) result final) :
    ∃ outcome next frames, frameMove lib drivers service frame outcome = some (next, frames) ∧
      Finishes lib drivers next (frames ++ rest) result final := by
  rcases finishes.cases with ⟨same, _⟩ | ⟨outcome, next, frames, moved, later⟩
  · rw [List.cons.injEq] at same
    exact absurd same.1 (pending result)
  · obtain ⟨made, taken, rfl⟩ := move_frame pending moved
    exact ⟨outcome, next, made, taken, later⟩

/-- The frames of `setMetadata` leave the database that the call leaves. -/
theorem Finishes.setMetadata {deviceUuid name : String} {endpointId value : Option String}
    (finishes : Finishes lib drivers service [.setMetadata (some deviceUuid) endpointId (some name) value,
      .returned true] result final) :
    result = true ∧ ∃ stored, Metadata.setMetadata lib service.db stored deviceUuid endpointId name value =
      some final.db := by
  obtain ⟨outcome, next, frames, moved, later⟩ := finishes.move (by intro _; exact nofun)
  cases value with
  | none =>
      cases Option.some.inj moved
      obtain ⟨rfl, rfl⟩ := Finishes.returned later
      exact ⟨rfl, true, rfl⟩
  | some value =>
      obtain ⟨found, read, rest⟩ := Option.bind_eq_some_iff.mp moved
      obtain ⟨item, chosen, same⟩ := Option.map_eq_some_iff.mp rest
      cases same
      cases item with
      | none =>
          obtain ⟨rfl, rfl⟩ := Finishes.returned later
          refine ⟨rfl, true, ?_⟩
          unfold Metadata.setMetadata
          dsimp only
          rw [read, Option.bind_some, chosen]
          rfl
      | some metadata =>
          obtain ⟨saving, after, frames, saved, later⟩ := Finishes.move (by intro _; exact nofun) later
          obtain ⟨⟨success, db⟩, stored, same⟩ := Option.map_eq_some_iff.mp saved
          cases same
          obtain ⟨announcing, told, frames, announced, later⟩ := Finishes.move (by intro _; exact nofun) later
          cases Option.some.inj announced
          obtain ⟨rfl, rfl⟩ := Finishes.returned later
          refine ⟨rfl, saving.stored, ?_⟩
          unfold Metadata.setMetadata
          dsimp only
          rw [read, Option.bind_some, chosen, Option.bind_some]
          dsimp only
          rw [stored]
          rfl

/-- A thread that runs alone leaves what the call leaves. -/
theorem Finishes.setMetadataUri {uri value : Option String}
    (finishes : Finishes lib drivers service [.setMetadataUri uri value] result final) :
    ∃ stored, deviceServiceSetMetadata lib service.db stored uri value = some (result, final.db) := by
  obtain ⟨outcome, next, frames, moved, later⟩ := finishes.move (by intro _; exact nofun)
  rw [List.append_nil] at later
  cases uri with
  | none =>
      cases Option.some.inj moved
      obtain ⟨rfl, rfl⟩ := later.returned
      exact ⟨true, rfl⟩
  | some uri =>
      obtain ⟨accessible, answered, same⟩ := Option.map_eq_some_iff.mp moved
      cases same
      unfold deviceServiceSetMetadata
      dsimp only
      simp only [answered, Option.bind_some]
      cases accessible with
      | false =>
          obtain ⟨rfl, rfl⟩ := later.returned
          exact ⟨true, rfl⟩
      | true =>
          rw [if_pos rfl] at later
          unfold setParsedMetadata at later
          cases scanned : parseMetadataUri uri with
          | none =>
              rw [scanned] at later
              obtain ⟨rfl, rfl⟩ := later.returned
              exact ⟨true, rfl⟩
          | some parsed =>
              rw [scanned] at later
              obtain ⟨rfl, stored, set⟩ := later.setMetadata
              refine ⟨stored, ?_⟩
              rw [if_neg (by decide)]
              dsimp only
              unfold endpointIdOf
              rw [set]
              rfl

end Threads

section Law
variable {lib : Library} {db next : JsonDatabase} {success : Bool} {uri value : String} {parsed : MetadataUri}
  {target : Address × Address}

/-- Every metadata item but the one behind the URI is as it was. -/
def OthersKept (db next : JsonDatabase) (uri : String) : Prop :=
  ∀ other, located next uri ≠ some other → stored next other = stored db other

/-- The value of the item behind the addresses of a locator. -/
def valueAt (db : JsonDatabase) (target : Address × Address) : Option String :=
  (stored db target).bind DeviceMetadata.value

/-- The scan reads the whole URI, which is the URI of an item or a free one of a known device. Or the scan reads a part
of the URI, the item has the value already, and the item of the part is not touched. -/
def Settable (lib : Library) (db : JsonDatabase) (uri value : String) (parsed : MetadataUri) : Prop :=
  (writtenUri lib parsed = uri ∧ ((located db uri).isSome ∨
    (db.resourcesByUri.lookup uri = none ∧ db.has parsed.deviceId = true))) ∨
  (writtenUri lib parsed ≠ uri ∧ (∃ target, located db uri = some target ∧ valueAt db target = some value) ∧
    (∀ other, located db (writtenUri lib parsed) = some other → valueAt db other = some value) ∧
    ¬Creates db (newMetadata lib parsed value))

/-- Whether the URI of an item is accessible depends on the item and on its endpoint. -/
theorem jsonDatabaseIsUriAccessible_metadata {owner : Option Address}
    (locator : db.resourcesByUri.lookup uri = some (.metadata target.1 owner target.2)) :
    jsonDatabaseIsUriAccessible db uri = (stored db target).bind fun item =>
      if item.endpointId.isSome then isEndpointEnabled db target.1 owner else some true := by
  unfold jsonDatabaseIsUriAccessible stored
  rw [locator]
  dsimp only
  cases db.metadataAt target.1 target.2 <;> rfl

/-- A URI stays accessible when its item keeps its endpoint. -/
theorem accessible_of_located {item after : DeviceMetadata}
    (accessible : jsonDatabaseIsUriAccessible db uri = some true) (place : located db uri = some target)
    (found : stored db target = some item) (holds : stored next target = some after)
    (endpoint : after.endpointId = item.endpointId) (index : next.resourcesByUri.lookup uri = db.resourcesByUri.lookup uri)
    (enabled : ∀ entry owner, isEndpointEnabled next entry owner = isEndpointEnabled db entry owner) :
    jsonDatabaseIsUriAccessible next uri = some true := by
  obtain ⟨owner, locator⟩ := located_eq_some.mp place
  rw [jsonDatabaseIsUriAccessible_metadata locator, found] at accessible
  rw [jsonDatabaseIsUriAccessible_metadata (index.trans locator), holds]
  rw [Option.bind_some] at accessible ⊢
  rw [endpoint, enabled]
  exact accessible

theorem find?_of_findEndpoint {id : String} {endpoints : List CachedEndpoint} {found : Option CachedEndpoint}
    (searched : findEndpoint id endpoints = some found) :
    (endpoints.find? fun endpoint => endpoint.content.id == some id) = found := by
  induction endpoints with
  | nil => exact Option.some.inj searched
  | cons endpoint rest hypothesis =>
      obtain ⟨name, named, others⟩ := Option.bind_eq_some_iff.mp searched
      by_cases same : name = id
      · rw [if_pos same] at others
        rw [List.find?_cons_of_pos (by rw [named, same]; exact beq_self_eq_true _)]
        exact Option.some.inj others
      · rw [if_neg same] at others
        rw [List.find?_cons_of_neg (by rw [named]; simpa using same)]
        exact hypothesis others

/-- The free URI of an endpoint is accessible when the endpoint is there and enabled. -/
theorem endpoint_of_accessible (laws : TextLaws lib) (accessible : jsonDatabaseIsUriAccessible db uri = some true)
    (free : db.resourcesByUri.lookup uri = none) (scanned : parseMetadataUri uri = some parsed) {entry : CacheEntry}
    (known : db.deviceEntry parsed.deviceId = some entry) {id : String} (given : endpointIdOf lib parsed = some id)
    {found : Option CachedEndpoint} (searched : findEndpoint id entry.device.endpoints = some found) :
    ∃ endpoint, found = some endpoint ∧ endpoint.content.enabled = true := by
  have parts := parseMetadataUri_parts scanned
  unfold endpointIdOf at given
  rw [laws.empty] at given
  by_cases empty : parsed.endpointId = ""
  · rw [if_pos (decide_eq_true empty)] at given
    cases given
  · rw [if_neg (by simpa using empty)] at given
    obtain rfl := Option.some.inj given
    have marked : strstr uri endpointMarker = true := by
      rw [← Bool.not_eq_false]
      exact fun plain => empty (parts.2.2.mpr plain)
    unfold jsonDatabaseIsUriAccessible isMetadataAccessible at accessible
    rw [free] at accessible
    dsimp only at accessible
    rw [scanned, marked] at accessible
    by_cases metadata : strstr uri metadataMarker = true
    · rw [if_pos metadata] at accessible
      dsimp only at accessible
      rw [if_pos rfl] at accessible
      unfold jsonDatabaseGetEndpointById at accessible
      dsimp only at accessible
      rw [Option.map_some, Option.map_some, known, Option.bind_some, find?_of_findEndpoint searched] at accessible
      cases found with
      | none => cases accessible
      | some endpoint => exact ⟨endpoint, rfl, Option.some.inj accessible⟩
    · rw [if_neg metadata] at accessible
      cases accessible

theorem valueAt_eq_some :
    valueAt db target = some value ↔ ∃ item, stored db target = some item ∧ item.value = some value :=
  Option.bind_eq_some_iff

/-- When the items and the index are as they were, the read succeeds for an item that had the value. -/
theorem get_same (accessible : jsonDatabaseIsUriAccessible db uri = some true) (same : SameContents db next) :
    deviceServiceGetMetadata next (some uri) = some (some (some value)) ↔
      ∃ target, located db uri = some target ∧ valueAt db target = some value := by
  rw [deviceServiceGetMetadata_iff]
  constructor
  · rintro ⟨_, target, item, place, found, held⟩
    rw [located_same same] at place
    rw [stored_same same] at found
    exact ⟨target, place, valueAt_eq_some.mpr ⟨item, found, held⟩⟩
  · rintro ⟨target, place, held⟩
    obtain ⟨item, found, value⟩ := valueAt_eq_some.mp held
    have still := (stored_same same target).trans found
    exact ⟨accessible_of_located accessible place found still rfl (same.index uri) (isEndpointEnabled_same same),
      target, item, (located_same same uri).trans place, still, value⟩

theorem othersKept_same (same : SameContents db next) : OthersKept db next uri :=
  fun other _ => stored_same same other

/-- A call that finds its value or is refused changes nothing. -/
theorem Effect.law_same (accessible : jsonDatabaseIsUriAccessible db uri = some true) (same : SameContents db next)
    (settable : Settable lib db uri value parsed ↔
      ∃ target, located db uri = some target ∧ valueAt db target = some value) :
    (deviceServiceGetMetadata next (some uri) = some (some (some value)) ∧ OthersKept db next uri) ↔
      Settable lib db uri value parsed := by
  rw [settable, get_same accessible same]
  exact and_iff_left (othersKept_same same)

theorem Effect.law_kept (accessible : jsonDatabaseIsUriAccessible db uri = some true)
    {item : DeviceMetadata} (place : located db (writtenUri lib parsed) = some target)
    (found : stored db target = some item) (equal : item.value = some value) :
    (deviceServiceGetMetadata db (some uri) = some (some (some value)) ∧ OthersKept db db uri) ↔
      Settable lib db uri value parsed := by
  apply Effect.law_same accessible (sameContents_refl db)
  have held := valueAt_eq_some.mpr ⟨item, found, equal⟩
  unfold Settable
  by_cases whole : writtenUri lib parsed = uri
  · rw [whole] at place ⊢
    simp [place, held]
  · have exists_locator : ¬Creates db (newMetadata lib parsed value) := by
      rintro ⟨entry, owner, creates⟩
      obtain ⟨owner, locator⟩ := located_eq_some.mp place
      obtain ⟨_, same, absent⟩ := creates.unlocated
      obtain rfl := Option.some.inj same
      rw [locator] at absent
      cases absent
    simp [whole, place, held, exists_locator]

theorem Effect.law_refused (laws : TextLaws lib) (accessible : jsonDatabaseIsUriAccessible db uri = some true)
    (scanned : parseMetadataUri uri = some parsed) (place : located db (writtenUri lib parsed) = none)
    (refused : Refused db (newMetadata lib parsed value)) (same : SameContents db next) :
    (deviceServiceGetMetadata next (some uri) = some (some (some value)) ∧ OthersKept db next uri) ↔
      Settable lib db uri value parsed := by
  apply Effect.law_same accessible same
  unfold Settable
  by_cases whole : writtenUri lib parsed = uri
  · have unknown : ¬(db.resourcesByUri.lookup uri = none ∧ db.has parsed.deviceId = true) := by
      rintro ⟨free, has⟩
      obtain ⟨entry, known⟩ := Option.isSome_iff_exists.mp has
      cases refused with
      | taken name locator named other =>
          obtain rfl := Option.some.inj named
          rw [whole, free] at other
          cases other
      | unknownDevice uuid device unknown =>
          obtain rfl := Option.some.inj device
          rw [known] at unknown
          cases unknown
      | unknownEndpoint uuid id holder device held endpoint unknown =>
          obtain rfl := Option.some.inj device
          obtain rfl := Option.some.inj (known.symm.trans held)
          obtain ⟨_, impossible, _⟩ := endpoint_of_accessible laws accessible free scanned known endpoint unknown
          cases impossible
    rw [whole] at place
    simp [whole, place, unknown]
  · simp [whole, place, refused.not_creates]

theorem Effect.law_changed (labelled : Labelled db) (accessible : jsonDatabaseIsUriAccessible db uri = some true)
    {item : DeviceMetadata} {old : String}
    (place : located db (writtenUri lib parsed) = some target) (found : stored db target = some item)
    (held : item.value = some old) (different : old ≠ value)
    (written : Written db next target { item with value := some value })
    (index : ∀ uri, next.resourcesByUri.lookup uri = db.resourcesByUri.lookup uri) :
    (deviceServiceGetMetadata next (some uri) = some (some (some value)) ∧ OthersKept db next uri) ↔
      Settable lib db uri value parsed := by
  have sameLocated (uri : String) : located next uri = located db uri := by
    unfold located
    rw [index]
  by_cases whole : writtenUri lib parsed = uri
  · rw [whole] at place
    apply iff_of_true
    · constructor
      · rw [deviceServiceGetMetadata_iff]
        exact ⟨accessible_of_located accessible place found written.holds rfl (index uri) written.enabled, target, _,
          (sameLocated uri).trans place, written.holds, rfl⟩
      · intro other elsewhere
        apply written.others
        rintro rfl
        exact elsewhere ((sameLocated uri).trans place)
    · exact Or.inl ⟨whole, Or.inl (by rw [place]; rfl)⟩
  · apply iff_of_false
    · rintro ⟨_, others⟩
      have apart : located next uri ≠ some target := by
        intro same
        rw [sameLocated] at same
        have names := (stored_uri labelled place found).symm.trans (stored_uri labelled same found)
        exact whole (Option.some.inj names)
      have kept := others target apart
      rw [written.holds, found, Option.some.injEq] at kept
      have values := congrArg DeviceMetadata.value kept
      rw [held] at values
      exact different (Option.some.inj values).symm
    · rintro (⟨same, _⟩ | ⟨_, _, others, _⟩)
      · exact whole same
      · obtain ⟨content, read, equal⟩ := valueAt_eq_some.mp (others target place)
        obtain rfl := Option.some.inj (found.symm.trans read)
        exact different (Option.some.inj (held.symm.trans equal))

theorem Effect.law_created (laws : TextLaws lib) (heap : Heap db) (labelled : Labelled db)
    (accessible : jsonDatabaseIsUriAccessible db uri = some true) (scanned : parseMetadataUri uri = some parsed)
    {entry : CacheEntry} {owner : Option Address} (creates : MetadataOwner db (newMetadata lib parsed value) entry owner)
    (written : Written db next (entry.address, db.nextAddress) (newMetadata lib parsed value))
    (locator : next.resourcesByUri.lookup (writtenUri lib parsed) =
      some (.metadata entry.address owner db.nextAddress))
    (index : ∀ other, other ≠ writtenUri lib parsed →
      next.resourcesByUri.lookup other = db.resourcesByUri.lookup other) :
    (deviceServiceGetMetadata next (some uri) = some (some (some value)) ∧ OthersKept db next uri) ↔
      Settable lib db uri value parsed := by
  obtain ⟨uuid, device, known⟩ := creates.known
  obtain rfl := Option.some.inj device
  by_cases whole : writtenUri lib parsed = uri
  · obtain ⟨_, named, free⟩ := creates.unlocated
    obtain rfl := Option.some.inj named
    rw [whole] at locator free
    have enabled : (if (newMetadata lib parsed value).endpointId.isSome = true then
        isEndpointEnabled db entry.address owner else some true) = some true := by
      rcases creates.chosen with ⟨none, _⟩ | ⟨id, endpoint, given, searched, rfl⟩
      · rw [none]
        rfl
      · rw [given, Option.isSome_some, if_pos rfl]
        obtain ⟨_, same, enabled⟩ := endpoint_of_accessible laws accessible free scanned known given searched
        obtain rfl := Option.some.inj same
        have read : entry.device.endpointAt endpoint.address = some endpoint :=
          Cells.read_of_mem (heap.endpoints_distinct (Cells.read_mem known)) (findEndpoint_mem searched)
        unfold isEndpointEnabled JsonDatabase.endpointAt
        dsimp only
        rw [creates.held heap, Option.bind_some, read, Option.map_some, enabled]
    have place : located next uri = some (entry.address, db.nextAddress) := by
      unfold located
      rw [locator]
    apply iff_of_true
    · constructor
      · rw [deviceServiceGetMetadata_iff]
        refine ⟨?_, _, _, place, written.holds, rfl⟩
        have leads : next.resourcesByUri.lookup uri = some (.metadata (entry.address, db.nextAddress).1 owner
          (entry.address, db.nextAddress).2) := locator
        rw [jsonDatabaseIsUriAccessible_metadata leads, written.holds, Option.bind_some, written.enabled]
        exact enabled
      · intro other elsewhere
        apply written.others
        rintro rfl
        exact elsewhere place
    · exact Or.inl ⟨whole, Or.inr ⟨free, Option.isSome_of_eq_some known⟩⟩
  · have untouched : located next uri = located db uri := by
      unfold located
      rw [index uri (Ne.symm whole)]
    apply iff_of_false
    · rintro ⟨_, others⟩
      have apart : located next uri ≠ some (entry.address, db.nextAddress) := by
        rw [untouched]
        intro same
        obtain ⟨_, old⟩ := located_eq_some.mp same
        exact Nat.lt_irrefl _ (labelled uri _ old).1
      have kept := others _ apart
      rw [written.holds, stored_eq, creates.held heap, Option.map_some, Option.bind_some,
        metadataAt_fresh heap (Cells.read_mem known)] at kept
      cases kept
    · rintro (⟨same, _⟩ | ⟨_, _, _, nothing⟩)
      · exact whole same
      · exact nothing ⟨entry, owner, creates⟩

/-- After a call that returned true the value is read back and the other items are as they were exactly when the whole
URI was scanned and leads to an item or a known device, or when there was nothing to do. -/
theorem setMetadata_get_iff (laws : TextLaws lib) {storage : Storage} {calls : List (Call × Bool)}
    (reached : Database.run lib (JsonDatabase.empty storage) calls = some db)
    (returned : deviceServiceSetMetadata lib db success (some uri) (some value) = some (true, next)) :
    (deviceServiceGetMetadata next (some uri) = some (some (some value)) ∧ OthersKept db next uri) ↔
      ∃ parsed, parseMetadataUri uri = some parsed ∧ Settable lib db uri value parsed := by
  obtain ⟨heap, labelled⟩ := run_labelled lib reached
  obtain ⟨accessible, parsed, scanned, set⟩ := deviceServiceSetMetadata_true returned
  have parts := parseMetadataUri_parts scanned
  have law : (deviceServiceGetMetadata next (some uri) = some (some (some value)) ∧ OthersKept db next uri) ↔
      Settable lib db uri value parsed := by
    cases setMetadata_effect laws heap labelled parts.1 parts.2.1 set with
    | kept target item place found equal same =>
        subst same
        exact Effect.law_kept accessible place found equal
    | changed target item old place found held different written index =>
        exact Effect.law_changed labelled accessible place found held different written index
    | refused place refused same => exact Effect.law_refused laws accessible scanned place refused same
    | created entry owner creates written locator index =>
        exact Effect.law_created laws heap labelled accessible scanned creates written locator index
  rw [law]
  constructor
  · exact fun settable => ⟨parsed, scanned, settable⟩
  · rintro ⟨other, same, settable⟩
    obtain rfl := Option.some.inj (scanned.symm.trans same)
    exact settable

end Law

section Examples

theorem sampleLibrary_laws : TextLaws sampleLibrary where
  empty := fun text => by
    show (text == "") = decide (text = "")
    rfl
  same := fun text => beq_self_eq_true _

/-- The database holds the sample device. -/
def sampleMetadataDatabase : JsonDatabase :=
  (Database.run sampleLibrary (JsonDatabase.empty ∅) [(.addDevice sampleDevice, true)]).getD (JsonDatabase.empty ∅)

theorem setMetadata_get_iff_sample : ∃ next,
    deviceServiceSetMetadata sampleLibrary sampleMetadataDatabase true (some "/a/m/x") (some "v") = some (true, next) ∧
      deviceServiceGetMetadata next (some "/a/m/x") = some (some (some "v")) ∧
      OthersKept sampleMetadataDatabase next "/a/m/x" := by
  have computed : (deviceServiceSetMetadata sampleLibrary sampleMetadataDatabase true (some "/a/m/x")
      (some "v")).map Prod.fst = some true := by decide +kernel
  obtain ⟨⟨result, next⟩, returned, same⟩ := Option.map_eq_some_iff.mp computed
  obtain rfl : result = true := same
  have reached : Database.run sampleLibrary (JsonDatabase.empty ∅) [(.addDevice sampleDevice, true)] =
      some sampleMetadataDatabase := by rfl
  refine ⟨next, returned, (setMetadata_get_iff sampleLibrary_laws reached returned).mpr ?_⟩
  refine ⟨⟨"a", "", "x"⟩, by decide +kernel, Or.inl ⟨by decide +kernel, Or.inr ⟨by decide +kernel, by decide +kernel⟩⟩⟩

/-- The uuid of this device has the form of a metadata URI. -/
def oddDevice : DeviceRecord := { sampleDevice with uuid := some "a/m/b", uri := some "/a/m/b" }

/-- What a read of the URI gives after a call that returned true. -/
def setThenGet (calls : List (Call × Bool)) (uri value read : String) : Option (Option (Option String)) :=
  (Database.run sampleLibrary (JsonDatabase.empty ∅) calls).bind fun db =>
    (deviceServiceSetMetadata sampleLibrary db true (some uri) (some value)).bind fun set =>
      if set.1 then deviceServiceGetMetadata set.2 (some read) else none

/-- The call returns true for an unknown device, for a name with a blank, and for the URI of a device, and the value is
not read back. -/
theorem not_setMetadata_get : setThenGet [] "/unknown/m/x" "v" "/unknown/m/x" = some (some none) ∧
    setThenGet [(.addDevice sampleDevice, true)] "/a/m/x y" "v" "/a/m/x y" = some (some none) ∧
    setThenGet [(.addDevice sampleDevice, true)] "/a/m/x y" "v" "/a/m/x" = some (some (some "v")) ∧
    setThenGet [(.addDevice oddDevice, true)] "/a/m/b" "v" "/a/m/b" = some (some none) := by
  decide +kernel

end Examples
end Barton.Metadata
