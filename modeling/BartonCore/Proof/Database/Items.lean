import BartonCore.Construction.Database.Operations

namespace Barton.Database
open Registry

/-- An item pairs the URI of an object with the locator that belongs to it. -/
abbrev Item := Option String × Locator

/-- The last pointer of a locator is the object itself. -/
def Locator.target : Locator → Address
  | .device address => address
  | .endpoint _ address => address
  | .resource _ _ address => address
  | .metadata _ _ address => address

section
variable (entry : Address)

def resourceItem (owner : Option Address) (resource : CachedResource) : Item :=
  (resource.content.uri, .resource entry owner resource.address)

def metadataItem (owner : Option Address) (metadata : CachedMetadata) : Item :=
  (metadata.content.uri, .metadata entry owner metadata.address)

/-- These are the items of one endpoint and of its lists. -/
def endpointItems (endpoint : CachedEndpoint) : List Item :=
  (endpoint.content.uri, .endpoint entry endpoint.address) ::
    (endpoint.content.resources.map (resourceItem entry (some endpoint.address)) ++
      endpoint.content.metadata.map (metadataItem entry (some endpoint.address)))

/-- These are the items of one device tree. -/
def treeItems (device : CachedDevice) : List Item :=
  (device.uri, .device entry) ::
    (device.endpoints.flatMap (endpointItems entry) ++
      (device.resources.map (resourceItem entry none) ++
        device.metadata.map (metadataItem entry none)))

end

/-- The memory of an entry is the entry without its dirty flag. -/
def CacheEntry.memory (entry : CacheEntry) : Address × CachedDevice := (entry.address, entry.device)

def JsonDatabase.memory (db : JsonDatabase) : List (Address × CachedDevice) :=
  db.devices.map CacheEntry.memory

/-- These are the items of every device that the database holds. -/
def JsonDatabase.items (db : JsonDatabase) : List Item :=
  db.memory.flatMap fun entry => treeItems entry.1 entry.2

/-- A checked item carries the answer of its URI check. -/
abbrev Check := Item × Bool

/-- The put of an item that fails its check is refused. -/
def Check.registration (check : Check) : Option (String × Locator) :=
  if check.2 then check.1.1.map fun uri => (uri, check.1.2) else none

section
variable (lib : Library) (entry : Address)

def resourceCheck (owner : Option Address) (resource : CachedResource) : Check :=
  (resourceItem entry owner resource, resourceUriIsValid lib resource.content.uri
    resource.content.deviceUuid resource.content.endpointId resource.content.id)

def metadataCheck (owner : Option Address) (metadata : CachedMetadata) : Check :=
  (metadataItem entry owner metadata, metadataUriIsValid lib metadata.content.uri
    metadata.content.deviceUuid metadata.content.endpointId metadata.content.id)

def endpointCheck (endpoint : CachedEndpoint) : Check :=
  ((endpoint.content.uri, .endpoint entry endpoint.address),
    endpointUriIsValid lib endpoint.content.uri endpoint.content.deviceUuid endpoint.content.id)

/-- These checks are made by `addEndpointURIEntries` in its order. -/
def endpointChecks (endpoint : CachedEndpoint) : List Check :=
  endpointCheck lib entry endpoint ::
    (endpoint.content.resources.map (resourceCheck lib entry (some endpoint.address)) ++
      endpoint.content.metadata.map (metadataCheck lib entry (some endpoint.address)))

/-- These checks are made by `addDeviceURIEntries` in its order. -/
def treeChecks (device : CachedDevice) : List Check :=
  ((device.uri, .device entry), deviceUriIsValid lib device.uri device.uuid) ::
    (device.endpoints.flatMap (endpointChecks lib entry) ++
      (device.resources.map (resourceCheck lib entry none) ++
        device.metadata.map (metadataCheck lib entry none)))

@[simp] theorem endpointChecks_items (endpoint : CachedEndpoint) :
    (endpointChecks lib entry endpoint).map Prod.fst = endpointItems entry endpoint := by
  simp [endpointChecks, endpointItems, endpointCheck, resourceCheck, metadataCheck, Function.comp_def]

@[simp] theorem treeChecks_items (device : CachedDevice) :
    (treeChecks lib entry device).map Prod.fst = treeItems entry device := by
  simp [treeChecks, treeItems, resourceCheck, metadataCheck, Function.comp_def, List.map_flatMap]

theorem addURIEntry_eq (index : UriIndex) (check : Check) :
    addURIEntry index check.1.1 check.2 check.1.2 = index.register [check.registration] := by
  obtain ⟨⟨uri, locator⟩, valid⟩ := check
  cases uri with
  | none => cases valid <;> rfl
  | some uri =>
      cases valid with
      | false => rfl
      | true => simp [addURIEntry, Check.registration, Table.put, Table.register]

theorem addDeviceResourceURIEntry_eq (owner : Option Address) (index : UriIndex) (resource : CachedResource) :
    addDeviceResourceURIEntry lib entry owner index resource =
      index.register [(resourceCheck lib entry owner resource).registration] :=
  addURIEntry_eq index (resourceCheck lib entry owner resource)

theorem addDeviceMetadataURIEntry_eq (owner : Option Address) (index : UriIndex) (metadata : CachedMetadata) :
    addDeviceMetadataURIEntry lib entry owner index metadata =
      index.register [(metadataCheck lib entry owner metadata).registration] :=
  addURIEntry_eq index (metadataCheck lib entry owner metadata)

/-- A loop over registrations is the registration of all their entries. -/
theorem addEach_eq {Entry : Type} (add : UriIndex → Entry → Bool × UriIndex) (checks : Entry → List Check)
    (each : ∀ index item, add index item = index.register ((checks item).map Check.registration))
    (index : UriIndex) (items : List Entry) :
    addEach add index items = index.register ((items.flatMap checks).map Check.registration) := by
  induction items generalizing index with
  | nil => rfl
  | cons item rest ih =>
      rw [List.flatMap_cons, List.map_append, Table.register_append, addEach, each]
      cases result : index.register ((checks item).map Check.registration) with
      | mk success next => cases success <;> simp [ih]

/-- A loop over single entries is one registration. -/
theorem addEach_map {Entry : Type} (add : UriIndex → Entry → Bool × UriIndex) (check : Entry → Check)
    (each : ∀ index item, add index item = index.register [(check item).registration])
    (index : UriIndex) (items : List Entry) :
    addEach add index items = index.register ((items.map check).map Check.registration) := by
  rw [addEach_eq add (fun item => [check item]) each, ← List.map_eq_flatMap]

/-- The endpoint loops are one registration. -/
theorem addEndpointURIEntries_eq (index : UriIndex) (endpoint : CachedEndpoint) :
    addEndpointURIEntries lib entry index endpoint =
      index.register ((endpointChecks lib entry endpoint).map Check.registration) := by
  have first : addURIEntry index endpoint.content.uri
      (endpointUriIsValid lib endpoint.content.uri endpoint.content.deviceUuid endpoint.content.id)
      (.endpoint entry endpoint.address) =
        index.register [(endpointCheck lib entry endpoint).registration] :=
    addURIEntry_eq index (endpointCheck lib entry endpoint)
  have resources := addEach_map _ _
    (addDeviceResourceURIEntry_eq lib entry (some endpoint.address))
  have metadata := addEach_map _ _
    (addDeviceMetadataURIEntry_eq lib entry (some endpoint.address))
  have split : (endpointChecks lib entry endpoint).map Check.registration =
      [(endpointCheck lib entry endpoint).registration] ++
        ((endpoint.content.resources.map (resourceCheck lib entry (some endpoint.address))).map
          Check.registration ++
        (endpoint.content.metadata.map (metadataCheck lib entry (some endpoint.address))).map
          Check.registration) := by
    simp [endpointChecks]
  rw [split, Table.register_append]
  unfold addEndpointURIEntries
  rw [first]
  cases index.register [(endpointCheck lib entry endpoint).registration] with
  | mk success next =>
      cases success with
      | false => rfl
      | true =>
          simp only [↓reduceIte]
          rw [Table.register_append, ← resources]
          cases addEach (addDeviceResourceURIEntry lib entry (some endpoint.address)) next
            endpoint.content.resources with
          | mk success next => cases success <;> simp [metadata]

/-- The device loops are one registration. -/
theorem putDeviceURIEntries_eq (index : UriIndex) (device : CachedDevice) :
    putDeviceURIEntries lib entry index device =
      index.register ((treeChecks lib entry device).map Check.registration) := by
  have first := addURIEntry_eq index
    ((device.uri, .device entry), deviceUriIsValid lib device.uri device.uuid)
  have endpoints := addEach_eq _ _ (addEndpointURIEntries_eq lib entry)
  have resources := addEach_map _ _ (addDeviceResourceURIEntry_eq lib entry none)
  have metadata := addEach_map _ _ (addDeviceMetadataURIEntry_eq lib entry none)
  have split : (treeChecks lib entry device).map Check.registration =
      [Check.registration ((device.uri, .device entry), deviceUriIsValid lib device.uri device.uuid)] ++
        ((device.endpoints.flatMap (endpointChecks lib entry)).map Check.registration ++
          ((device.resources.map (resourceCheck lib entry none)).map Check.registration ++
            (device.metadata.map (metadataCheck lib entry none)).map Check.registration)) := by
    simp [treeChecks]
  rw [split, Table.register_append, ← first]
  unfold putDeviceURIEntries
  cases addURIEntry index device.uri (deviceUriIsValid lib device.uri device.uuid) (.device entry) with
  | mk success next =>
      cases success with
      | false => rfl
      | true =>
          simp only [↓reduceIte]
          rw [Table.register_append, ← endpoints]
          cases addEach (addEndpointURIEntries lib entry) next device.endpoints with
          | mk success next =>
              cases success with
              | false => rfl
              | true =>
                  simp only [↓reduceIte]
                  rw [Table.register_append, ← resources]
                  cases addEach (addDeviceResourceURIEntry lib entry none) next device.resources with
                  | mk success next => cases success <;> simp [metadata]

end

/-- A registered pair is an item with a URI. -/
def keyedItem (pair : String × Locator) : Item := (some pair.1, pair.2)

theorem Check.registration_eq_some {check : Check} {pair : String × Locator}
    (registered : check.registration = some pair) : check.1 = keyedItem pair := by
  obtain ⟨⟨uri, locator⟩, valid⟩ := check
  cases uri with
  | none => cases valid <;> simp [Check.registration] at registered
  | some uri =>
      cases valid with
      | false => simp [Check.registration] at registered
      | true =>
          simp only [Check.registration, ↓reduceIte, Option.map_some, Option.some.injEq] at registered
          rw [← registered]
          rfl

/-- When every check registers, the items are the registered pairs. -/
theorem items_of_registrations (checks : List Check) (added : List (String × Locator))
    (registered : checks.map Check.registration = added.map some) :
    checks.map Prod.fst = added.map keyedItem := by
  induction checks generalizing added with
  | nil =>
      cases added with
      | nil => rfl
      | cons pair rest => simp at registered
  | cons check rest ih =>
      cases added with
      | nil => simp at registered
      | cons pair others =>
          rw [List.map_cons, List.map_cons, List.cons.injEq] at registered
          rw [List.map_cons, List.map_cons, ih others registered.2,
            Check.registration_eq_some registered.1]

theorem filterMap_keyedItem (added : List (String × Locator)) :
    (added.map keyedItem).filterMap Prod.fst = added.map Prod.fst := by
  induction added with
  | nil => rfl
  | cons pair rest ih =>
      rw [List.map_cons, List.filterMap_cons_some (show (keyedItem pair).1 = some pair.1 from rfl), ih]
      rfl

theorem filterMap_named (uri : String) (locator : Locator) (items : List Item) :
    ((some uri, locator) :: items).filterMap Prod.fst = uri :: items.filterMap Prod.fst := rfl

section Uris
variable {Source Entry : Type} {visit : Source → Option Entry} {sources : List Source} {entries : List Entry}

theorem resourceUris_eq (entry : Address) (owner : Option Address) (resources : List CachedResource) :
    resourceUris resources = (resources.map (resourceItem entry owner)).filterMap Prod.fst := by
  rw [List.filterMap_map]
  rfl

/-- The URIs of a metadata list exist when every item has one. -/
theorem metadataUris_eq (entry : Address) (owner : Option Address) (metadata : List CachedMetadata)
    (keyed : ∀ item ∈ metadata.map (metadataItem entry owner), item.1 ≠ none) :
    metadataUris metadata =
      some ((metadata.map (metadataItem entry owner)).filterMap Prod.fst) := by
  induction metadata with
  | nil => rfl
  | cons first rest ih =>
      rw [List.map_cons, List.forall_mem_cons] at keyed
      obtain ⟨uri, present⟩ := Option.ne_none_iff_exists'.mp keyed.1
      have named : first.content.uri = some uri := present
      have later := ih keyed.2
      unfold metadataUris at later ⊢
      rw [List.mapM_cons, later, named, List.map_cons, List.filterMap_cons_some present]
      rfl

theorem endpointUris_eq (entry : Address) (endpoint : CachedEndpoint)
    (keyed : ∀ item ∈ endpointItems entry endpoint, item.1 ≠ none) :
    endpointUris endpoint = some ((endpointItems entry endpoint).filterMap Prod.fst) := by
  unfold endpointItems at keyed ⊢
  rw [List.forall_mem_cons, List.forall_mem_append] at keyed
  obtain ⟨uri, present⟩ := Option.ne_none_iff_exists'.mp keyed.1
  have named : endpoint.content.uri = some uri := present
  have metadata := metadataUris_eq entry (some endpoint.address) _ keyed.2.2
  unfold endpointUris
  rw [named, metadata, filterMap_named, List.filterMap_append,
    ← resourceUris_eq entry (some endpoint.address)]
  rfl

theorem endpointsUris_eq (entry : Address) (endpoints : List CachedEndpoint)
    (keyed : ∀ item ∈ endpoints.flatMap (endpointItems entry), item.1 ≠ none) :
    ∃ uris, endpoints.mapM endpointUris = some uris ∧
      uris.flatten = (endpoints.flatMap (endpointItems entry)).filterMap Prod.fst := by
  induction endpoints with
  | nil => exact ⟨[], rfl, rfl⟩
  | cons endpoint rest ih =>
      rw [List.flatMap_cons, List.forall_mem_append] at keyed
      obtain ⟨uris, found, same⟩ := ih keyed.2
      refine ⟨(endpointItems entry endpoint).filterMap Prod.fst :: uris, ?_, ?_⟩
      · rw [List.mapM_cons, endpointUris_eq entry endpoint keyed.1, found]
        rfl
      · rw [List.flatten_cons, same, List.flatMap_cons, List.filterMap_append]

/-- The removal of a tree whose items all have URIs deletes exactly these URIs. -/
theorem deviceUris_eq (entry : Address) (device : CachedDevice)
    (keyed : ∀ item ∈ treeItems entry device, item.1 ≠ none) :
    deviceUris device = some ((treeItems entry device).filterMap Prod.fst) := by
  unfold treeItems at keyed ⊢
  rw [List.forall_mem_cons, List.forall_mem_append, List.forall_mem_append] at keyed
  obtain ⟨uri, present⟩ := Option.ne_none_iff_exists'.mp keyed.1
  have named : device.uri = some uri := present
  obtain ⟨uris, endpoints, same⟩ := endpointsUris_eq entry device.endpoints keyed.2.1
  have metadata := metadataUris_eq entry none _ keyed.2.2.2
  unfold deviceUris
  rw [named, filterMap_named, List.filterMap_append, List.filterMap_append, ← same,
    ← resourceUris_eq entry none]
  simp [endpoints, metadata]

/-- The registered prefix of two batches lies in the prefixes of both. -/
theorem mem_takeWhile_append {Entry : Type} {test : Entry → Bool} {entry : Entry}
    (first second : List Entry) (member : entry ∈ (first ++ second).takeWhile test) :
    entry ∈ first.takeWhile test ∨ entry ∈ second.takeWhile test := by
  induction first with
  | nil => exact Or.inr member
  | cons head rest ih =>
      by_cases passed : test head
      · rw [List.cons_append, List.takeWhile_cons_of_pos passed] at member
        rw [List.takeWhile_cons_of_pos passed]
        rcases List.mem_cons.mp member with same | later
        · exact Or.inl (same ▸ List.mem_cons_self)
        · exact (ih later).imp_left (List.mem_cons_of_mem _)
      · rw [List.cons_append, List.takeWhile_cons_of_neg passed] at member
        simp at member

theorem mem_takeWhile_flatMap {test : Entry → Bool} {entry : Entry}
    (batch : Source → List Entry) (sources : List Source)
    (member : entry ∈ (sources.flatMap batch).takeWhile test) :
    ∃ source ∈ sources, entry ∈ (batch source).takeWhile test := by
  induction sources with
  | nil => simp at member
  | cons source rest ih =>
      rw [List.flatMap_cons] at member
      rcases mem_takeWhile_append _ _ member with first | later
      · exact ⟨source, List.mem_cons_self, first⟩
      · obtain ⟨other, inside, found⟩ := ih later
        exact ⟨other, List.mem_cons_of_mem _ inside, found⟩

/-- A traversal that succeeds answers every element. -/
theorem exists_of_mapM (visited : sources.mapM visit = some entries) {source : Source}
    (member : source ∈ sources) : ∃ entry, visit source = some entry ∧ entry ∈ entries := by
  induction sources generalizing entries with
  | nil => simp at member
  | cons first rest ih =>
      simp only [List.mapM_cons, Option.bind_eq_bind, Option.pure_def, Option.bind_eq_some_iff,
        Option.some.injEq] at visited
      obtain ⟨entry, found, others, later, same⟩ := visited
      subst same
      rcases List.mem_cons.mp member with equal | inside
      · subst equal
        exact ⟨entry, found, List.mem_cons_self⟩
      · obtain ⟨other, answered, kept⟩ := ih later inside
        exact ⟨other, answered, List.mem_cons_of_mem _ kept⟩

/-- Every entry of a traversal is the answer of some element. -/
theorem source_of_mapM (visited : sources.mapM visit = some entries) {entry : Entry}
    (member : entry ∈ entries) : ∃ source ∈ sources, visit source = some entry := by
  induction sources generalizing entries with
  | nil =>
      simp only [List.mapM_nil, Option.pure_def, Option.some.injEq] at visited
      simp [← visited] at member
  | cons first rest ih =>
      simp only [List.mapM_cons, Option.bind_eq_bind, Option.pure_def, Option.bind_eq_some_iff,
        Option.some.injEq] at visited
      obtain ⟨answer, found, others, later, same⟩ := visited
      subst same
      rcases List.mem_cons.mp member with equal | inside
      · subst equal
        exact ⟨first, List.mem_cons_self, found⟩
      · obtain ⟨source, held, answered⟩ := ih later inside
        exact ⟨source, List.mem_cons_of_mem _ held, answered⟩

theorem mem_of_mapM (visited : sources.mapM visit = some entries) {source : Source}
    (member : source ∈ sources) {entry : Entry} (found : visit source = some entry) :
    entry ∈ entries := by
  obtain ⟨other, answered, kept⟩ := exists_of_mapM visited member
  rw [found, Option.some.injEq] at answered
  exact answered ▸ kept

variable (lib : Library) (entry : Address)
  {locator : Locator} {uri : String} {uris : List String}

theorem mem_resourceUris {owner : Option Address} {resources : List CachedResource} (member : some (uri, locator) ∈
      (resources.map (resourceCheck lib entry owner)).map Check.registration) :
    uri ∈ resourceUris resources := by
  obtain ⟨check, inside, registered⟩ := List.mem_map.mp member
  obtain ⟨resource, held, same⟩ := List.mem_map.mp inside
  subst same
  have keyed := congrArg Prod.fst (Check.registration_eq_some registered)
  exact List.mem_filterMap.mpr ⟨resource, held, keyed⟩

theorem mem_metadataUris {owner : Option Address} {metadata : List CachedMetadata}
    (listed : metadataUris metadata = some uris)
    (member : some (uri, locator) ∈
      (metadata.map (metadataCheck lib entry owner)).map Check.registration) :
    uri ∈ uris := by
  obtain ⟨check, inside, registered⟩ := List.mem_map.mp member
  obtain ⟨item, held, same⟩ := List.mem_map.mp inside
  subst same
  have keyed : item.content.uri = some uri := congrArg Prod.fst (Check.registration_eq_some registered)
  exact mem_of_mapM listed held keyed

theorem mem_endpointUris {endpoint : CachedEndpoint} (listed : endpointUris endpoint = some uris)
    (member : some (uri, locator) ∈
      ((endpointChecks lib entry endpoint).map Check.registration).takeWhile Option.isSome) :
    uri ∈ uris := by
  unfold endpointChecks at member
  rw [List.map_cons, List.takeWhile_cons] at member
  split at member
  · rename_i passed
    obtain ⟨⟨name, first⟩, registered⟩ := Option.isSome_iff_exists.mp passed
    have named : endpoint.content.uri = some name :=
      congrArg Prod.fst (Check.registration_eq_some registered)
    unfold endpointUris at listed
    simp only [named] at listed
    obtain ⟨metadata, found, same⟩ := Option.map_eq_some_iff.mp listed
    subst same
    rw [registered] at member
    rcases List.mem_cons.mp member with head | later
    · simp only [Option.some.injEq, Prod.mk.injEq] at head
      simp [head.1]
    · rw [List.map_append] at later
      rcases mem_takeWhile_append _ _ later with inside | inside
      · have held := mem_resourceUris lib entry (List.takeWhile_subset _ inside)
        simp [held]
      · have held := mem_metadataUris lib entry found (List.takeWhile_subset _ inside)
        simp [held]
  · simp at member

/-- The URIs that a failed addition deletes cover everything it registered. -/
theorem mem_deviceUris {device : CachedDevice} (listed : deviceUris device = some uris)
    (member : some (uri, locator) ∈
      ((treeChecks lib entry device).map Check.registration).takeWhile Option.isSome) :
    uri ∈ uris := by
  unfold treeChecks at member
  rw [List.map_cons, List.takeWhile_cons] at member
  split at member
  · rename_i passed
    obtain ⟨⟨name, first⟩, registered⟩ := Option.isSome_iff_exists.mp passed
    have named : device.uri = some name :=
      congrArg Prod.fst (Check.registration_eq_some registered)
    unfold deviceUris at listed
    simp only [named, Option.bind_eq_bind, Option.pure_def, Option.bind_eq_some_iff,
      Option.some.injEq] at listed
    obtain ⟨endpoints, endpointsListed, metadata, metadataListed, same⟩ := listed
    subst same
    rw [registered] at member
    rcases List.mem_cons.mp member with head | later
    · simp only [Option.some.injEq, Prod.mk.injEq] at head
      simp [head.1]
    · rw [List.map_append, List.map_append, List.map_flatMap] at later
      rcases mem_takeWhile_append _ _ later with inside | later
      · obtain ⟨endpoint, held, inside⟩ := mem_takeWhile_flatMap _ _ inside
        obtain ⟨batch, found, kept⟩ := exists_of_mapM endpointsListed held
        have member := mem_endpointUris lib entry found inside
        have joined : uri ∈ endpoints.flatten := List.mem_flatten.mpr ⟨batch, kept, member⟩
        simp [joined]
      · rcases mem_takeWhile_append _ _ later with inside | inside
        · have held := mem_resourceUris lib entry (List.takeWhile_subset _ inside)
          simp [held]
        · have held := mem_metadataUris lib entry metadataListed (List.takeWhile_subset _ inside)
          simp [held]
  · simp at member

end Uris

end Barton.Database
