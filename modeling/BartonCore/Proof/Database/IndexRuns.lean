import BartonCore.Proof.Database.HeapRuns

namespace Barton.Database
open Registry

/-- A batch is admitted when its URIs are valid, distinct, and not in the index. -/
structure Admitted (index : UriIndex) (checks : List Check) : Prop where
  valid : ∀ check ∈ checks, check.2 = true
  named : ∀ check ∈ checks, check.1.1 ≠ none
  distinct : (checks.map fun check => check.1.1).Nodup
  fresh : ∀ check ∈ checks, ∀ uri, check.1.1 = some uri → uri ∉ index

/-- A registration is complete exactly when the batch is admitted. -/
theorem register_iff_admitted (index : UriIndex) (checks : List Check) :
    (index.register (checks.map Check.registration)).1 = true ↔ Admitted index checks := by
  rw [Table.register_success_iff]
  constructor
  · intro ⟨pairs, registered, distinct, fresh⟩
    have items := items_of_registrations checks pairs registered
    have uris : (checks.map fun check => check.1.1) = (pairs.map Prod.fst).map some := by
      have firsts := congrArg (List.map Prod.fst) items
      simpa [List.map_map, Function.comp_def, keyedItem] using firsts
    have each : ∀ check ∈ checks, ∃ pair ∈ pairs, check.registration = some pair := by
      intro check member
      have held := List.mem_map_of_mem (f := Check.registration) member
      rw [registered] at held
      obtain ⟨pair, inside, same⟩ := List.mem_map.mp held
      exact ⟨pair, inside, same.symm⟩
    refine ⟨?_, ?_, ?_, ?_⟩
    · intro check member
      obtain ⟨pair, _, same⟩ := each check member
      by_contra invalid
      simp [Check.registration, invalid] at same
    · intro check member
      obtain ⟨pair, _, same⟩ := each check member
      rw [Check.registration_eq_some same]
      simp [keyedItem]
    · rw [uris]
      exact distinct.map (Option.some_injective _)
    · intro check member uri named
      have inside := List.mem_map_of_mem (f := fun check : Check => check.1.1) member
      rw [uris, named] at inside
      obtain ⟨key, held, same⟩ := List.mem_map.mp inside
      rw [Option.some.injEq] at same
      exact same ▸ fresh key held
  · intro admitted
    obtain ⟨pairs, items⟩ := exists_keyedItems (checks.map Prod.fst) fun item member => by
      obtain ⟨check, inside, same⟩ := List.mem_map.mp member
      exact same ▸ admitted.named check inside
    have uris : (checks.map fun check => check.1.1) = (pairs.map Prod.fst).map some := by
      have firsts := congrArg (List.map Prod.fst) items
      simpa [List.map_map, Function.comp_def, keyedItem] using firsts
    refine ⟨pairs, ?_, ?_, ?_⟩
    · have direct : checks.map Check.registration =
          (checks.map Prod.fst).map fun item => item.1.map fun uri => (uri, item.2) := by
        rw [List.map_map]
        apply List.map_congr_left
        intro check member
        simp [Check.registration, admitted.valid check member]
      rw [direct, items, List.map_map]
      rfl
    · have distinct := admitted.distinct
      rw [uris] at distinct
      exact distinct.of_map
    · intro key member
      have inside : some key ∈ checks.map fun check => check.1.1 := by
        rw [uris]
        exact List.mem_map_of_mem member
      obtain ⟨check, held, same⟩ := List.mem_map.mp inside
      exact admitted.fresh check held key same

/-- No URI of the new tree is in the index. -/
def FreshTree (db : JsonDatabase) (device : DeviceRecord) : Prop :=
  device.uuid = none ∨ ∀ uris, deviceUris (newEntry db device).device = some uris →
    ∀ uri ∈ uris, uri ∉ db.resourcesByUri

/-- A call is admissible when it does not reach a cleanup that misses its own entries. -/
def Admissible (lib : Library) (db : JsonDatabase) : Call → Prop
  | .load json permissive => ∀ device, deviceFromJSON lib storageContext permissive json = some device →
      FreshTree db device
  | .addDevice device => FreshTree db device
  | .addEndpoint endpoint => ∀ uuid id entry, endpoint.deviceUuid = some uuid → endpoint.id = some id →
      db.deviceEntry uuid = some entry →
      Admitted db.resourcesByUri (endpointChecks lib entry.address (addedEndpoint db endpoint)) ∨
      ¬Admitted db.resourcesByUri [endpointCheck lib entry.address (addedEndpoint db endpoint)]
  | .saveEndpoint endpoint => ∀ uri entry found, endpoint.uri = some uri →
      EndpointFound db uri entry found →
      found.content.profileVersion = endpoint.profileVersion ∨
      Admitted (db.resourcesByUri.eraseAll (resourceUris found.content.resources))
        ((replacedResources db endpoint).map (resourceCheck lib entry.address (some found.address)))
  | .saveMetadata metadata => ∀ entry owner, MetadataOwner db metadata entry owner →
      metadataUriIsValid lib metadata.uri metadata.deviceUuid metadata.endpointId metadata.id = true
  | _ => True

section Exactness
variable (lib : Library) {db next : JsonDatabase} {result stored : Bool}
  {owner : Option Address} {entry : CacheEntry} {uri : String}

/-- A tree holds a metadata locator only for metadata in the list of its owner. -/
theorem mem_treeItems_metadata {entry holder address : Address} {device : CachedDevice} {uri : Option String}
    (distinct : (device.endpoints.map Allocated.address).Nodup)
    (member : (uri, Locator.metadata holder owner address) ∈ treeItems entry device) :
    holder = entry ∧ ∃ list, device.metadataOf owner = some list ∧
      ∃ item ∈ list, item.address = address ∧ item.content.uri = uri := by
  unfold treeItems at member
  rcases List.mem_cons.mp member with head | member
  · simp at head
  · rcases List.mem_append.mp member with deep | member
    · obtain ⟨endpoint, inside, found⟩ := List.mem_flatMap.mp deep
      unfold endpointItems at found
      rcases List.mem_cons.mp found with head | found
      · simp at head
      · rcases List.mem_append.mp found with other | found
        · obtain ⟨resource, _, same⟩ := List.mem_map.mp other
          simp [resourceItem] at same
        · obtain ⟨item, held, same⟩ := List.mem_map.mp found
          simp only [metadataItem, Prod.mk.injEq, Locator.metadata.injEq] at same
          obtain ⟨named, first, second, third⟩ := same
          subst second
          have read : device.endpointAt endpoint.address = some endpoint :=
            Cells.read_of_mem distinct inside
          refine ⟨first.symm, endpoint.content.metadata, ?_, item, held, third, named⟩
          rw [CachedDevice.metadataOf, read]
          rfl
    · rcases List.mem_append.mp member with other | found
      · obtain ⟨resource, _, same⟩ := List.mem_map.mp other
        simp [resourceItem] at same
      · obtain ⟨item, held, same⟩ := List.mem_map.mp found
        simp only [metadataItem, Prod.mk.injEq, Locator.metadata.injEq] at same
        obtain ⟨named, first, second, third⟩ := same
        subst second
        exact ⟨first.symm, device.metadata, rfl, item, held, third, named⟩

/-- A metadata locator of the index leads to metadata in the list of its owner. -/
theorem Indexed.metadata_owned (indexed : Indexed db) {address : Address} {list : List CachedMetadata}
    (located : db.resourcesByUri.lookup uri = some (.metadata entry.address owner address))
    (held : db.entryAt entry.address = some entry)
    (owned : entry.device.metadataOf owner = some list) :
    ∃ item ∈ list, item.address = address ∧ item.content.uri = some uri := by
  have member := (indexed.exact.found uri _).mp located
  rw [db.items_eq] at member
  obtain ⟨holder, inside, found⟩ := List.mem_flatMap.mp member
  obtain ⟨same, kept, read, item⟩ :=
    mem_treeItems_metadata (indexed.heap.endpoints_distinct inside) found
  have other := indexed.heap.entryAt_of_mem inside
  rw [← same, held, Option.some.injEq] at other
  subst other
  rw [owned, Option.some.injEq] at read
  exact read ▸ item

/-- The destruction of a fresh tree by its URIs leaves the index as it was. -/
theorem destroyed_same {device : DeviceRecord} {index : UriIndex} {uris : List String}
    (listed : deviceUris (newEntry db device).device = some uris)
    (fresh : ∀ uri ∈ uris, uri ∉ db.resourcesByUri)
    (origin : index = db.resourcesByUri ∨ index = (addedTree lib db device).2.eraseAll uris ∨
      index = (addedTree lib db device).2) : SameContents db (destroyed db device index uris) := by
  refine ⟨rfl, fun uri => ?_⟩
  have undone := db.resourcesByUri.lookup_register_eraseAll _ uris fresh
    (fun key value member => mem_deviceUris lib db.nextAddress listed member)
  change (index.eraseAll uris).lookup uri = _
  rcases origin with same | same | same
  · rw [same, Table.eraseAll_of_disjoint _ uris fresh]
  · rw [same, Table.lookup_eraseAll]
    by_cases inside : uri ∈ uris
    · rw [if_pos inside, AList.lookup_eq_none.mpr (fresh uri inside)]
    · rw [if_neg inside]
      exact undone uri
  · rw [same]
    exact undone uri

/-- A complete replacement is one registration. -/
theorem foldl_register (entry : Address) (owner : Option Address) (resources : List CachedResource)
    (index : UriIndex) (complete : (index.register
      ((resources.map (resourceCheck lib entry owner)).map Check.registration)).1 = true) :
    resources.foldl (fun index resource =>
      (addDeviceResourceURIEntry lib entry owner index resource).2) index =
      (index.register ((resources.map (resourceCheck lib entry owner)).map Check.registration)).2 := by
  induction resources generalizing index with
  | nil => rfl
  | cons resource rest ih =>
      have split : ((resource :: rest).map (resourceCheck lib entry owner)).map Check.registration =
          [(resourceCheck lib entry owner resource).registration] ++
            (rest.map (resourceCheck lib entry owner)).map Check.registration := rfl
      rw [split, Table.register_append] at complete ⊢
      rw [List.foldl_cons, addDeviceResourceURIEntry_eq]
      by_cases first : (index.register [(resourceCheck lib entry owner resource).registration]).1 = true
      · rw [if_pos first] at complete ⊢
        exact ih _ complete
      · rw [if_neg first] at complete
        exact absurd complete first

theorem Indexed.exact_withDevice (indexed : Indexed db) {device : DeviceRecord} {uuid : String}
    (named : device.uuid = some uuid) (unknown : db.deviceEntry uuid = none)
    (complete : (addedTree lib db device).1 = true) : Indexed (withDevice lib db device) := by
  have change := exchange_withDevice lib indexed.heap device named unknown
  refine ⟨indexed.heap.exchange change, ?_⟩
  have grown := exact_register indexed.exact
    (treeChecks lib db.nextAddress (newEntry db device).device) complete
  rw [treeChecks_items] at grown
  exact grown.of_perm change.after.symm

theorem Indexed.flush {address : Address} (indexed : Indexed db)
    (flushed : flushEntry lib db address stored = some (result, next)) : Indexed next := by
  obtain ⟨_, same, grown⟩ := flushEntry_same lib flushed
  exact indexed.of_same same (Nat.le_of_eq grown.symm)

/-- A write that keeps every item keeps the index exact. -/
theorem Indexed.of_items (indexed : Indexed db) (heap : Heap next) (items : next.items = db.items)
    (index : next.resourcesByUri = db.resourcesByUri) : Indexed next := by
  refine ⟨heap, ?_⟩
  rw [items, index]
  exact indexed.exact

/-- An admissible endpoint addition keeps the index exact. -/
theorem addEndpoint_indexed (indexed : Indexed db) {endpoint : DeviceEndpoint}
    (admissible : Admissible lib db (.addEndpoint endpoint))
    (added : jsonDatabaseAddEndpoint lib db endpoint stored = some (result, next)) : Indexed next := by
  rcases jsonDatabaseAddEndpoint_cases lib added with
    ⟨_, _, grown, same⟩ | ⟨uuid, id, entry, owner, named, known, ⟨refused, _, same⟩ | ⟨complete, _, same⟩⟩
  · rw [same]
    exact indexed.of_same ⟨rfl, fun _ => rfl⟩ (Nat.le_add_right _ _)
  · rcases admissible uuid id entry owner named known with admitted | first
    · rw [← register_iff_admitted] at admitted
      exact absurd admitted (by rw [← addedEndpointEntries, refused]; exact Bool.false_ne_true)
    · rw [← register_iff_admitted, Bool.not_eq_true] at first
      have unchanged : (addedEndpointEntries lib db entry endpoint).2 = db.resourcesByUri := by
        unfold addedEndpointEntries endpointChecks
        rw [List.map_cons, ← List.singleton_append, Table.register_append, if_neg (by simpa using first)]
        exact db.resourcesByUri.register_singleton_refused _ first
      rw [same, unchanged]
      exact indexed.of_same ⟨rfl, fun _ => rfl⟩ (Nat.le_add_right _ _)
  · have change := exchange_withEndpoint lib indexed.heap (indexed.heap.deviceEntry_at known) endpoint
    have grown := exact_register indexed.exact
      (endpointChecks lib entry.address (addedEndpoint db endpoint)) complete
    rw [endpointChecks_items] at grown
    have middle : Indexed (withEndpoint lib db entry endpoint) :=
      ⟨indexed.heap.exchange change, grown.of_perm change.after.symm⟩
    rw [same]
    exact middle.of_same ⟨rfl, fun _ => rfl⟩ (Nat.le_refl _)

/-- An admissible replacement keeps the index exact. -/
theorem Indexed.withReplaced (indexed : Indexed db)
    {found : CachedEndpoint} (located : EndpointFound db uri entry found) {endpoint : DeviceEndpoint}
    (admitted : Admitted (db.resourcesByUri.eraseAll (resourceUris found.content.resources))
      ((replacedResources db endpoint).map (resourceCheck lib entry.address (some found.address)))) :
    Indexed (withReplaced lib db entry found endpoint) := by
  obtain ⟨rest, change⟩ := exchange_withReplaced lib indexed.heap located endpoint
  refine ⟨indexed.heap.exchange change, ?_⟩
  have erased := exact_eraseAll _ (indexed.exact.of_perm change.before)
  rw [← resourceUris_eq] at erased
  rw [← register_iff_admitted] at admitted
  have grown := exact_register erased _ admitted
  have checked : ((replacedResources db endpoint).map
      (resourceCheck lib entry.address (some found.address))).map Prod.fst =
      (replacedResources db endpoint).map (resourceItem entry.address (some found.address)) := by
    rw [List.map_map]
    rfl
  rw [checked, ← foldl_register lib _ _ _ _ admitted] at grown
  exact grown.of_perm change.after.symm

/-- Metadata that is created has a free URI, so only its validity matters. -/
theorem MetadataOwner.admitted {metadata : DeviceMetadata} (creates : MetadataOwner db metadata entry owner)
    (valid : metadataUriIsValid lib metadata.uri metadata.deviceUuid metadata.endpointId
      metadata.id = true) :
    Admitted db.resourcesByUri [addedMetadata lib db entry.address owner metadata] := by
  obtain ⟨uri, named, absent⟩ := creates.unlocated
  refine ⟨?_, ?_, List.nodup_singleton _, ?_⟩
  · intro check member
    rw [List.mem_singleton.mp member]
    exact valid
  · intro check member
    rw [List.mem_singleton.mp member]
    change metadata.uri ≠ none
    simp [named]
  · intro check member key same
    rw [List.mem_singleton.mp member] at same
    change metadata.uri = some key at same
    rw [named, Option.some.injEq] at same
    exact same ▸ AList.lookup_eq_none.mp absent

/-- The creation of metadata with a valid URI keeps the index exact. -/
theorem createMetadata_indexed (indexed : Indexed db) {metadata : DeviceMetadata}
    (creates : MetadataOwner db metadata entry owner)
    (valid : metadataUriIsValid lib metadata.uri metadata.deviceUuid metadata.endpointId
      metadata.id = true)
    (created : createMetadata lib db entry.address owner metadata stored = some (result, next)) :
    Indexed next := by
  obtain ⟨list, owned⟩ := creates.owned indexed.heap
  have change := exchange_withMetadata indexed.heap (creates.held indexed.heap) owned metadata
  have complete := (register_iff_admitted _ _).mpr (creates.admitted lib valid)
  have grown := exact_register indexed.exact _ complete
  rcases createMetadata_cases lib created with ⟨refused, _, _⟩ | ⟨_, flushed⟩
  · rw [List.map_cons, List.map_nil, refused] at complete
    exact absurd complete Bool.false_ne_true
  · refine Indexed.flush lib ?_ flushed
    refine ⟨(indexed.heap.exchange change).of_memory rfl (Nat.le_refl _), ?_⟩
    exact grown.of_perm change.after.symm

/-- The removal of metadata keeps the index exact. -/
theorem removeMetadata_indexed (indexed : Indexed db)
    (removed : jsonDatabaseRemoveMetadataByUri lib db uri stored = some (result, next)) :
    Indexed next := by
  rcases jsonDatabaseRemoveMetadataByUri_cases lib removed with
    ⟨_, same⟩ | ⟨entry, owner, address, list, located, held, owned, outcome⟩
  · exact same ▸ indexed
  · obtain ⟨item, member, same, named⟩ := indexed.metadata_owned located held owned
    subst same
    rcases outcome with ⟨_, flushed⟩ | ⟨absent, _, _⟩
    · have change := exchange_withoutMetadata indexed.heap held owned uri member
      have erased := exact_eraseAll _ (indexed.exact.of_perm change.before)
      have keys : [metadataItem entry.address owner item].filterMap Prod.fst = [uri] := by
        simp [metadataItem, named]
      rw [keys] at erased
      refine Indexed.flush lib ?_ flushed
      exact ⟨indexed.heap.exchange change, erased⟩
    · exact absurd rfl (absent item member)

/-- The removal of a device keeps the index exact. -/
theorem removeDevice_indexed (indexed : Indexed db) {uuid : String}
    (removed : jsonDatabaseRemoveDeviceById db uuid stored = some (result, next)) :
    Indexed next := by
  rcases jsonDatabaseRemoveDeviceById_cases removed with ⟨_, _, same⟩ | ⟨entry, uris, known, listed, _, same⟩
  · exact same ▸ indexed
  · have change := exchange_withoutDevice indexed.heap known uris
    have exact := indexed.exact.of_perm change.before
    have keyed := deviceUris_eq entry.address entry.device fun item member =>
      exact.keyed item (List.mem_append_left _ member)
    rw [listed, Option.some.injEq] at keyed
    have erased := exact_eraseAll _ exact
    rw [← keyed] at erased
    rw [same]
    have middle : Indexed (withoutDevice db uuid uris) := ⟨indexed.heap.exchange change, erased⟩
    exact middle.of_same ⟨rfl, fun _ => rfl⟩ (Nat.le_refl _)

/-- An admissible call keeps the index exact. -/
theorem perform_indexed (indexed : Indexed db) {call : Call} (admissible : Admissible lib db call)
    (performed : perform lib db stored call = some (result, next)) : Indexed next := by
  have heap := perform_heap lib indexed.heap performed
  cases call with
  | reload =>
      obtain ⟨_, same⟩ := dropDevices_cases performed
      rw [same]
      exact Indexed.empty _
  | load json permissive =>
      rcases loadDevice_cases lib performed with ⟨_, same⟩ | ⟨device, parsed, loaded⟩
      · exact same ▸ indexed
      · rcases loadDeviceIntoCache_cases lib loaded with
          ⟨_, _, same⟩ | ⟨uuid, named, unknown, complete, _, same⟩ |
            ⟨uuid, uris, index, named, listed, _, same, origin⟩
        · exact same ▸ indexed
        · exact same ▸ indexed.exact_withDevice lib named unknown complete
        · rcases admissible device parsed with missing | fresh
          · simp [named] at missing
          · rw [same]
            refine indexed.of_same (destroyed_same lib listed (fresh uris listed) ?_)
              (Nat.le_trans (Nat.le_add_right _ _) (Nat.le_add_right _ _))
            exact origin.imp_right fun deep => Or.inl deep.1
  | addDevice device =>
      rcases jsonDatabaseAddDevice_cases lib performed with
        ⟨_, _, same⟩ | ⟨uuid, named, unknown, complete, _, _, same⟩ |
          ⟨uuid, uris, index, named, listed, _, same, origin⟩
      · exact same ▸ indexed
      · have loaded := indexed.exact_withDevice lib named unknown complete
        rw [same]
        exact loaded.of_same ⟨rfl, fun _ => rfl⟩ (Nat.le_refl _)
      · rcases admissible with missing | fresh
        · simp [named] at missing
        · rw [same]
          refine indexed.of_same (destroyed_same lib listed (fresh uris listed) ?_)
            (Nat.le_trans (Nat.le_add_right _ _) (Nat.le_add_right _ _))
          exact origin.imp_right fun deep => deep.imp And.left And.left
  | addEndpoint endpoint => exact addEndpoint_indexed lib indexed admissible performed
  | addResource ownerUri resource =>
      rcases jsonDatabaseAddResource_cases lib performed with ⟨_, same⟩ | ⟨address, owner, _, added⟩
      · exact same ▸ indexed
      · obtain ⟨entry, list, held, same, owned, outcome⟩ := addResourceTo_cases lib added
        subst same
        rcases outcome with ⟨complete, _, _, same⟩ | ⟨_, _, _, devices, index⟩
        · have change := exchange_withNewResource lib indexed.heap held owned resource
          have grown := exact_register indexed.exact [addedResource lib db entry owner resource] complete
          have middle : Indexed (withNewResource lib db entry owner resource) :=
            ⟨indexed.heap.exchange change, grown.of_perm change.after.symm⟩
          rw [same]
          exact middle.of_same ⟨rfl, fun _ => rfl⟩ (Nat.le_refl _)
        · refine ⟨heap, ?_⟩
          have same : SameContents db next := by
            refine ⟨?_, index⟩
            unfold JsonDatabase.memory
            rw [devices, indexed.heap.restored]
          rw [same.items]
          exact indexed.exact.of_lookup same.index
  | saveEndpoint endpoint =>
      rcases jsonDatabaseSaveEndpoint_cases lib performed with
        ⟨_, same⟩ | ⟨uri, entry, found, named, located, ⟨_, flushed⟩ | ⟨different, flushed⟩⟩
      · exact same ▸ indexed
      · refine Indexed.flush lib ?_ flushed
        have items := items_updateDevice_same db entry.address (fun device =>
          device.updateEndpoint found.address fun content => { content with enabled := endpoint.enabled })
          fun _ => treeItems_updateEnabled _ _ _
        refine indexed.of_items (indexed.heap.of_items items (Nat.le_refl _) ?_) items rfl
        exact uuids_updateDevice db _ _ fun _ => rfl
      · refine Indexed.flush lib ?_ flushed
        exact indexed.withReplaced lib located
          ((admissible uri entry found named located).resolve_left different)
  | saveResource resource =>
      rcases jsonDatabaseSaveResource_cases lib performed with
        ⟨_, _, same⟩ | ⟨entry, address, _, ⟨_, _, same⟩ | ⟨_, flushed⟩⟩
      · exact same ▸ indexed
      · rw [same] at heap ⊢
        exact indexed.of_items heap (items_withResource db entry address _ fun _ => rfl) rfl
      · refine Indexed.flush lib ?_ flushed
        exact indexed.of_items (indexed.heap.withResource entry address _ fun _ => rfl)
          (items_withResource db entry address _ fun _ => rfl) rfl
  | updateDateOfLastSyncMillis resource now =>
      rcases jsonDatabaseUpdateDateOfLastSyncMillis_cases performed with
        ⟨_, _, same⟩ | ⟨entry, address, _, _, same⟩
      · exact same ▸ indexed
      · rw [same] at heap ⊢
        exact indexed.of_items heap (items_withResource db entry address _ fun _ => rfl) rfl
  | saveMetadata metadata =>
      rcases jsonDatabaseSaveMetadata_cases lib performed with
        ⟨_, same⟩ | ⟨uri, entry, owner, found, value, _, _, _, flushed⟩ | ⟨entry, _, flushed⟩ |
          ⟨entry, owner, creates, created⟩
      · exact same ▸ indexed
      · refine Indexed.flush lib ?_ flushed
        have items := items_updateDevice_same db entry.address (fun device =>
          device.updateMetadata found.address fun content => { content with value := some value })
          fun _ => treeItems_updateMetadata _ _ _ fun _ => rfl
        refine indexed.of_items (indexed.heap.of_items items (Nat.le_refl _) ?_) items rfl
        exact uuids_updateDevice db _ _ fun _ => rfl
      · exact indexed.flush lib flushed
      · exact createMetadata_indexed lib indexed creates (admissible entry owner creates) created
  | removeMetadataByUri uri => exact removeMetadata_indexed lib indexed performed
  | removeDeviceById uuid => exact removeDevice_indexed indexed performed

end Exactness

/-- Every call of the run is admissible in the state that it reaches. -/
def AdmissibleRun (lib : Library) (db : JsonDatabase) (calls : List (Call × Bool)) : Prop :=
  Runs.Guarded (step lib) (fun db input => Admissible lib db input.1) db calls

theorem run_indexed (lib : Library) {db final : JsonDatabase} {calls : List (Call × Bool)}
    (admissible : AdmissibleRun lib db calls) (indexed : Indexed db)
    (reached : run lib db calls = some final) : Indexed final := by
  refine Runs.Guarded.invariant (step lib) Indexed ?_ admissible indexed reached
  intro state input next held guard stepped
  obtain ⟨⟨result, after⟩, performed, same⟩ := Option.map_eq_some_iff.mp stepped
  subst same
  exact perform_indexed lib held guard performed

/-- After initialization and any admissible calls the index holds one locator for each object. -/
theorem reachable_index_exact (lib : Library) {storage : Storage} {documents : List (Json × Bool)}
    {calls : List (Call × Bool)} {first db : JsonDatabase}
    (loaded : AdmissibleRun lib (JsonDatabase.empty storage) (loads documents))
    (started : jsonDatabaseInitialize lib storage documents = some first)
    (admissible : AdmissibleRun lib first calls) (reached : run lib first calls = some db) :
    Exact db.resourcesByUri db.items := by
  have initial := run_indexed lib loaded (Indexed.empty storage) started
  exact (run_indexed lib admissible initial reached).exact

/-- This library agrees with the repository's libraries on the sample devices. -/
def sampleLibrary : Library where
  stringIsEmpty value := value.getD "" == ""
  stringCompareIgnoreCase left right := left.toList.map Char.toLower == right.toList.map Char.toLower
  stringIsPrintable value := value.any fun name =>
    name != "" && name.toList.all fun letter => 32 ≤ letter.val && letter.val < 127
  cJSONParse value := if value = "\x7b\x7d" ∨ value = "\x7b\n\x7d" then some (.object []) else none
  cJSONParseComplete value := if value = "\x7b\x7d" ∨ value = "\x7b\n\x7d" then some (.object []) else none
  cJSONPrint _ := "\x7b\n\x7d"
  getCJSONString json name := match json.getObjectItem name with
    | some (.string value) => some value
    | _ => none
  getCJSONBool json name := match json.getObjectItem name with
    | some (.bool value) => some value
    | _ => none
  getCJSONInt json name := match json.getObjectItem name with
    | some (.number value) => some (Int32.ofInt value.num)
    | _ => none
  getCJSONUInt8 json name := match json.getObjectItem name with
    | some (.number value) => if 0 ≤ value ∧ value ≤ 255 then some (UInt8.ofNat value.num.toNat) else none
    | _ => none
  getCJSONUInt64 json name := match json.getObjectItem name with
    | some (.number value) => if 0 ≤ value then some (UInt64.ofNat value.num.toNat) else none
    | _ => none
  simpleProtectConfigData _ value := value.map fun plain => "enc:" ++ plain
  simpleUnprotectConfigData _ secret := some (String.ofList (secret.toList.drop 4))

/-- This device has no children. -/
def sampleDevice : DeviceRecord where
  uuid := some "a"
  deviceClass := some "light"
  deviceClassVersion := 1
  uri := some "/a"
  managingDeviceDriver := some "zigbee"
  endpoints := []
  resources := []
  metadata := []

/-- This resource belongs to the sample device. -/
def sampleResource : DeviceResource where
  id := some "on"
  uri := some "/a/r/on"
  endpointId := none
  deviceUuid := some "a"
  value := some "true"
  type := some "boolean"
  mode := resourceModeReadable
  cachingPolicy := 1
  dateOfLastSyncMillis := 0

theorem sampleDevice_fresh (storage : Storage) :
    Admissible sampleLibrary (JsonDatabase.empty storage) (.addDevice sampleDevice) := by
  right
  intro uris _ uri _
  exact AList.notMem_empty uri

theorem reachable_index_exact_sample :
    ∃ db, run sampleLibrary (JsonDatabase.empty ∅) [(.addDevice sampleDevice, true),
      (.addResource (some "/a") sampleResource, true), (.removeDeviceById "a", false)] = some db ∧
      db.items.length = 2 ∧ Exact db.resourcesByUri db.items := by
  have loaded : AdmissibleRun sampleLibrary (JsonDatabase.empty ∅) (loads []) := trivial
  have started : jsonDatabaseInitialize sampleLibrary ∅ [] = some (JsonDatabase.empty ∅) := rfl
  have admissible : AdmissibleRun sampleLibrary (JsonDatabase.empty ∅) [(.addDevice sampleDevice, true),
      (.addResource (some "/a") sampleResource, true), (.removeDeviceById "a", false)] :=
    ⟨sampleDevice_fresh ∅, fun _ _ => ⟨trivial, fun _ _ => ⟨trivial, fun _ _ => trivial⟩⟩⟩
  exact ⟨_, rfl, rfl, reachable_index_exact sampleLibrary loaded started admissible rfl⟩

/-- The sample database holds the sample device. -/
def sampleDatabase : JsonDatabase :=
  (run sampleLibrary (JsonDatabase.empty ∅) [(.addDevice sampleDevice, true)]).getD
    (JsonDatabase.empty ∅)

theorem sampleDatabase_indexed : Indexed sampleDatabase := by
  have admissible : AdmissibleRun sampleLibrary (JsonDatabase.empty ∅)
      [(.addDevice sampleDevice, true)] := ⟨sampleDevice_fresh ∅, fun _ _ => trivial⟩
  exact run_indexed sampleLibrary admissible (Indexed.empty ∅) rfl

/-- Adding a device twice deletes the locator of the device that stays. -/
theorem not_reachable_index_exact :
    ¬∀ (lib : Library) (storage : Storage) (documents : List (Json × Bool))
      (calls : List (Call × Bool)) (first db : JsonDatabase),
      jsonDatabaseInitialize lib storage documents = some first → run lib first calls = some db →
      Exact db.resourcesByUri db.items := by
  intro claim
  have exact := claim sampleLibrary ∅ []
    [(.addDevice sampleDevice, true), (.addDevice sampleDevice, true)] _ _ rfl rfl
  have located := (exact.found "/a" (.device 0)).mpr (by decide +kernel)
  exact absurd located (by decide +kernel)

end Barton.Database
