import BartonCore.Proof.Database.HeapRuns

namespace Barton.Database
open Registry

/-- A locator is older than the next address, and an object behind it has its URI. -/
def Labelled (db : JsonDatabase) : Prop :=
  db.resourcesByUri.Satisfies fun uri locator => locator.target < db.nextAddress ∧
    ∀ item ∈ db.items, item.2.target = locator.target → item.1 = some uri

/-- An entry of the index was there before, or it belongs to an added object. -/
def FromItems (db : JsonDatabase) (added : List Item) (uri : String) (locator : Locator) : Prop :=
  db.resourcesByUri.lookup uri = some locator ∨ (some uri, locator) ∈ added

section
variable (lib : Library) {db next : JsonDatabase} {result stored : Bool} {added : List Item}

theorem Labelled.empty (storage : Storage) : Labelled (JsonDatabase.empty storage) :=
  Table.Satisfies.empty _

/-- Added objects have fresh addresses, so the old locators do not lead to them. -/
theorem Labelled.extend (labelled : Labelled db) (heap : Heap db)
    (distinct : (added.map fun item => item.2.target).Nodup)
    (fresh : ∀ item ∈ added, db.nextAddress ≤ item.2.target ∧ item.2.target < next.nextAddress)
    (grown : db.nextAddress ≤ next.nextAddress) (items : ∀ item ∈ next.items, item ∈ added ∨ item ∈ db.items)
    (index : next.resourcesByUri.Satisfies (FromItems db added)) : Labelled next := by
  intro uri locator located
  rcases index uri locator located with old | new
  · obtain ⟨bound, named⟩ := labelled uri locator old
    refine ⟨Nat.lt_of_lt_of_le bound grown, ?_⟩
    intro item member same
    rcases items item member with inside | before
    · have above := (fresh item inside).1
      rw [same] at above
      exact absurd bound (Nat.not_lt_of_le above)
    · exact named item before same
  · have bounds := fresh _ new
    refine ⟨bounds.2, ?_⟩
    intro item member same
    rcases items item member with inside | before
    · have equal := List.inj_on_of_nodup_map distinct inside new same
      rw [equal]
    · have below := heap.allocated item before
      rw [same] at below
      exact absurd below (Nat.not_lt_of_le bounds.1)

theorem Labelled.exchange {removed rest : List Item} (labelled : Labelled db) (heap : Heap db)
    (change : Exchange db next removed added rest)
    (index : next.resourcesByUri.Satisfies (FromItems db added)) : Labelled next := by
  refine labelled.extend heap change.distinct change.fresh change.grown ?_ index
  intro item member
  exact (List.mem_append.mp (change.after.mem_iff.mp member)).imp_right fun kept =>
    change.before.mem_iff.mpr (List.mem_append_right _ kept)

/-- The objects and locators are among the old ones. -/
theorem Labelled.shrink (labelled : Labelled db) (grown : db.nextAddress ≤ next.nextAddress)
    (items : next.items = db.items)
    (index : next.resourcesByUri.Satisfies fun uri locator => db.resourcesByUri.lookup uri = some locator) :
    Labelled next := by
  intro uri locator located
  obtain ⟨bound, named⟩ := labelled uri locator (index uri locator located)
  rw [items]
  exact ⟨Nat.lt_of_lt_of_le bound grown, named⟩

theorem Labelled.same (labelled : Labelled db) (same : SameContents db next)
    (address : next.nextAddress = db.nextAddress) : Labelled next := by
  refine labelled.shrink (Nat.le_of_eq address.symm) same.items ?_
  intro uri locator located
  rw [← same.index]
  exact located

theorem Labelled.flush {address : Address} (flushed : flushEntry lib db address stored = some (result, next))
    (labelled : Labelled db) : Labelled next := by
  obtain ⟨_, same, address⟩ := flushEntry_same lib flushed
  exact labelled.same same address

theorem satisfies_lookup (index : UriIndex) :
    index.Satisfies fun uri locator => index.lookup uri = some locator := fun _ _ located => located

theorem satisfies_fromItems (db : JsonDatabase) (added : List Item) :
    db.resourcesByUri.Satisfies (FromItems db added) := fun _ _ located => Or.inl located

/-- A registration puts the objects of its checks. -/
theorem FromItems.register {index : UriIndex} (origin : index.Satisfies (FromItems db added)) {checks : List Check}
    (covered : ∀ check ∈ checks, check.1 ∈ added) :
    (index.register (checks.map Check.registration)).2.Satisfies (FromItems db added) := by
  apply Table.Satisfies.register origin
  intro uri locator member
  obtain ⟨check, inside, registered⟩ := List.mem_map.mp member
  have item := covered check inside
  rw [Check.registration_eq_some registered] at item
  exact Or.inr item

theorem FromItems.registerOne {index : UriIndex} (origin : index.Satisfies (FromItems db added)) {check : Check}
    (covered : check.1 ∈ added) : (index.register [check.registration]).2.Satisfies (FromItems db added) := by
  have each : ∀ other ∈ [check], other.1 ∈ added := by
    intro other member
    rw [List.mem_singleton] at member
    exact member ▸ covered
  exact FromItems.register origin each

/-- The registration of a tree puts the objects of the tree. -/
theorem fromItems_tree (device : DeviceRecord) : (addedTree lib db device).2.Satisfies
    (FromItems db (treeItems db.nextAddress (newEntry db device).device)) := by
  apply FromItems.register (satisfies_fromItems db _)
  intro check member
  rw [← treeChecks_items lib]
  exact List.mem_map_of_mem member

theorem fromItems_endpoint (entry : CacheEntry) (endpoint : DeviceEndpoint) :
    (addedEndpointEntries lib db entry endpoint).2.Satisfies
      (FromItems db (endpointItems entry.address (addedEndpoint db endpoint))) := by
  apply FromItems.register (satisfies_fromItems db _)
  intro check member
  rw [← endpointChecks_items lib]
  exact List.mem_map_of_mem member

/-- The replacement registers its resources one after another. -/
theorem fromItems_replaced (entry : CacheEntry) (found : CachedEndpoint) (endpoint : DeviceEndpoint) :
    (replacedIndex lib db entry found endpoint).Satisfies (FromItems db
      ((replacedResources db endpoint).map (resourceItem entry.address (some found.address)))) := by
  unfold replacedIndex replaceEndpointResources
  have covered : ∀ resource ∈ replacedResources db endpoint,
      (resourceCheck lib entry.address (some found.address) resource).1 ∈
        (replacedResources db endpoint).map (resourceItem entry.address (some found.address)) :=
    fun resource member => List.mem_map_of_mem member
  have erased : (db.resourcesByUri.eraseAll (resourceUris found.content.resources)).Satisfies (FromItems db
      ((replacedResources db endpoint).map (resourceItem entry.address (some found.address)))) :=
    Table.Satisfies.eraseAll (satisfies_fromItems db _) _
  generalize (replacedResources db endpoint).map (resourceItem entry.address (some found.address)) = items
    at covered erased
  generalize db.resourcesByUri.eraseAll (resourceUris found.content.resources) = kept at erased
  generalize replacedResources db endpoint = resources at covered
  induction resources generalizing kept with
  | nil => exact erased
  | cons resource rest hypothesis =>
      rw [List.foldl_cons, addDeviceResourceURIEntry_eq]
      exact hypothesis _ (FromItems.registerOne erased (covered resource List.mem_cons_self))
        fun other member => covered other (List.mem_cons_of_mem _ member)

/-- A destroyed tree leaves at most locators of objects that are gone. -/
theorem Labelled.cleaned (labelled : Labelled db) (heap : Heap db) {device : DeviceRecord} {index : UriIndex}
    (origin : index = db.resourcesByUri ∨ ∃ erased, index = (addedTree lib db device).2.eraseAll erased)
    (uris : List String) : Labelled (destroyed db device index uris) := by
  have targets := deviceClone_targets db.nextAddress device
  change (treeItems db.nextAddress (newEntry db device).device).map _ = _ at targets
  have registered : (destroyed db device index uris).resourcesByUri.Satisfies
      (FromItems db (treeItems db.nextAddress (newEntry db device).device)) := by
    apply Table.Satisfies.eraseAll
    rcases origin with rfl | ⟨erased, rfl⟩
    · exact satisfies_fromItems db _
    · exact Table.Satisfies.eraseAll (fromItems_tree lib device) erased
  refine labelled.extend heap ?_ ?_ ?_ (fun item member => Or.inr member) registered
  · rw [targets]
    exact List.nodup_range' ..
  · intro item member
    have target := List.mem_map_of_mem (f := fun item : Item => item.2.target) member
    rw [targets] at target
    have bounds := mem_range'_bounds target
    exact ⟨bounds.1, by rw [destroyed]; simpa only [Nat.add_assoc] using bounds.2⟩
  · exact Nat.le_trans (Nat.le_add_right _ _) (Nat.le_add_right _ _)

theorem Labelled.created (labelled : Labelled db) (heap : Heap db) {entry : CacheEntry} {owner : Option Address}
    {metadata : DeviceMetadata} (creates : MetadataOwner db metadata entry owner)
    (created : createMetadata lib db entry.address owner metadata stored = some (result, next)) : Labelled next := by
  obtain ⟨list, owned⟩ := creates.owned heap
  have change := exchange_withMetadata heap (creates.held heap) owned metadata
  rcases createMetadata_cases lib created with ⟨_, _, same⟩ | ⟨_, flushed⟩
  · rw [same]
    exact labelled.exchange heap change (satisfies_fromItems db _)
  · refine Labelled.flush lib flushed ?_
    have registered : (db.resourcesByUri.register
        [(addedMetadata lib db entry.address owner metadata).registration]).2.Satisfies
          (FromItems db [metadataItem entry.address owner ⟨db.nextAddress, metadata⟩]) :=
      FromItems.registerOne (satisfies_fromItems db _) (List.mem_singleton_self _)
    refine labelled.extend heap change.distinct change.fresh change.grown ?_ registered
    intro item member
    exact List.mem_append.mp (change.after.mem_iff.mp member)

/-- Every call keeps the labels of the locators. -/
theorem perform_labelled (heap : Heap db) (labelled : Labelled db) {call : Call}
    (performed : perform lib db stored call = some (result, next)) : Labelled next := by
  cases call with
  | reload =>
      obtain ⟨_, same⟩ := dropDevices_cases performed
      rw [same]
      exact Labelled.empty _
  | load json permissive =>
      rcases loadDevice_cases lib performed with ⟨_, same⟩ | ⟨device, _, loaded⟩
      · exact same ▸ labelled
      · rcases loadDeviceIntoCache_cases lib loaded with
          ⟨_, _, same⟩ | ⟨uuid, named, unknown, _, _, same⟩ | ⟨uuid, uris, index, _, _, _, same, origin⟩
        · exact same ▸ labelled
        · rw [same]
          exact labelled.exchange heap (exchange_withDevice lib heap device named unknown) (fromItems_tree lib device)
        · rw [same]
          exact labelled.cleaned lib heap (origin.imp_right fun deep => ⟨uris, deep.1⟩) uris
  | addDevice device =>
      rcases jsonDatabaseAddDevice_cases lib performed with
        ⟨_, _, same⟩ | ⟨uuid, named, unknown, _, _, _, same⟩ | ⟨uuid, uris, index, _, _, _, same, origin⟩
      · exact same ▸ labelled
      · have loaded := labelled.exchange heap (exchange_withDevice lib heap device named unknown)
          (fromItems_tree lib device)
        rw [same]
        exact loaded.same ⟨rfl, fun _ => rfl⟩ rfl
      · rw [same]
        apply labelled.cleaned lib heap
        rcases origin with shallow | ⟨deep, _⟩ | ⟨kept, _⟩
        · exact Or.inl shallow
        · exact Or.inr ⟨uris, deep⟩
        · exact Or.inr ⟨[], kept⟩
  | addEndpoint endpoint =>
      rcases jsonDatabaseAddEndpoint_cases lib performed with
        ⟨_, _, grown, same⟩ | ⟨uuid, id, entry, _, _, known, ⟨_, _, same⟩ | ⟨_, _, same⟩⟩
      · rw [same]
        exact labelled.shrink (Nat.le_add_right _ _) rfl (satisfies_lookup _)
      · have change := exchange_withEndpoint lib heap (heap.deviceEntry_at known) endpoint
        rw [same]
        exact labelled.extend heap change.distinct change.fresh change.grown (fun item member => Or.inr member)
          (fromItems_endpoint lib entry endpoint)
      · have grown := labelled.exchange heap (exchange_withEndpoint lib heap (heap.deviceEntry_at known) endpoint)
          (fromItems_endpoint lib entry endpoint)
        rw [same]
        exact grown.same ⟨rfl, fun _ => rfl⟩ rfl
  | addResource ownerUri resource =>
      rcases jsonDatabaseAddResource_cases lib performed with ⟨_, same⟩ | ⟨address, owner, _, added⟩
      · exact same ▸ labelled
      · obtain ⟨entry, list, held, same, owned, outcome⟩ := addResourceTo_cases lib added
        subst same
        rcases outcome with ⟨_, _, _, same⟩ | ⟨_, grown, _, devices, index⟩
        · have entered := labelled.exchange heap (exchange_withNewResource lib heap held owned resource)
            (FromItems.registerOne (satisfies_fromItems db _) (List.mem_singleton_self _))
          rw [same]
          exact entered.same ⟨rfl, fun _ => rfl⟩ rfl
        · refine labelled.shrink (by rw [grown]; exact Nat.le_succ _) ?_ ?_
          · rw [JsonDatabase.items_eq, JsonDatabase.items_eq, devices, heap.restored]
          · intro uri locator located
            rw [← index]
            exact located
  | saveEndpoint endpoint =>
      rcases jsonDatabaseSaveEndpoint_cases lib performed with
        ⟨_, same⟩ | ⟨uri, entry, found, _, located, ⟨_, flushed⟩ | ⟨_, flushed⟩⟩
      · exact same ▸ labelled
      · refine Labelled.flush lib flushed (labelled.shrink (Nat.le_refl _) ?_ (satisfies_lookup _))
        exact items_updateDevice_same db _ _ fun _ => treeItems_updateEnabled _ _ _
      · obtain ⟨rest, change⟩ := exchange_withReplaced lib heap located endpoint
        exact Labelled.flush lib flushed (labelled.exchange heap change (fromItems_replaced lib entry found endpoint))
  | saveResource resource =>
      have written (entry address : Address) : Labelled (withResource db entry address (replaceResource resource)) :=
        labelled.shrink (Nat.le_refl _) (items_withResource db entry address _ fun _ => rfl) (satisfies_lookup _)
      rcases jsonDatabaseSaveResource_cases lib performed with
        ⟨_, _, same⟩ | ⟨entry, address, _, ⟨_, _, same⟩ | ⟨_, flushed⟩⟩
      · exact same ▸ labelled
      · exact same ▸ written entry address
      · exact Labelled.flush lib flushed (written entry address)
  | updateDateOfLastSyncMillis resource now =>
      rcases jsonDatabaseUpdateDateOfLastSyncMillis_cases performed with
        ⟨_, _, same⟩ | ⟨entry, address, _, _, same⟩
      · exact same ▸ labelled
      · rw [same]
        exact labelled.shrink (Nat.le_refl _) (items_withResource db entry address _ fun _ => rfl)
          (satisfies_lookup _)
  | saveMetadata metadata =>
      rcases jsonDatabaseSaveMetadata_cases lib performed with
        ⟨_, same⟩ | ⟨uri, entry, owner, found, value, _, _, _, flushed⟩ | ⟨entry, _, flushed⟩ |
          ⟨entry, owner, creates, created⟩
      · exact same ▸ labelled
      · refine Labelled.flush lib flushed (labelled.shrink (Nat.le_refl _) ?_ (satisfies_lookup _))
        exact items_updateDevice_same db _ _ fun _ => treeItems_updateMetadata _ _ _ fun _ => rfl
      · exact Labelled.flush lib flushed labelled
      · exact labelled.created lib heap creates created
  | removeMetadataByUri uri =>
      have erased (keys : List String) : Registry.Table.Satisfies (db.resourcesByUri.eraseAll keys)
          fun uri locator => db.resourcesByUri.lookup uri = some locator :=
        Table.Satisfies.eraseAll (satisfies_lookup _) keys
      rcases jsonDatabaseRemoveMetadataByUri_cases lib performed with
        ⟨_, same⟩ | ⟨entry, owner, address, list, _, held, owned,
          ⟨⟨item, member, same⟩, flushed⟩ | ⟨_, _, same⟩⟩
      · exact same ▸ labelled
      · subst same
        refine Labelled.flush lib flushed (labelled.exchange heap
          (exchange_withoutMetadata heap held owned uri member) ?_)
        exact fun key locator located => Or.inl (erased [uri] key locator located)
      · rw [same]
        exact labelled.shrink (Nat.le_refl _) rfl (erased [uri])
  | removeDeviceById uuid =>
      rcases jsonDatabaseRemoveDeviceById_cases performed with ⟨_, _, same⟩ | ⟨entry, uris, known, _, _, same⟩
      · exact same ▸ labelled
      · have removed := labelled.exchange heap (exchange_withoutDevice heap known uris)
          (Table.Satisfies.eraseAll (satisfies_fromItems db []) uris)
        rw [same]
        exact removed.same ⟨rfl, fun _ => rfl⟩ rfl

/-- In every run from an empty database the objects keep their addresses and the locators their labels. -/
theorem run_labelled {storage : Storage} {calls : List (Call × Bool)}
    (reached : run lib (JsonDatabase.empty storage) calls = some db) : Heap db ∧ Labelled db := by
  refine Runs.invariant (step lib) (fun db => Heap db ∧ Labelled db) ?_ ⟨Heap.empty storage, Labelled.empty storage⟩
    reached
  rintro state input after ⟨heap, labelled⟩ stepped
  obtain ⟨⟨result, next⟩, performed, rfl⟩ := Option.map_eq_some_iff.mp stepped
  exact ⟨perform_heap lib heap performed, perform_labelled lib heap labelled performed⟩

end
end Barton.Database
