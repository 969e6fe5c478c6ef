import BartonCore.Proof.Database.HeapRuns

namespace Barton.Database
open Registry

section
variable (lib : Library)

/-- The key of a metadata locator agrees with a created metadata URI. -/
def MetadataKey (uri : String) : Locator → Prop
  | .metadata _ _ _ => ∃ deviceUuid endpointId name,
      lib.stringCompareIgnoreCase uri (metadataUriCreate deviceUuid endpointId name) = true
  | _ => True

/-- Every metadata locator of the index is under a metadata URI. -/
def MetadataNamed (index : UriIndex) : Prop := index.Satisfies (MetadataKey lib)

/-- The registration of a check is under a metadata URI. -/
def Check.Named (check : Check) : Prop :=
  ∀ uri locator, check.registration = some (uri, locator) → MetadataKey lib uri locator

end

section
variable {lib : Library} {db next : JsonDatabase} {result stored : Bool} {entry : Address}

theorem MetadataNamed.of_lookup {index after : UriIndex} (named : MetadataNamed lib index)
    (same : ∀ uri, after.lookup uri = index.lookup uri) : MetadataNamed lib after := by
  intro uri locator located
  rw [same] at located
  exact named uri locator located

theorem resourceCheck_named (owner : Option Address) (resource : CachedResource) :
    Check.Named lib (resourceCheck lib entry owner resource) := by
  intro uri locator registered
  have item := Check.registration_eq_some registered
  have same : Locator.resource entry owner resource.address = locator := congrArg Prod.snd item
  subst same
  trivial

theorem endpointCheck_named (endpoint : CachedEndpoint) : Check.Named lib (endpointCheck lib entry endpoint) := by
  intro uri locator registered
  have item := Check.registration_eq_some registered
  have same : Locator.endpoint entry endpoint.address = locator := congrArg Prod.snd item
  subst same
  trivial

/-- The check of a metadata item compares its URI with the created one. -/
theorem metadataCheck_named (owner : Option Address) (metadata : CachedMetadata) :
    Check.Named lib (metadataCheck lib entry owner metadata) := by
  intro uri locator registered
  have item := Check.registration_eq_some registered
  have same : Locator.metadata entry owner metadata.address = locator := congrArg Prod.snd item
  have key : metadata.content.uri = some uri := congrArg Prod.fst item
  subst same
  have valid : (metadataCheck lib entry owner metadata).2 = true := by
    by_contra refused
    rw [Check.registration, if_neg refused] at registered
    cases registered
  change uriMatches lib metadata.content.uri _ _ = true at valid
  rw [uriMatches, Bool.and_eq_true, key] at valid
  exact ⟨_, _, _, valid.2⟩

theorem endpointChecks_named (endpoint : CachedEndpoint) :
    ∀ check ∈ endpointChecks lib entry endpoint, Check.Named lib check := by
  intro check member
  rw [endpointChecks, List.mem_cons, List.mem_append, List.mem_map, List.mem_map] at member
  rcases member with rfl | ⟨resource, _, rfl⟩ | ⟨metadata, _, rfl⟩
  · exact endpointCheck_named endpoint
  · exact resourceCheck_named _ resource
  · exact metadataCheck_named _ metadata

theorem treeChecks_named (device : CachedDevice) : ∀ check ∈ treeChecks lib entry device, Check.Named lib check := by
  intro check member
  rw [treeChecks, List.mem_cons, List.mem_append, List.mem_append, List.mem_flatMap, List.mem_map,
    List.mem_map] at member
  rcases member with rfl | ⟨endpoint, _, inside⟩ | ⟨resource, _, rfl⟩ | ⟨metadata, _, rfl⟩
  · intro uri locator registered
    have item := Check.registration_eq_some registered
    have same : Locator.device entry = locator := congrArg Prod.snd item
    subst same
    trivial
  · exact endpointChecks_named endpoint check inside
  · exact resourceCheck_named _ resource
  · exact metadataCheck_named _ metadata

/-- The registration of such checks keeps every metadata locator under a metadata URI. -/
theorem MetadataNamed.register {index : UriIndex} (named : MetadataNamed lib index)
    {checks : List Check} (each : ∀ check ∈ checks, Check.Named lib check) :
    MetadataNamed lib (index.register (checks.map Check.registration)).2 := by
  apply Table.Satisfies.register named
  intro uri locator member
  obtain ⟨check, inside, registered⟩ := List.mem_map.mp member
  exact each check inside uri locator registered

theorem MetadataNamed.registerOne {index : UriIndex} (named : MetadataNamed lib index) {check : Check}
    (one : Check.Named lib check) : MetadataNamed lib (index.register [check.registration]).2 := by
  have each : ∀ other ∈ [check], Check.Named lib other := by
    intro other member
    rw [List.mem_singleton] at member
    exact member ▸ one
  exact named.register each

theorem MetadataNamed.withTree (named : MetadataNamed lib db.resourcesByUri) (device : DeviceRecord) :
    MetadataNamed lib (addedTree lib db device).2 :=
  named.register (treeChecks_named _)

/-- The replacement registers resources only. -/
theorem MetadataNamed.replaced {index : UriIndex} (named : MetadataNamed lib index)
    (found : CachedEndpoint) (resources : List CachedResource) :
    MetadataNamed lib (replaceEndpointResources lib entry index found resources) := by
  unfold replaceEndpointResources
  have erased : MetadataNamed lib (index.eraseAll (resourceUris found.content.resources)) :=
    Table.Satisfies.eraseAll named _
  generalize index.eraseAll (resourceUris found.content.resources) = kept at erased ⊢
  induction resources generalizing kept with
  | nil => exact erased
  | cons resource rest ih =>
      rw [List.foldl_cons, addDeviceResourceURIEntry_eq]
      exact ih _ (erased.registerOne (resourceCheck_named _ resource))

/-- A flush does not touch the index. -/
theorem MetadataNamed.flush {address : Address}
    (flushed : flushEntry lib db address stored = some (result, next))
    (named : MetadataNamed lib db.resourcesByUri) : MetadataNamed lib next.resourcesByUri :=
  named.of_lookup (flushEntry_same lib flushed).2.1.index

theorem MetadataNamed.cleaned (named : MetadataNamed lib db.resourcesByUri) {device : DeviceRecord}
    {index : UriIndex} {uris : List String}
    (origin : index = db.resourcesByUri ∨ ∃ erased, index = (addedTree lib db device).2.eraseAll erased) :
    MetadataNamed lib (destroyed db device index uris).resourcesByUri := by
  apply Table.Satisfies.eraseAll
  rcases origin with rfl | ⟨erased, rfl⟩
  · exact named
  · exact Table.Satisfies.eraseAll (named.withTree device) erased

theorem MetadataNamed.created (named : MetadataNamed lib db.resourcesByUri)
    {owner : Option Address} {metadata : DeviceMetadata}
    (created : createMetadata lib db entry owner metadata stored = some (result, next)) :
    MetadataNamed lib next.resourcesByUri := by
  rcases createMetadata_cases lib created with ⟨_, _, same⟩ | ⟨_, flushed⟩
  · exact same ▸ named
  · exact MetadataNamed.flush flushed (named.registerOne (metadataCheck_named _ _))

/-- Every call of the database keeps the metadata locators under metadata URIs. -/
theorem perform_metadataNamed (named : MetadataNamed lib db.resourcesByUri) {call : Call}
    (performed : perform lib db stored call = some (result, next)) :
    MetadataNamed lib next.resourcesByUri := by
  cases call with
  | reload =>
      obtain ⟨_, same⟩ := dropDevices_cases performed
      rw [same]
      exact Table.Satisfies.empty _
  | load json permissive =>
      rcases loadDevice_cases lib performed with ⟨_, same⟩ | ⟨device, _, loaded⟩
      · exact same ▸ named
      · rcases loadDeviceIntoCache_cases lib loaded with
          ⟨_, _, same⟩ | ⟨uuid, _, _, _, _, same⟩ | ⟨uuid, uris, index, _, _, _, same, origin⟩
        · exact same ▸ named
        · exact same ▸ named.withTree device
        · rw [same]
          exact named.cleaned (origin.imp_right fun deep => ⟨uris, deep.1⟩)
  | addDevice device =>
      rcases jsonDatabaseAddDevice_cases lib performed with
        ⟨_, _, same⟩ | ⟨uuid, _, _, _, _, _, same⟩ | ⟨uuid, uris, index, _, _, _, same, origin⟩
      · exact same ▸ named
      · rw [same]
        exact named.withTree device
      · rw [same]
        apply named.cleaned
        rcases origin with shallow | ⟨deep, _⟩ | ⟨kept, _⟩
        · exact Or.inl shallow
        · exact Or.inr ⟨uris, deep⟩
        · exact Or.inr ⟨[], kept⟩
  | addEndpoint endpoint =>
      rcases jsonDatabaseAddEndpoint_cases lib performed with
        ⟨_, _, grown, same⟩ | ⟨uuid, id, entry, _, _, _, ⟨_, _, same⟩ | ⟨_, _, same⟩⟩
      · exact same ▸ named
      · rw [same]
        exact named.register (endpointChecks_named _)
      · rw [same]
        exact named.register (endpointChecks_named _)
  | addResource ownerUri resource =>
      rcases jsonDatabaseAddResource_cases lib performed with ⟨_, same⟩ | ⟨address, owner, _, added⟩
      · exact same ▸ named
      · obtain ⟨entry, list, _, _, _, ⟨_, _, _, same⟩ | ⟨_, _, _, _, index⟩⟩ :=
          addResourceTo_cases lib added
        · rw [same]
          exact named.registerOne (resourceCheck_named _ _)
        · exact named.of_lookup index
  | saveEndpoint endpoint =>
      rcases jsonDatabaseSaveEndpoint_cases lib performed with
        ⟨_, same⟩ | ⟨uri, entry, found, _, _, ⟨_, flushed⟩ | ⟨_, flushed⟩⟩
      · exact same ▸ named
      · exact MetadataNamed.flush flushed named
      · exact MetadataNamed.flush flushed (named.replaced found _)
  | saveResource resource =>
      rcases jsonDatabaseSaveResource_cases lib performed with
        ⟨_, _, same⟩ | ⟨entry, address, _, ⟨_, _, same⟩ | ⟨_, flushed⟩⟩
      · exact same ▸ named
      · exact same ▸ named
      · exact MetadataNamed.flush flushed named
  | updateDateOfLastSyncMillis resource now =>
      rcases jsonDatabaseUpdateDateOfLastSyncMillis_cases performed with
        ⟨_, _, same⟩ | ⟨entry, address, _, _, same⟩
      · exact same ▸ named
      · exact same ▸ named
  | saveMetadata metadata =>
      rcases jsonDatabaseSaveMetadata_cases lib performed with
        ⟨_, same⟩ | ⟨uri, entry, owner, found, value, _, _, _, flushed⟩ | ⟨entry, _, flushed⟩ |
          ⟨entry, owner, _, created⟩
      · exact same ▸ named
      · exact MetadataNamed.flush flushed named
      · exact MetadataNamed.flush flushed named
      · exact named.created created
  | removeMetadataByUri uri =>
      rcases jsonDatabaseRemoveMetadataByUri_cases lib performed with
        ⟨_, same⟩ | ⟨entry, owner, address, list, _, _, _, ⟨_, flushed⟩ | ⟨_, _, same⟩⟩
      · exact same ▸ named
      · exact MetadataNamed.flush flushed (Table.Satisfies.erase named uri)
      · rw [same]
        exact Table.Satisfies.erase named uri
  | removeDeviceById uuid =>
      rcases jsonDatabaseRemoveDeviceById_cases performed with
        ⟨_, _, same⟩ | ⟨entry, uris, _, _, _, same⟩
      · exact same ▸ named
      · rw [same]
        exact Table.Satisfies.eraseAll named uris

/-- Every run of the database keeps the metadata locators under metadata URIs. -/
theorem run_metadataNamed {final : JsonDatabase} {calls : List (Call × Bool)}
    (initial : MetadataNamed lib db.resourcesByUri) (reached : run lib db calls = some final) :
    MetadataNamed lib final.resourcesByUri := by
  refine Runs.invariant (step lib) (fun db => MetadataNamed lib db.resourcesByUri) ?_ initial reached
  intro state input next named stepped
  obtain ⟨⟨result, after⟩, performed, rfl⟩ := Option.map_eq_some_iff.mp stepped
  exact perform_metadataNamed named performed

theorem MetadataNamed.empty (lib : Library) (storage : Storage) :
    MetadataNamed lib (JsonDatabase.empty storage).resourcesByUri :=
  Table.Satisfies.empty _

end

end Barton.Database
