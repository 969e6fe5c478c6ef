import BartonCore.Construction.Database.Serialization

namespace Barton.Database

section Lists
variable {Loaded : Type} {read : Json → Option Loaded} {documents : List Json} {items : List Loaded}

/-- Every item of a list comes from one of its documents. -/
theorem mem_readItems {permissive : Bool} (found : readItems read permissive documents = some items) :
    ∀ item ∈ items, ∃ json, read json = some item := by
  induction documents generalizing items with
  | nil =>
      rw [readItems, Option.some.injEq] at found
      simp [← found]
  | cons json rest ih =>
      unfold readItems at found
      split at found
      · rename_i first accepted
        obtain ⟨others, later, same⟩ := Option.map_eq_some_iff.mp found
        rw [← same, List.forall_mem_cons]
        exact ⟨⟨json, accepted⟩, ih later⟩
      · split at found
        · exact ih found
        · cases found

/-- A list that can be read strictly reads the same permissively. -/
theorem readItems_permissive (found : readItems read false documents = some items) :
    readItems read true documents = some items := by
  induction documents generalizing items with
  | nil => exact found
  | cons json rest ih =>
      unfold readItems at found ⊢
      split at found
      · obtain ⟨others, later, same⟩ := Option.map_eq_some_iff.mp found
        rw [ih later, Option.map_some, same]
      · simp at found

end Lists

section Valid
variable (lib : Library)

/-- These are the URI checks of the index for one resource. -/
def ValidResource (resource : DeviceResource) : Prop :=
  resourceUriIsValid lib resource.uri resource.deviceUuid resource.endpointId resource.id = true

def ValidMetadata (metadata : DeviceMetadata) : Prop :=
  metadataUriIsValid lib metadata.uri metadata.deviceUuid metadata.endpointId metadata.id = true

/-- Every URI of the endpoint passes its check. -/
structure ValidEndpoint (endpoint : DeviceEndpoint) : Prop where
  located : endpointUriIsValid lib endpoint.uri endpoint.deviceUuid endpoint.id = true
  resources : ∀ resource ∈ endpoint.resources, ValidResource lib resource
  metadata : ∀ item ∈ endpoint.metadata, ValidMetadata lib item

/-- Every URI of the device passes its check. -/
structure ValidDevice (device : DeviceRecord) : Prop where
  located : deviceUriIsValid lib device.uri device.uuid = true
  endpoints : ∀ endpoint ∈ device.endpoints, ValidEndpoint lib endpoint
  resources : ∀ resource ∈ device.resources, ValidResource lib resource
  metadata : ∀ item ∈ device.metadata, ValidMetadata lib item

end Valid

section Readers
variable {lib : Library} {context deviceUuid endpointId : Option String} {permissive : Bool} {json : Json}

theorem resourceFromJSON_valid {resource : DeviceResource}
    (read : resourceFromJSON lib deviceUuid endpointId context json = some resource) :
    ValidResource lib resource := by
  unfold resourceFromJSON at read
  dsimp only at read
  iterate 3
    split at read
    · cases read
  split at read
  · cases read
  rename_i valid
  split at read
  · cases read
  · cases read
    simpa [ValidResource] using valid

theorem metadataFromJSON_valid {metadata : DeviceMetadata}
    (read : metadataFromJSON lib deviceUuid endpointId json = some metadata) :
    ValidMetadata lib metadata := by
  unfold metadataFromJSON at read
  dsimp only at read
  iterate 2
    split at read
    · cases read
  split at read
  · cases read
  rename_i valid
  iterate 2
    split at read
    · cases read
  · cases read
    simpa [ValidMetadata] using valid

theorem resourcesFromJSON_valid {document : Option Json} {resources : List DeviceResource}
    (read : resourcesFromJSON lib deviceUuid endpointId context permissive document = some resources) :
    ∀ resource ∈ resources, ValidResource lib resource := by
  obtain ⟨list, _, found⟩ := Option.bind_eq_some_iff.mp read
  intro resource member
  obtain ⟨item, accepted⟩ := mem_readItems found resource member
  exact resourceFromJSON_valid accepted

theorem metadatasFromJSON_valid {document : Option Json} {metadata : List DeviceMetadata}
    (read : metadatasFromJSON lib deviceUuid endpointId permissive document = some metadata) :
    ∀ item ∈ metadata, ValidMetadata lib item := by
  obtain ⟨list, _, found⟩ := Option.bind_eq_some_iff.mp read
  intro item member
  obtain ⟨document, accepted⟩ := mem_readItems found item member
  exact metadataFromJSON_valid accepted

/-- An endpoint is read when its fields pass and its two lists can be read. -/
theorem endpointFromJSON_cases {endpoint : DeviceEndpoint}
    (read : endpointFromJSON lib deviceUuid context json = some endpoint) :
    endpointUriIsValid lib endpoint.uri endpoint.deviceUuid endpoint.id = true ∧
      resourcesFromJSON lib deviceUuid endpoint.id context false (json.getObjectItem "resources") =
        some endpoint.resources ∧
      metadatasFromJSON lib deviceUuid endpoint.id false (json.getObjectItem "metadatas") =
        some endpoint.metadata := by
  unfold endpointFromJSON at read
  dsimp only at read
  iterate 3
    split at read
    · cases read
  split at read
  · cases read
  rename_i valid
  split at read
  · cases read
  split at read
  · cases read
  split at read
  · cases read
  rename_i resources
  split at read
  · cases read
  rename_i metadata
  cases read
  exact ⟨by simpa using valid, resources, metadata⟩

theorem endpointFromJSON_valid {endpoint : DeviceEndpoint}
    (read : endpointFromJSON lib deviceUuid context json = some endpoint) : ValidEndpoint lib endpoint := by
  obtain ⟨valid, resources, metadata⟩ := endpointFromJSON_cases read
  exact ⟨valid, resourcesFromJSON_valid resources, metadatasFromJSON_valid metadata⟩

/-- A device is read when its fields pass and its three lists can be read. -/
theorem deviceFromJSON_cases {device : DeviceRecord}
    (read : deviceFromJSON lib context permissive json = some device) :
    deviceUriIsValid lib device.uri device.uuid = true ∧
      endpointsFromJSON lib device.uuid context permissive (json.getObjectItem "deviceEndpoints") =
        some device.endpoints ∧
      resourcesFromJSON lib device.uuid none context permissive (json.getObjectItem "deviceResources") =
        some device.resources ∧
      metadatasFromJSON lib device.uuid none permissive (json.getObjectItem "metadatas") =
        some device.metadata ∧
      ∀ other, endpointsFromJSON lib device.uuid context other (json.getObjectItem "deviceEndpoints") =
          some device.endpoints →
        resourcesFromJSON lib device.uuid none context other (json.getObjectItem "deviceResources") =
          some device.resources →
        metadatasFromJSON lib device.uuid none other (json.getObjectItem "metadatas") =
          some device.metadata → deviceFromJSON lib context other json = some device := by
  unfold deviceFromJSON at read
  dsimp only at read
  split at read
  · cases read
  rename_i printable
  split at read
  · cases read
  rename_i valid
  split at read
  · cases read
  rename_i driven
  split at read
  · cases read
  rename_i classified
  split at read
  · cases read
  · cases read
  rename_i endpoints someEndpoint endpointsRead
  split at read
  · cases read
  · cases read
  rename_i resources someResource resourcesRead
  split at read
  · cases read
  rename_i metadata metadataRead
  cases read
  refine ⟨by simpa using valid, endpointsRead, resourcesRead, metadataRead, ?_⟩
  intro other first second third
  unfold deviceFromJSON
  dsimp only at first second third ⊢
  rw [if_neg printable, if_neg valid, if_neg driven, if_neg classified, first, second, third]
  cases endpoints with
  | nil => exact (someEndpoint rfl).elim
  | cons endpoint others =>
      cases resources with
      | nil => exact (someResource rfl).elim
      | cons resource rest => rfl

theorem deviceFromJSON_valid {device : DeviceRecord}
    (read : deviceFromJSON lib context permissive json = some device) : ValidDevice lib device := by
  obtain ⟨valid, endpoints, resources, metadata, _⟩ := deviceFromJSON_cases read
  refine ⟨valid, ?_, resourcesFromJSON_valid resources, metadatasFromJSON_valid metadata⟩
  obtain ⟨list, _, found⟩ := Option.bind_eq_some_iff.mp endpoints
  intro endpoint member
  obtain ⟨item, accepted⟩ := mem_readItems found endpoint member
  exact endpointFromJSON_valid accepted

/-- A document that can be read strictly reads the same permissively. -/
theorem deviceFromJSON_permissive {device : DeviceRecord}
    (read : deviceFromJSON lib context false json = some device) :
    deviceFromJSON lib context true json = some device := by
  obtain ⟨_, endpoints, resources, metadata, rebuild⟩ := deviceFromJSON_cases read
  obtain ⟨_, first, endpoints⟩ := Option.bind_eq_some_iff.mp endpoints
  obtain ⟨_, second, resources⟩ := Option.bind_eq_some_iff.mp resources
  obtain ⟨_, third, metadata⟩ := Option.bind_eq_some_iff.mp metadata
  apply rebuild
  · rw [endpointsFromJSON, first, Option.bind_some, readItems_permissive endpoints]
  · rw [resourcesFromJSON, second, Option.bind_some, readItems_permissive resources]
  · rw [metadatasFromJSON, third, Option.bind_some, readItems_permissive metadata]

end Readers

end Barton.Database
