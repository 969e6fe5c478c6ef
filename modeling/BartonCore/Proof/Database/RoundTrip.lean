import BartonCore.Proof.Database.IndexRuns

namespace Barton.Database
open Rounding (toDouble toDouble_eq)

/-- The text of a string item. -/
def Json.asString : Json → Option String
  | .string value => some value
  | _ => none

/-- The value of a boolean item. -/
def Json.asBool : Json → Option Bool
  | .bool value => some value
  | _ => none

/-- These laws state the documented behavior of the JSON helpers and of the data protection. -/
structure Lawful (lib : Library) : Prop where
  empty : lib.stringIsEmpty none = true
  string : ∀ json name, lib.getCJSONString json name = (json.getObjectItem name).bind Json.asString
  bool : ∀ json name, lib.getCJSONBool json name = (json.getObjectItem name).bind Json.asBool
  int : ∀ json name (value : Int32), json.getObjectItem name = some (.number value.toInt) →
    lib.getCJSONInt json name = some value
  uint8 : ∀ json name (value : UInt8), json.getObjectItem name = some (.number value.toNat) →
    lib.getCJSONUInt8 json name = some value
  uint64 : ∀ json name (value : UInt64), value.toNat < 2 ^ 53 →
    json.getObjectItem name = some (.number value.toNat) → lib.getCJSONUInt64 json name = some value
  unprotected : ∀ space value secret, lib.simpleProtectConfigData space (some value) = some secret →
    lib.simpleUnprotectConfigData space secret = some value
  unprotectable : ∀ space, lib.simpleProtectConfigData space none = none

section Loadable
variable (lib : Library)

/-- These are the checks of the resource reader. A sensitive value must have been encrypted. -/
structure LoadableResource (deviceUuid endpointId : Option String) (resource : DeviceResource) :
    Prop where
  printable : lib.stringIsPrintable resource.id = true
  located : resourceUriIsValid lib resource.uri deviceUuid endpointId resource.id = true
  typed : lib.stringIsEmpty resource.type = false
  encrypted : resource.mode &&& resourceModeSensitive ≠ 0 → ∀ value, resource.value = some value →
    ∃ secret, lib.simpleProtectConfigData "devicedb" (some value) = some secret

/-- These are the checks of the metadata reader. A value that starts as an object is one, and the text that is
printed for it reads back as this object. -/
structure LoadableMetadata (deviceUuid endpointId : Option String) (metadata : DeviceMetadata) :
    Prop where
  printable : lib.stringIsPrintable metadata.id = true
  located : metadataUriIsValid lib metadata.uri deviceUuid endpointId metadata.id = true
  valued : lib.stringIsEmpty metadata.value = false
  complete : ∀ value json, metadata.value = some value → lib.cJSONParse value = some json →
    json.isObject = true → lib.cJSONParseComplete value = some json
  printed : ∀ value json, metadata.value = some value → lib.cJSONParse value = some json →
    json.isObject = true → lib.cJSONParseComplete (lib.cJSONPrint json) = some json ∧
      lib.stringIsEmpty (some (lib.cJSONPrint json)) = false

/-- These are the checks of the endpoint reader. -/
structure LoadableEndpoint (deviceUuid : Option String) (endpoint : DeviceEndpoint) : Prop where
  printable : lib.stringIsPrintable endpoint.id = true
  located : endpointUriIsValid lib endpoint.uri deviceUuid endpoint.id = true
  profiled : lib.stringIsEmpty endpoint.profile = false
  resources : ∀ resource ∈ endpoint.resources, LoadableResource lib deviceUuid endpoint.id resource
  metadata : ∀ item ∈ endpoint.metadata, LoadableMetadata lib deviceUuid endpoint.id item

/-- These are the checks of the device reader. -/
structure Loadable (device : DeviceRecord) : Prop where
  printable : lib.stringIsPrintable device.uuid = true
  located : deviceUriIsValid lib device.uri device.uuid = true
  driven : lib.stringIsEmpty device.managingDeviceDriver = false
  classified : lib.stringIsEmpty device.deviceClass = false
  someEndpoint : device.endpoints ≠ []
  someResource : device.resources ≠ []
  endpoints : ∀ endpoint ∈ device.endpoints, LoadableEndpoint lib device.uuid endpoint
  resources : ∀ resource ∈ device.resources, LoadableResource lib device.uuid none resource
  metadata : ∀ item ∈ device.metadata, LoadableMetadata lib device.uuid none item

/-- The loaded resource has the saved fields. A sync date is compared below `2^53`. -/
structure SameResource (saved loaded : DeviceResource) : Prop where
  id : loaded.id = saved.id
  uri : loaded.uri = saved.uri
  type : loaded.type = saved.type
  mode : loaded.mode = saved.mode
  cachingPolicy : loaded.cachingPolicy = saved.cachingPolicy
  value : loaded.value = saved.value
  date : saved.dateOfLastSyncMillis.toNat < 2 ^ 53 →
    loaded.dateOfLastSyncMillis = saved.dateOfLastSyncMillis

/-- The loaded metadata has the saved text or the saved JSON object. -/
structure SameMetadata (saved loaded : DeviceMetadata) : Prop where
  id : loaded.id = saved.id
  uri : loaded.uri = saved.uri
  value : loaded.value = saved.value ∨
    ∃ json, json.isObject = true ∧ saved.value.bind lib.cJSONParseComplete = some json ∧
      loaded.value.bind lib.cJSONParseComplete = some json

structure SameEndpoint (saved loaded : DeviceEndpoint) : Prop where
  id : loaded.id = saved.id
  uri : loaded.uri = saved.uri
  profile : loaded.profile = saved.profile
  profileVersion : loaded.profileVersion = saved.profileVersion
  enabled : loaded.enabled = saved.enabled
  resources : List.Forall₂ SameResource saved.resources loaded.resources
  metadata : List.Forall₂ (SameMetadata lib) saved.metadata loaded.metadata

structure SameDevice (saved loaded : DeviceRecord) : Prop where
  uuid : loaded.uuid = saved.uuid
  uri : loaded.uri = saved.uri
  deviceClass : loaded.deviceClass = saved.deviceClass
  deviceClassVersion : loaded.deviceClassVersion = saved.deviceClassVersion
  managingDeviceDriver : loaded.managingDeviceDriver = saved.managingDeviceDriver
  endpoints : List.Forall₂ (SameEndpoint lib) saved.endpoints loaded.endpoints
  resources : List.Forall₂ SameResource saved.resources loaded.resources
  metadata : List.Forall₂ (SameMetadata lib) saved.metadata loaded.metadata

end Loadable

section Fields

@[simp] theorem getObjectItem_nil (name : String) : (Json.object []).getObjectItem name = none := rfl

@[simp] theorem getObjectItem_cons (item : String × Json) (rest : List (String × Json)) (name : String) :
    (Json.object (item :: rest)).getObjectItem name =
      if item.1.toLower = name.toLower then some item.2 else (Json.object rest).getObjectItem name := by
  by_cases same : item.1.toLower = name.toLower
  · simp [Json.getObjectItem, same]
  · simp [Json.getObjectItem, same]

@[simp] theorem getObjectItem_addString (field : String) (value : Option String)
    (rest : List (String × Json)) (name : String) :
    (Json.object (addString field value ++ rest)).getObjectItem name =
      if field.toLower = name.toLower then
        (value.map Json.string).or ((Json.object rest).getObjectItem name)
      else (Json.object rest).getObjectItem name := by
  cases value with
  | none => simp [addString]
  | some value =>
      change (Json.object ((field, Json.string value) :: rest)).getObjectItem name = _
      rw [getObjectItem_cons]
      rfl

@[simp] theorem getObjectItem_addString_last (field : String) (value : Option String) (name : String) :
    (Json.object (addString field value)).getObjectItem name =
      if field.toLower = name.toLower then value.map Json.string else none := by
  have split := getObjectItem_addString field value [] name
  rwa [List.append_nil, getObjectItem_nil, Option.or_none] at split

/-- These are the field names without their capital letters. -/
theorem lower_names : "id".toLower = "id" ∧ "uri".toLower = "uri" ∧ "mode".toLower = "mode" ∧
    "cachingPolicy".toLower = "cachingpolicy" ∧
    "dateOfLastSyncMillis".toLower = "dateoflastsyncmillis" ∧ "value".toLower = "value" ∧
    "value_enc".toLower = "value_enc" ∧ "type".toLower = "type" ∧ "profile".toLower = "profile" ∧
    "enabled".toLower = "enabled" ∧ "profileVersion".toLower = "profileversion" ∧
    "resources".toLower = "resources" ∧ "metadatas".toLower = "metadatas" ∧ "uuid".toLower = "uuid" ∧
    "deviceDriver".toLower = "devicedriver" ∧ "deviceClass".toLower = "deviceclass" ∧
    "deviceClassVersion".toLower = "deviceclassversion" ∧
    "deviceEndpoints".toLower = "deviceendpoints" ∧ "deviceResources".toLower = "deviceresources" := by
  decide +kernel

/-- A string option read back from its item is unchanged. -/
@[simp] theorem bind_asString (value : Option String) :
    ((value.map Json.string).bind fun item => item.asString) = value := by
  cases value <;> rfl

theorem toDouble_uint8 (value : UInt8) : toDouble value.toNat = value.toNat := by
  apply toDouble_eq
  have bound := value.toNat_lt
  omega

end Fields

section Lists
variable {Item : Type}

/-- The strict list reader reads back every item that can be read back. -/
theorem readItems_map {Loaded : Type} (toJSON : Item → Json) (read : Json → Option Loaded)
    (same : Item → Loaded → Prop) (items : List Item)
    (each : ∀ item ∈ items, ∃ loaded, read (toJSON item) = some loaded ∧ same item loaded) :
    ∃ loaded, readItems read false (items.map toJSON) = some loaded ∧
      List.Forall₂ same items loaded := by
  induction items with
  | nil => exact ⟨[], rfl, List.Forall₂.nil⟩
  | cons item rest ih =>
      rw [List.forall_mem_cons] at each
      obtain ⟨first, found, equal⟩ := each.1
      obtain ⟨others, later, pairs⟩ := ih each.2
      refine ⟨first :: others, ?_, List.Forall₂.cons equal pairs⟩
      rw [List.map_cons, readItems, found]
      simp [later]

/-- The children of a list document are the documents of the items with an id. -/
theorem children_filter (id : Item → Option String) (toJSON : Item → Json) (items : List Item) :
    (itemsToJSON id toJSON items).children = (items.filter fun item => (id item).isSome).map toJSON := by
  unfold itemsToJSON Json.children
  induction items with
  | nil => rfl
  | cons item rest ih =>
      cases named : id item with
      | none | some => simpa [named] using ih

/-- The children of a list document are the documents of its items. -/
theorem children_itemsToJSON (id : Item → Option String) (toJSON : Item → Json) (items : List Item)
    (named : ∀ item ∈ items, id item ≠ none) :
    (itemsToJSON id toJSON items).children = items.map toJSON := by
  rw [children_filter, List.filter_eq_self.mpr fun item member => Option.isSome_iff_ne_none.mpr (named item member)]

end Lists

section Readers
variable {lib : Library} (lawful : Lawful lib) {deviceUuid endpointId : Option String}
include lawful

/-- A valid URI has its identifiers. -/
theorem Lawful.present {expected : String} {name : Option String} {required : List (Option String)}
    {given : Option String} (valid : uriMatches lib given required expected = true)
    (member : name ∈ required) : lib.stringIsEmpty name = false ∧ name ≠ none := by
  simp only [uriMatches, Bool.and_eq_true, List.all_eq_true, Bool.not_eq_true'] at valid
  have nonempty := valid.1.2 name member
  refine ⟨nonempty, ?_⟩
  intro absent
  rw [absent, lawful.empty] at nonempty
  exact absurd nonempty (by simp)

/-- These are the items of a resource document. -/
structure ResourceFields (lib : Library) (resource : DeviceResource) (json : Json) : Prop where
  id : json.getObjectItem "id" = resource.id.map Json.string
  uri : json.getObjectItem "uri" = resource.uri.map Json.string
  type : json.getObjectItem "type" = resource.type.map Json.string
  mode : json.getObjectItem "mode" = some (.number resource.mode.toNat)
  cachingPolicy : json.getObjectItem "cachingPolicy" = some (.number resource.cachingPolicy.toInt)
  date : json.getObjectItem "dateOfLastSyncMillis" =
    some (.number (toDouble resource.dateOfLastSyncMillis.toNat))
  plain : json.getObjectItem "value" = if resource.mode &&& resourceModeSensitive ≠ 0 then none
    else resource.value.map Json.string
  secret : json.getObjectItem "value_enc" = if resource.mode &&& resourceModeSensitive ≠ 0 then
    ((lib.simpleProtectConfigData "devicedb" resource.value).or resource.value).map Json.string else none

omit lawful in
theorem resourceToJSON_fields (resource : DeviceResource) :
    ResourceFields lib resource (resourceToJSON lib storageContext resource) := by
  by_cases sensitive : resource.mode &&& resourceModeSensitive = 0
  · constructor <;>
      simp [resourceToJSON, protectedValue, addNumber, toDouble_uint8, lower_names, sensitive]
  · constructor <;>
      simp [resourceToJSON, protectedValue, addNumber, toDouble_uint8, lower_names, sensitive,
        storageContext]

theorem Lawful.readString {json : Json} {name : String} {value : Option String}
    (item : json.getObjectItem name = value.map Json.string) : lib.getCJSONString json name = value := by
  rw [lawful.string, item]
  exact bind_asString value

/-- The value of a resource survives its encryption. -/
theorem Lawful.readValue {resource : DeviceResource} {json : Json} (fields : ResourceFields lib resource json)
    (encrypted : resource.mode &&& resourceModeSensitive ≠ 0 → ∀ value, resource.value = some value →
      ∃ secret, lib.simpleProtectConfigData "devicedb" (some value) = some secret) :
    (unprotectedValue lib storageContext resource.mode json).or (lib.getCJSONString json "value") =
      resource.value := by
  unfold unprotectedValue
  by_cases sensitive : resource.mode &&& resourceModeSensitive = 0
  · have plain := fields.plain
    rw [if_neg (not_not.mpr sensitive)] at plain
    rw [if_neg (not_not.mpr sensitive), Option.none_or]
    exact lawful.readString plain
  · have plain := fields.plain
    have secret := fields.secret
    rw [if_pos sensitive] at plain secret
    have absent : lib.getCJSONString json "value" = none := by
      rw [lawful.string, plain]
      rfl
    rw [if_pos sensitive, lawful.readString secret, absent, Option.or_none]
    cases given : resource.value with
    | none => simp [lawful.unprotectable]
    | some value =>
        obtain ⟨hidden, sealing⟩ := encrypted sensitive value given
        simp [sealing, storageContext, lawful.unprotected _ _ _ sealing]

/-- A valid resource document loads back to its resource. -/
theorem resource_round_trip {resource : DeviceResource}
    (loadable : LoadableResource lib deviceUuid endpointId resource) :
    ∃ loaded, resourceFromJSON lib deviceUuid endpointId storageContext
      (resourceToJSON lib storageContext resource) = some loaded ∧ SameResource resource loaded := by
  have owner := lawful.present loadable.located List.mem_cons_self
  have fields : ResourceFields lib resource _ := resourceToJSON_fields resource
  generalize resourceToJSON lib storageContext resource = json at fields
  have id := lawful.readString fields.id
  have uri := lawful.readString fields.uri
  have type := lawful.readString fields.type
  have mode := lawful.uint8 json "mode" resource.mode fields.mode
  have policy := lawful.int json "cachingPolicy" resource.cachingPolicy fields.cachingPolicy
  have value := lawful.readValue fields loadable.encrypted
  refine ⟨{ resource with
    endpointId, deviceUuid
    dateOfLastSyncMillis := (lib.getCJSONUInt64 json "dateOfLastSyncMillis").getD 0 }, ?_, ?_⟩
  · unfold resourceFromJSON
    simp [id, uri, type, mode, policy, value, owner.1, owner.2, loadable.printable, loadable.located,
      loadable.typed]
  · refine ⟨rfl, rfl, rfl, rfl, rfl, rfl, fun small => ?_⟩
    have date := fields.date
    rw [toDouble_eq small] at date
    rw [lawful.uint64 json _ _ small date]
    rfl

/-- These are the items of a metadata document. -/
structure MetadataFields (lib : Library) (metadata : DeviceMetadata) (json : Json) : Prop where
  id : json.getObjectItem "id" = metadata.id.map Json.string
  uri : json.getObjectItem "uri" = metadata.uri.map Json.string
  value : json.getObjectItem "value" = match metadata.value.bind lib.cJSONParse with
    | some (.object items) => some (.object items)
    | _ => metadata.value.map Json.string

omit lawful in
theorem metadataToJSON_fields (metadata : DeviceMetadata) :
    MetadataFields lib metadata (metadataToJSON lib metadata) := by
  unfold metadataToJSON metadataValueToJSON
  constructor
  · split <;> simp [lower_names]
  · split <;> simp [lower_names]
  · generalize metadata.value.bind lib.cJSONParse = parsed
    split <;> simp [lower_names]

/-- A metadata value loads back as text or as the same JSON object. -/
theorem Lawful.readMetadataValue {metadata : DeviceMetadata} {json : Json} (fields : MetadataFields lib metadata json)
    (loadable : LoadableMetadata lib deviceUuid endpointId metadata) :
    lib.stringIsEmpty (metadataValueFromJSON lib json) = false ∧
      (metadataValueFromJSON lib json = metadata.value ∨
        ∃ object, object.isObject = true ∧ metadata.value.bind lib.cJSONParseComplete = some object ∧
          (metadataValueFromJSON lib json).bind lib.cJSONParseComplete = some object) := by
  have item := fields.value
  by_cases parsed : ∃ items, metadata.value.bind lib.cJSONParse = some (.object items)
  · obtain ⟨items, parsed⟩ := parsed
    obtain ⟨value, given, read⟩ := Option.bind_eq_some_iff.mp parsed
    simp only [parsed] at item
    have printed := loadable.printed value _ given read rfl
    unfold metadataValueFromJSON
    rw [item]
    refine ⟨printed.2, Or.inr ⟨.object items, rfl, ?_, printed.1⟩⟩
    rw [given]
    exact loadable.complete value _ given read rfl
  · have plain : json.getObjectItem "value" = metadata.value.map Json.string := by
      rw [item]
      split
      · rename_i items found
        exact absurd ⟨items, found⟩ parsed
      · rfl
    have text := lawful.readString plain
    have string : metadataValueFromJSON lib json = metadata.value := by
      unfold metadataValueFromJSON
      rw [plain, text]
      cases metadata.value <;> rfl
    rw [string]
    exact ⟨loadable.valued, Or.inl rfl⟩

/-- A valid metadata document loads back to its metadata. -/
theorem metadata_round_trip {metadata : DeviceMetadata}
    (loadable : LoadableMetadata lib deviceUuid endpointId metadata) :
    ∃ loaded, metadataFromJSON lib deviceUuid endpointId (metadataToJSON lib metadata) = some loaded ∧
      SameMetadata lib metadata loaded := by
  have owner := lawful.present loadable.located List.mem_cons_self
  have fields : MetadataFields lib metadata _ := metadataToJSON_fields metadata
  generalize metadataToJSON lib metadata = json at fields
  have id := lawful.readString fields.id
  have uri := lawful.readString fields.uri
  obtain ⟨nonempty, value⟩ := lawful.readMetadataValue fields loadable
  refine ⟨{ metadata with endpointId, deviceUuid, value := metadataValueFromJSON lib json }, ?_, ?_⟩
  · unfold metadataFromJSON
    simp [id, uri, nonempty, owner.1, owner.2, loadable.printable, loadable.located]
  · exact ⟨rfl, rfl, value⟩

/-- A list of valid resources loads back. -/
theorem resources_round_trip {resources : List DeviceResource}
    (loadable : ∀ resource ∈ resources, LoadableResource lib deviceUuid endpointId resource) :
    ∃ loaded, resourcesFromJSON lib deviceUuid endpointId storageContext false
      (some (resourcesToJSON lib storageContext resources)) = some loaded ∧
      List.Forall₂ SameResource resources loaded := by
  have named : ∀ resource ∈ resources, resource.id ≠ none := fun resource member =>
    (lawful.present (loadable resource member).located (List.mem_cons_of_mem _ List.mem_cons_self)).2
  have read := readItems_map (resourceToJSON lib storageContext)
    (resourceFromJSON lib deviceUuid endpointId storageContext) SameResource resources
    fun resource member => resource_round_trip lawful (loadable resource member)
  unfold resourcesFromJSON resourcesToJSON
  rw [Option.bind_some, children_itemsToJSON _ _ _ named]
  exact read

/-- A list of valid metadata loads back. -/
theorem metadatas_round_trip {metadata : List DeviceMetadata}
    (loadable : ∀ item ∈ metadata, LoadableMetadata lib deviceUuid endpointId item) :
    ∃ loaded, metadatasFromJSON lib deviceUuid endpointId false
      (some (metadatasToJSON lib metadata)) = some loaded ∧
      List.Forall₂ (SameMetadata lib) metadata loaded := by
  have named : ∀ item ∈ metadata, item.id ≠ none := fun item member =>
    (lawful.present (loadable item member).located (List.mem_cons_of_mem _ List.mem_cons_self)).2
  have read := readItems_map (metadataToJSON lib) (metadataFromJSON lib deviceUuid endpointId)
    (SameMetadata lib) metadata fun item member => metadata_round_trip lawful (loadable item member)
  unfold metadatasFromJSON metadatasToJSON
  rw [Option.bind_some, children_itemsToJSON _ _ _ named]
  exact read

/-- A valid endpoint document loads back to its endpoint. -/
theorem endpoint_round_trip {deviceUuid : Option String} {endpoint : DeviceEndpoint}
    (loadable : LoadableEndpoint lib deviceUuid endpoint) :
    ∃ loaded, endpointFromJSON lib deviceUuid storageContext
      (endpointToJSON lib storageContext endpoint) = some loaded ∧
      SameEndpoint lib endpoint loaded := by
  have owner := lawful.present loadable.located List.mem_cons_self
  obtain ⟨resources, readResources, sameResources⟩ := resources_round_trip lawful loadable.resources
  obtain ⟨metadata, readMetadata, sameMetadata⟩ := metadatas_round_trip lawful loadable.metadata
  have id : lib.getCJSONString (endpointToJSON lib storageContext endpoint) "id" = endpoint.id :=
    lawful.readString (by simp [endpointToJSON, lower_names, addNumber])
  have uri : lib.getCJSONString (endpointToJSON lib storageContext endpoint) "uri" = endpoint.uri :=
    lawful.readString (by simp [endpointToJSON, lower_names, addNumber])
  have profile : lib.getCJSONString (endpointToJSON lib storageContext endpoint) "profile" =
      endpoint.profile :=
    lawful.readString (by simp [endpointToJSON, lower_names, addNumber])
  have enabled : lib.getCJSONBool (endpointToJSON lib storageContext endpoint) "enabled" =
      some endpoint.enabled := by
    rw [lawful.bool]
    simp [endpointToJSON, lower_names, Json.asBool]
  have version := lawful.uint8 (endpointToJSON lib storageContext endpoint) "profileVersion"
    endpoint.profileVersion (by simp [endpointToJSON, lower_names, addNumber, toDouble_uint8])
  have resourceItem : (endpointToJSON lib storageContext endpoint).getObjectItem "resources" =
      some (resourcesToJSON lib storageContext endpoint.resources) := by
    simp [endpointToJSON, lower_names, addNumber]
  have metadataItem : (endpointToJSON lib storageContext endpoint).getObjectItem "metadatas" =
      some (metadatasToJSON lib endpoint.metadata) := by
    simp [endpointToJSON, lower_names, addNumber]
  refine ⟨{ endpoint with deviceUuid, resources, metadata }, ?_, ?_⟩
  · unfold endpointFromJSON
    simp [id, uri, profile, enabled, version, resourceItem, metadataItem, readResources, readMetadata,
      owner.1, owner.2, loadable.printable, loadable.located, loadable.profiled]
  · exact ⟨rfl, rfl, rfl, rfl, rfl, sameResources, sameMetadata⟩

/-- A valid device document loads back to its device. -/
theorem device_round_trip {device : DeviceRecord} (loadable : Loadable lib device) :
    ∃ loaded, deviceFromJSON lib storageContext false (deviceToJSON lib storageContext device) =
      some loaded ∧ SameDevice lib device loaded := by
  have endpointNames : ∀ endpoint ∈ device.endpoints, endpoint.id ≠ none := fun endpoint member =>
    (lawful.present (loadable.endpoints endpoint member).located
      (List.mem_cons_of_mem _ List.mem_cons_self)).2
  obtain ⟨endpoints, readEndpoints, sameEndpoints⟩ := readItems_map (endpointToJSON lib storageContext)
    (endpointFromJSON lib device.uuid storageContext) (SameEndpoint lib) device.endpoints
    fun endpoint member => endpoint_round_trip lawful (loadable.endpoints endpoint member)
  obtain ⟨resources, readResources, sameResources⟩ := resources_round_trip lawful loadable.resources
  obtain ⟨metadata, readMetadata, sameMetadata⟩ := metadatas_round_trip lawful loadable.metadata
  have endpointsRead : endpointsFromJSON lib device.uuid storageContext false
      (some (endpointsToJSON lib storageContext device.endpoints)) = some endpoints := by
    unfold endpointsFromJSON endpointsToJSON
    rw [Option.bind_some, children_itemsToJSON _ _ _ endpointNames]
    exact readEndpoints
  have someEndpoint : endpoints ≠ [] := by
    intro empty
    subst empty
    exact loadable.someEndpoint (List.forall₂_nil_right_iff.mp sameEndpoints)
  have someResource : resources ≠ [] := by
    intro empty
    subst empty
    exact loadable.someResource (List.forall₂_nil_right_iff.mp sameResources)
  obtain ⟨firstEndpoint, restEndpoints, endpointShape⟩ := List.exists_cons_of_ne_nil someEndpoint
  obtain ⟨firstResource, restResources, resourceShape⟩ := List.exists_cons_of_ne_nil someResource
  have uri : lib.getCJSONString (deviceToJSON lib storageContext device) "uri" = device.uri :=
    lawful.readString (by simp [deviceToJSON, lower_names, addNumber])
  have uuid : lib.getCJSONString (deviceToJSON lib storageContext device) "uuid" = device.uuid :=
    lawful.readString (by simp [deviceToJSON, lower_names, addNumber])
  have driver : lib.getCJSONString (deviceToJSON lib storageContext device) "deviceDriver" =
      device.managingDeviceDriver :=
    lawful.readString (by simp [deviceToJSON, lower_names, addNumber])
  have deviceClass : lib.getCJSONString (deviceToJSON lib storageContext device) "deviceClass" =
      device.deviceClass :=
    lawful.readString (by simp [deviceToJSON, lower_names, addNumber])
  have version := lawful.uint8 (deviceToJSON lib storageContext device) "deviceClassVersion"
    device.deviceClassVersion (by simp [deviceToJSON, lower_names, addNumber, toDouble_uint8])
  have endpointItem : (deviceToJSON lib storageContext device).getObjectItem "deviceEndpoints" =
      some (endpointsToJSON lib storageContext device.endpoints) := by
    simp [deviceToJSON, lower_names, addNumber]
  have resourceItem : (deviceToJSON lib storageContext device).getObjectItem "deviceResources" =
      some (resourcesToJSON lib storageContext device.resources) := by
    simp [deviceToJSON, lower_names, addNumber]
  have metadataItem : (deviceToJSON lib storageContext device).getObjectItem "metadatas" =
      some (metadatasToJSON lib device.metadata) := by
    simp [deviceToJSON, lower_names, addNumber]
  refine ⟨{ device with endpoints, resources, metadata }, ?_, ?_⟩
  · unfold deviceFromJSON
    simp [uri, uuid, driver, deviceClass, version, endpointItem, resourceItem, metadataItem,
      endpointsRead, readResources, readMetadata, endpointShape, resourceShape, loadable.printable,
      loadable.located, loadable.driven, loadable.classified]
  · exact ⟨rfl, rfl, rfl, rfl, rfl, sameEndpoints, sameResources, sameMetadata⟩

end Readers

theorem sampleLibrary_lawful : Lawful sampleLibrary where
  empty := rfl
  string := by
    intro json name
    unfold sampleLibrary
    dsimp only
    cases json.getObjectItem name with
    | none => rfl
    | some item => cases item <;> rfl
  bool := by
    intro json name
    unfold sampleLibrary
    dsimp only
    cases json.getObjectItem name with
    | none => rfl
    | some item => cases item <;> rfl
  int := by
    intro json name value item
    simp [sampleLibrary, item]
  uint8 := by
    intro json name value item
    have bound : ((value.toNat : ℕ) : ℚ) ≤ 255 := by
      have small := value.toNat_lt
      exact_mod_cast Nat.le_of_lt_succ small
    simp [sampleLibrary, item, bound]
  uint64 := by
    intro json name value _ item
    simp [sampleLibrary, item]
  unprotected := by
    intro space value secret sealing
    simp only [sampleLibrary, Option.map_some, Option.some.injEq] at sealing
    subst sealing
    simp [sampleLibrary]
  unprotectable := fun _ => rfl

/-- A successful save of a held device stores a document that loads back to the device,
provided that the device passes the checks of the loader. -/
theorem saved_device_loads (lib : Library) (lawful : Lawful lib) (db next : JsonDatabase)
    (entry : CacheEntry) (loadable : Loadable lib entry.device.record) (stored : Bool)
    (saved : saveDevice lib db entry.device stored = (true, next)) :
    ∃ json loaded, next.storage.lookup (text entry.uuid) = some json ∧
      deviceFromJSON lib storageContext false json = some loaded ∧
      SameDevice lib entry.device.record loaded := by
  obtain ⟨loaded, read, same⟩ := device_round_trip lawful loadable
  refine ⟨_, loaded, ?_, read, same⟩
  rw [saveDevice_eq, Prod.mk.injEq] at saved
  obtain ⟨success, state⟩ := saved
  subst success state
  exact AList.lookup_insert _

/-- This device has children of every kind. -/
def fullDevice : DeviceRecord :=
  { sampleDevice with
    endpoints := [{
      id := some "1"
      uri := some "/a/ep/1"
      profile := some "light"
      profileVersion := 2
      deviceUuid := some "a"
      enabled := true
      resources := [{ sampleResource with
        id := some "pin"
        uri := some "/a/ep/1/r/pin"
        endpointId := some "1"
        value := some "1234"
        mode := resourceModeReadable ||| resourceModeSensitive
        dateOfLastSyncMillis := 1700000000000 }]
      metadata := [⟨some "note", some "/a/ep/1/m/note", some "1", some "a", some "porch"⟩] }]
    resources := [sampleResource]
    metadata := [⟨some "tags", some "/a/m/tags", none, some "a", some "\x7b\x7d"⟩] }

theorem fullDevice_loadable : Loadable sampleLibrary fullDevice := by
  have note : LoadableMetadata sampleLibrary (some "a") (some "1")
      ⟨some "note", some "/a/ep/1/m/note", some "1", some "a", some "porch"⟩ := by
    have text : sampleLibrary.cJSONParse "porch" = none := by simp [sampleLibrary]
    refine ⟨by decide +kernel, by decide +kernel, by decide +kernel, ?_, ?_⟩
    · intro value json given parsed _
      cases given
      rw [text] at parsed
      cases parsed
    · intro value json given parsed _
      cases given
      rw [text] at parsed
      cases parsed
  have tags : LoadableMetadata sampleLibrary (some "a") none
      ⟨some "tags", some "/a/m/tags", none, some "a", some "\x7b\x7d"⟩ := by
    refine ⟨by decide +kernel, by decide +kernel, by decide +kernel, ?_, ?_⟩
    · intro value json given parsed _
      cases given
      exact parsed
    · intro value json given parsed _
      cases given
      cases parsed
      exact ⟨by simp [sampleLibrary], by decide +kernel⟩
  refine ⟨by decide +kernel, by decide +kernel, by decide +kernel, by decide +kernel,
    List.cons_ne_nil _ _, List.cons_ne_nil _ _, ?_, ?_, ?_⟩
  · intro endpoint member
    rw [List.mem_singleton.mp member]
    refine ⟨by decide +kernel, by decide +kernel, by decide +kernel, ?_, ?_⟩
    · intro resource inside
      rw [List.mem_singleton.mp inside]
      exact ⟨by decide +kernel, by decide +kernel, by decide +kernel, fun _ value _ => ⟨_, rfl⟩⟩
    · intro item inside
      rw [List.mem_singleton.mp inside]
      exact note
  · intro resource inside
    rw [List.mem_singleton.mp inside]
    exact ⟨by decide +kernel, by decide +kernel, by decide +kernel, fun _ value _ => ⟨_, rfl⟩⟩
  · intro item inside
    rw [List.mem_singleton.mp inside]
    exact tags

theorem saved_device_loads_sample :
    ∃ db entry next, run sampleLibrary (JsonDatabase.empty ∅) [(.addDevice fullDevice, true)] = some db ∧
      db.devices = [entry] ∧ saveDevice sampleLibrary db entry.device true = (true, next) ∧
      ∃ json loaded, next.storage.lookup (text entry.uuid) = some json ∧
        deviceFromJSON sampleLibrary storageContext false json = some loaded ∧
        SameDevice sampleLibrary entry.device.record loaded := by
  have loadable : Loadable sampleLibrary (newEntry (JsonDatabase.empty ∅) fullDevice).device.record := by
    rw [show (newEntry (JsonDatabase.empty ∅) fullDevice).device.record = fullDevice from
      deviceClone_record _ _]
    exact fullDevice_loadable
  exact ⟨_, newEntry (JsonDatabase.empty ∅) fullDevice, _, rfl, rfl, rfl,
    saved_device_loads sampleLibrary sampleLibrary_lawful _ _ _ loadable true rfl⟩

/-- A device without endpoints is accepted and saved but does not load. -/
theorem not_saved_device_loads :
    ¬∀ (lib : Library), Lawful lib → ∀ (storage : Storage) (documents : List (Json × Bool))
      (calls : List (Call × Bool)) (first db next : JsonDatabase) (entry : CacheEntry) (stored : Bool),
      jsonDatabaseInitialize lib storage documents = some first → run lib first calls = some db →
      entry ∈ db.devices → saveDevice lib db entry.device stored = (true, next) →
      ∃ json loaded, next.storage.lookup (text entry.uuid) = some json ∧
        deviceFromJSON lib storageContext false json = some loaded ∧
        SameDevice lib entry.device.record loaded := by
  intro claim
  obtain ⟨json, loaded, held, read, _⟩ := claim sampleLibrary sampleLibrary_lawful ∅ []
    [(.addDevice sampleDevice, true)] _ _ _ (newEntry (JsonDatabase.empty ∅) sampleDevice) true rfl rfl
    List.mem_cons_self rfl
  have document : json = deviceToJSON sampleLibrary storageContext sampleDevice := by
    have same := held.symm.trans (AList.lookup_insert _)
    rw [Option.some.injEq] at same
    rw [same]
    exact congrArg (deviceToJSON sampleLibrary storageContext) (deviceClone_record _ _)
  have refused : (deviceFromJSON sampleLibrary storageContext false
      (deviceToJSON sampleLibrary storageContext sampleDevice)).isSome = false := by decide +kernel
  rw [← document, read] at refused
  exact absurd refused (by simp)

end Barton.Database
