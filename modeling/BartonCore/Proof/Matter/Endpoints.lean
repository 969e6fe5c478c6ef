import BartonCore.Construction.Matter.Endpoints

namespace Barton.Endpoints

open Registry

/-- The cache of a device whose parts list is known lists every endpoint once. -/
structure Composition where
  cache : ClusterStateCache
  partsList : List EndpointId
  listed : ((cache 0).lookup descriptor).bind ClusterState.partsList = some partsList
  distinct : partsList.Nodup

namespace Composition

variable (composition : Composition) (deviceTypes : List UInt16)

def deviceDataCache : DeviceDataCache := ⟨some composition.cache⟩

/-- The map may hold the endpoints of an earlier resolution. -/
def device (sbmdEndpointMap : Table UInt32 EndpointId) : MatterDevice :=
  ⟨some composition.deviceDataCache, sbmdEndpointMap⟩

/-- The root endpoint comes before the listed ones. -/
def endpoints : List EndpointId := 0 :: composition.partsList

def Hosts (endpointId : EndpointId) (clusterId : ClusterId) : Prop :=
  clusterId ∈ composition.cache endpointId

/-- These are the device types of an endpoint with their full ids. -/
def deviceTypeIds (endpointId : EndpointId) : List DeviceTypeId :=
  (((composition.cache endpointId).lookup descriptor).bind ClusterState.deviceTypeList).getD []

/-- The driver supports one of the device types of the endpoint. -/
def Supported (endpointId : EndpointId) : Prop :=
  ∃ deviceType ∈ composition.deviceTypeIds endpointId, ∃ supported ∈ deviceTypes,
    deviceType.toNat = supported.toNat

/-- The driver lists the low half of a device type id of the endpoint. -/
def Narrowed (endpointId : EndpointId) : Prop :=
  ∃ deviceType ∈ composition.deviceTypeIds endpointId, ∃ supported ∈ deviceTypes,
    deviceType.toNat % 2 ^ 16 = supported.toNat

instance (endpointId : EndpointId) : Decidable (composition.Supported deviceTypes endpointId) := by
  unfold Supported
  infer_instance

instance (endpointId : EndpointId) : Decidable (composition.Narrowed deviceTypes endpointId) := by
  unfold Narrowed
  infer_instance

/-- These are the endpoints of the supported device types in the order of the parts list. -/
def supportedEndpoints : List EndpointId :=
  composition.partsList.filter fun endpointId =>
    endpointId ≠ 0 ∧ composition.Supported deviceTypes endpointId

end Composition

variable (composition : Composition)

/-- The resolution of a cluster answers with a hosting endpoint, the mapped one if possible. -/
structure Answers (device : MatterDevice) : Prop where
  hosts : ∀ clusterId sbmdIndex endpointId,
    device.resolveEndpointForCluster clusterId sbmdIndex = some endpointId →
      composition.Hosts endpointId clusterId
  mapped : ∀ clusterId sbmdIndex endpointId,
    device.getEndpointForSbmdIndex sbmdIndex = some endpointId → composition.Hosts endpointId clusterId →
      device.resolveEndpointForCluster clusterId (some sbmdIndex) = some endpointId
  fails : ∀ clusterId sbmdIndex, device.resolveEndpointForCluster clusterId sbmdIndex = none ↔
    (∃ index, sbmdIndex = some index ∧ device.getEndpointForSbmdIndex index = none) ∨
      ∀ endpointId ∈ composition.endpoints, ¬ composition.Hosts endpointId clusterId

section cache

@[simp] theorem endpointHasServerCluster_iff (endpointId : EndpointId) (clusterId : ClusterId) :
    composition.deviceDataCache.endpointHasServerCluster endpointId clusterId = true ↔
      composition.Hosts endpointId clusterId := by
  simp [DeviceDataCache.endpointHasServerCluster, Composition.deviceDataCache, Composition.Hosts,
    AList.mem_keys]

@[simp] theorem getEndpointIds_eq : composition.deviceDataCache.getEndpointIds = composition.endpoints := by
  simp only [DeviceDataCache.getEndpointIds, Composition.deviceDataCache, composition.listed,
    Composition.endpoints]

/-- An endpoint without cached device types reads as one with none. -/
theorem getDeviceTypes_getD (endpointId : EndpointId) :
    (composition.deviceDataCache.getDeviceTypes endpointId).getD [] =
      (composition.deviceTypeIds endpointId).map UInt32.toUInt16 := by
  unfold DeviceDataCache.getDeviceTypes Composition.deviceTypeIds
  split
  next hosted =>
    simp only [Composition.deviceDataCache, Option.bind_eq_bind, Option.bind_some, Option.pure_def]
    cases (composition.cache endpointId).lookup descriptor with
    | none => rfl
    | some cluster =>
        simp only [Option.bind_some]
        cases cluster.deviceTypeList <;> rfl
  next unhosted =>
    have absent : descriptor ∉ composition.cache endpointId := by
      simpa only [endpointHasServerCluster_iff, Composition.Hosts] using unhosted
    rw [AList.lookup_eq_none.mpr absent]
    rfl

end cache

section answers

/-- The scan finds a hosting endpoint if there is one. -/
theorem getEndpointForCluster_cases {device : MatterDevice}
    (cached : device.deviceDataCache = some composition.deviceDataCache) (clusterId : ClusterId) :
    (∃ endpointId ∈ composition.endpoints, composition.Hosts endpointId clusterId ∧
      device.getEndpointForCluster clusterId = some endpointId) ∨
    ((∀ endpointId ∈ composition.endpoints, ¬ composition.Hosts endpointId clusterId) ∧
      device.getEndpointForCluster clusterId = none) := by
  unfold MatterDevice.getEndpointForCluster
  rw [cached]
  dsimp only
  rw [getEndpointIds_eq]
  cases found : composition.endpoints.find?
      (composition.deviceDataCache.endpointHasServerCluster · clusterId) with
  | none =>
      right
      refine ⟨fun endpointId member hosted => ?_, rfl⟩
      exact List.find?_eq_none.mp found endpointId member
        ((endpointHasServerCluster_iff composition endpointId clusterId).mpr hosted)
  | some endpointId =>
      left
      refine ⟨endpointId, List.mem_of_find?_eq_some found, ?_, rfl⟩
      have hosted : composition.deviceDataCache.endpointHasServerCluster endpointId clusterId = true := by
        simpa using List.find?_some found
      exact (endpointHasServerCluster_iff composition endpointId clusterId).mp hosted

/-- A map of listed endpoints makes the resolution of a cluster answer. -/
theorem answers_of_map {device : MatterDevice}
    (cached : device.deviceDataCache = some composition.deviceDataCache)
    (inside : ∀ sbmdIndex endpointId, device.getEndpointForSbmdIndex sbmdIndex = some endpointId →
      endpointId ∈ composition.endpoints) :
    Answers composition device := by
  have resolved : ∀ clusterId sbmdIndex endpointId,
      device.getEndpointForSbmdIndex sbmdIndex = some endpointId →
        device.resolveEndpointForCluster clusterId (some sbmdIndex) =
          if composition.deviceDataCache.endpointHasServerCluster endpointId clusterId then some endpointId
          else device.getEndpointForCluster clusterId := by
    intro clusterId sbmdIndex endpointId found
    simp only [MatterDevice.resolveEndpointForCluster, cached, found]
  have unmapped : ∀ clusterId sbmdIndex, device.getEndpointForSbmdIndex sbmdIndex = none →
      device.resolveEndpointForCluster clusterId (some sbmdIndex) = none := by
    intro clusterId sbmdIndex absent
    simp only [MatterDevice.resolveEndpointForCluster, cached, absent]
  have unindexed : ∀ clusterId, device.resolveEndpointForCluster clusterId none =
      device.getEndpointForCluster clusterId := by
    intro clusterId
    simp only [MatterDevice.resolveEndpointForCluster, cached]
  have scanned := getEndpointForCluster_cases composition cached
  constructor
  · intro clusterId sbmdIndex endpointId answer
    have scan : device.getEndpointForCluster clusterId = some endpointId →
        composition.Hosts endpointId clusterId := by
      intro found
      rcases scanned clusterId with ⟨other, -, hosted, same⟩ | ⟨-, absent⟩
      · rw [found] at same
        exact Option.some.inj same ▸ hosted
      · simp [absent] at found
    cases sbmdIndex with
    | none => exact scan (unindexed clusterId ▸ answer)
    | some index =>
        cases mapped : device.getEndpointForSbmdIndex index with
        | none => simp [unmapped clusterId index mapped] at answer
        | some other =>
            rw [resolved clusterId index other mapped] at answer
            split at answer
            next hosted =>
              rw [← Option.some.inj answer]
              exact (endpointHasServerCluster_iff composition other clusterId).mp hosted
            next => exact scan answer
  · intro clusterId sbmdIndex endpointId found hosted
    rw [resolved clusterId sbmdIndex endpointId found,
      if_pos ((endpointHasServerCluster_iff composition endpointId clusterId).mpr hosted)]
  · intro clusterId sbmdIndex
    have scan : device.getEndpointForCluster clusterId = none ↔
        ∀ endpointId ∈ composition.endpoints, ¬ composition.Hosts endpointId clusterId := by
      rcases scanned clusterId with ⟨endpointId, member, hosted, found⟩ | ⟨absent, none⟩
      · simp only [found, reduceCtorEq, false_iff]
        exact fun unhosted => unhosted endpointId member hosted
      · simp only [none, true_iff]
        exact absent
    cases sbmdIndex with
    | none => simp [unindexed, scan]
    | some index =>
        cases mapped : device.getEndpointForSbmdIndex index with
        | none => simp [unmapped clusterId index mapped, mapped]
        | some endpointId =>
            rw [resolved clusterId index endpointId mapped]
            split
            next hosted =>
              have hosts := (endpointHasServerCluster_iff composition endpointId clusterId).mp hosted
              simp only [reduceCtorEq, Option.some.injEq, exists_eq_left', mapped, false_or, false_iff]
              exact fun unhosted => unhosted endpointId (inside index endpointId mapped) hosts
            next => simp [scan, mapped]

end answers

variable (deviceTypes : List UInt16)

/-- The map succeeds for a supported endpoint and numbers the supported endpoints. -/
structure Resolves (sbmdEndpointMap : Table UInt32 EndpointId) : Prop where
  succeeds : ((composition.device sbmdEndpointMap).resolveEndpointMap deviceTypes).1 = true ↔
    ∃ endpointId ∈ composition.partsList, endpointId ≠ 0 ∧ composition.Supported deviceTypes endpointId
  numbers : ((composition.device sbmdEndpointMap).resolveEndpointMap deviceTypes).1 = true →
    ∀ sbmdIndex : UInt32,
      ((composition.device sbmdEndpointMap).resolveEndpointMap deviceTypes).2.getEndpointForSbmdIndex
        sbmdIndex = (composition.supportedEndpoints deviceTypes)[sbmdIndex.toNat]?
  answers : ((composition.device sbmdEndpointMap).resolveEndpointMap deviceTypes).1 = true →
    Answers composition ((composition.device sbmdEndpointMap).resolveEndpointMap deviceTypes).2

section narrowing

/-- The search compares the low halves of the ids. -/
theorem accepted_iff (endpointId : EndpointId) :
    ((composition.deviceDataCache.getDeviceTypes endpointId).getD []).any deviceTypes.contains = true ↔
      composition.Narrowed deviceTypes endpointId := by
  rw [getDeviceTypes_getD, List.any_map, List.any_eq_true]
  simp only [Composition.Narrowed, Function.comp_apply, List.contains_iff_mem]
  refine exists_congr fun deviceType => and_congr_right fun _ => ?_
  constructor
  · exact fun member => ⟨_, member, (UInt32.toNat_toUInt16 deviceType).symm⟩
  · rintro ⟨supported, member, same⟩
    have equal : deviceType.toUInt16 = supported :=
      UInt16.toNat_inj.mp ((UInt32.toNat_toUInt16 deviceType).trans same)
    exact equal ▸ member

/-- A supported device type is one with its low half in the list. -/
theorem Composition.Supported.narrowed {endpointId : EndpointId}
    (supports : composition.Supported deviceTypes endpointId) :
    composition.Narrowed deviceTypes endpointId := by
  obtain ⟨deviceType, listed, supported, member, same⟩ := supports
  have small := supported.toNat_lt
  exact ⟨deviceType, listed, supported, member, by omega⟩

end narrowing

section loop

/-- These are the endpoints that the loop maps. -/
def Composition.mappedEndpoints : List EndpointId :=
  composition.partsList.filter fun endpointId =>
    endpointId ≠ 0 ∧ composition.Narrowed deviceTypes endpointId

/-- The endpoints get consecutive indexes. -/
def number : List EndpointId → UInt32 → Table UInt32 EndpointId → Table UInt32 EndpointId
  | [], _, map => map
  | endpointId :: rest, index, map => number rest (index + 1) (map.insert index endpointId)

/-- The loop numbers the endpoints that pass its tests. -/
theorem resolveEndpoints_eq (endpointIds : List EndpointId) (index : UInt32)
    (map : Table UInt32 EndpointId) :
    resolveEndpoints composition.deviceDataCache deviceTypes endpointIds index map =
      number (endpointIds.filter fun endpointId =>
        endpointId ≠ 0 ∧ composition.Narrowed deviceTypes endpointId) index map := by
  induction endpointIds generalizing index map with
  | nil => rfl
  | cons endpointId rest ih =>
      have accepted := accepted_iff composition deviceTypes endpointId
      rw [resolveEndpoints]
      by_cases root : endpointId = 0
      · rw [if_pos root, ih, List.filter_cons_of_neg (by simp [root])]
      · rw [if_neg root]
        cases read : composition.deviceDataCache.getDeviceTypes endpointId with
        | none =>
            have refused : ¬ composition.Narrowed deviceTypes endpointId := by
              simpa [read] using accepted
            rw [List.filter_cons_of_neg (by simp [refused])]
            exact ih index map
        | some endpointDeviceTypes =>
            rw [read, Option.getD_some] at accepted
            by_cases narrowed : composition.Narrowed deviceTypes endpointId
            · rw [List.filter_cons_of_pos (by simp [root, narrowed]), number]
              simp only [accepted.mpr narrowed, if_true]
              exact ih (index + 1) _
            · rw [List.filter_cons_of_neg (by simp [narrowed])]
              simp only [mt accepted.mp narrowed, if_false, Bool.false_eq_true]
              exact ih index map

/-- An index below the first one keeps its endpoint, and the others count the list. -/
theorem lookup_number (endpointIds : List EndpointId) (first : UInt32) (map : Table UInt32 EndpointId)
    (fits : first.toNat + endpointIds.length < 2 ^ 32) (index : UInt32)
    (fresh : first ≤ index → map.lookup index = none) :
    (number endpointIds first map).lookup index =
      if index < first then map.lookup index else endpointIds[index.toNat - first.toNat]? := by
  induction endpointIds generalizing first map with
  | nil =>
      by_cases below : index < first
      · simp [number, below]
      · simp [number, below, fresh (UInt32.not_lt.mp below)]
  | cons endpointId rest ih =>
      rw [List.length_cons] at fits
      have next : (first + 1).toNat = first.toNat + 1 := by
        rw [UInt32.toNat_add]
        exact Nat.mod_eq_of_lt (by simp only [UInt32.toNat_one]; omega)
      have fits' : (first + 1).toNat + rest.length < 2 ^ 32 := by omega
      have fresh' : first + 1 ≤ index → (map.insert first endpointId).lookup index = none := by
        intro above
        rw [UInt32.le_iff_toNat_le, next] at above
        have other : index ≠ first := by
          rintro rfl
          omega
        rw [AList.lookup_insert_ne other]
        exact fresh (UInt32.le_iff_toNat_le.mpr (by omega))
      rw [number, ih (first + 1) _ fits' fresh']
      simp only [UInt32.lt_iff_toNat_lt, next]
      rcases Nat.lt_trichotomy index.toNat first.toNat with below | same | above
      · have other : index ≠ first := by
          rintro rfl
          omega
        rw [if_pos (by omega), if_pos below, AList.lookup_insert_ne other]
      · have equal : index = first := UInt32.toNat_inj.mp same
        subst equal
        simp
      · rw [if_neg (by omega), if_neg (by omega)]
        obtain ⟨distance, split⟩ : ∃ distance, index.toNat - first.toNat = distance + 1 :=
          ⟨index.toNat - first.toNat - 1, by omega⟩
        have earlier : index.toNat - (first.toNat + 1) = distance := by omega
        rw [split, earlier, List.getElem?_cons_succ]

/-- A list of distinct endpoints has at most one for each 16-bit id. -/
theorem length_le_of_nodup {endpointIds : List EndpointId} (distinct : endpointIds.Nodup) :
    endpointIds.length ≤ 2 ^ 16 := by
  have images : (endpointIds.map UInt16.toNat).Nodup :=
    distinct.map fun _ _ same => UInt16.toNat_inj.mp same
  have bounded : endpointIds.map UInt16.toNat ⊆ List.range (2 ^ 16) := by
    intro value member
    obtain ⟨endpointId, -, rfl⟩ := List.mem_map.mp member
    exact List.mem_range.mpr endpointId.toNat_lt
  simpa using (images.subperm bounded).length_le

/-- Lists of distinct endpoints are equal if they agree at every 32-bit index. -/
theorem eq_of_getElem?_uint32 {first second : List EndpointId} (distinct : first.Nodup)
    (distinct' : second.Nodup) (agree : ∀ index : UInt32, first[index.toNat]? = second[index.toNat]?) :
    first = second := by
  apply List.ext_getElem?
  intro position
  have short := length_le_of_nodup distinct
  have short' := length_le_of_nodup distinct'
  by_cases small : position < 2 ^ 32
  · have same := agree (UInt32.ofNat position)
    rwa [UInt32.toNat_ofNat', Nat.mod_eq_of_lt small] at same
  · rw [List.getElem?_eq_none (by omega), List.getElem?_eq_none (by omega)]

/-- Each index holds the endpoint at its place. -/
theorem lookup_number_zero {endpointIds : List EndpointId} (distinct : endpointIds.Nodup)
    (index : UInt32) : (number endpointIds 0 ∅).lookup index = endpointIds[index.toNat]? := by
  have small := length_le_of_nodup distinct
  rw [lookup_number endpointIds 0 ∅ (by rw [UInt32.toNat_zero]; omega) index fun _ => AList.lookup_empty index]
  simp

end loop

section resolution

variable (sbmdEndpointMap : Table UInt32 EndpointId)

theorem mappedEndpoints_nodup : (composition.mappedEndpoints deviceTypes).Nodup :=
  composition.distinct.filter _

/-- The loop leaves the root endpoint out. -/
theorem resolveEndpoints_endpoints :
    resolveEndpoints composition.deviceDataCache deviceTypes composition.deviceDataCache.getEndpointIds 0 ∅ =
      number (composition.mappedEndpoints deviceTypes) 0 ∅ := by
  rw [resolveEndpoints_eq, getEndpointIds_eq, Composition.endpoints, List.filter_cons_of_neg (by simp)]
  rfl

/-- No device type is supported by an empty list. -/
theorem mappedEndpoints_nil : composition.mappedEndpoints [] = [] := by
  rw [Composition.mappedEndpoints, List.filter_eq_nil_iff]
  simp [Composition.Narrowed]

/-- The map that a successful resolution leaves holds the mapped endpoints. -/
theorem resolveEndpointMap_lookup
    (success : ((composition.device sbmdEndpointMap).resolveEndpointMap deviceTypes).1 = true)
    (sbmdIndex : UInt32) :
    ((composition.device sbmdEndpointMap).resolveEndpointMap deviceTypes).2.getEndpointForSbmdIndex
      sbmdIndex = (composition.mappedEndpoints deviceTypes)[sbmdIndex.toNat]? := by
  unfold MatterDevice.resolveEndpointMap Composition.device at success ⊢
  dsimp only at success ⊢
  split at success
  · simp at success
  · rw [if_neg ‹_›, MatterDevice.getEndpointForSbmdIndex, resolveEndpoints_endpoints]
    exact lookup_number_zero (mappedEndpoints_nodup composition deviceTypes) sbmdIndex

/-- A numbered list is empty only if the list is. -/
theorem keys_number_isEmpty {endpointIds : List EndpointId} (distinct : endpointIds.Nodup) :
    (number endpointIds 0 ∅).keys.isEmpty = endpointIds.isEmpty := by
  rw [Bool.eq_iff_iff, List.isEmpty_iff, List.isEmpty_iff]
  constructor
  · intro empty
    have first := lookup_number_zero distinct 0
    have absent : (0 : UInt32) ∉ number endpointIds 0 ∅ := by
      intro member
      have listed := AList.mem_keys.mp member
      rw [empty] at listed
      exact List.not_mem_nil listed
    rw [AList.lookup_eq_none.mpr absent] at first
    exact List.eq_nil_of_length_eq_zero (by simpa using first.symm)
  · rintro rfl
    rfl

/-- The resolution succeeds exactly if it maps an endpoint. -/
theorem resolveEndpointMap_success :
    ((composition.device sbmdEndpointMap).resolveEndpointMap deviceTypes).1 = true ↔
      composition.mappedEndpoints deviceTypes ≠ [] := by
  unfold MatterDevice.resolveEndpointMap Composition.device
  dsimp only
  split
  next empty =>
    rw [List.isEmpty_iff.mp empty, mappedEndpoints_nil]
    simp
  next =>
    rw [resolveEndpoints_endpoints, keys_number_isEmpty (mappedEndpoints_nodup composition deviceTypes)]
    simp

@[simp] theorem resolveEndpointMap_cache :
    ((composition.device sbmdEndpointMap).resolveEndpointMap deviceTypes).2.deviceDataCache =
      some composition.deviceDataCache := by
  unfold MatterDevice.resolveEndpointMap Composition.device
  dsimp only
  split <;> rfl

end resolution

section exactness

/-- No listed endpoint has only the low half of a supported device type. -/
def Composition.Unambiguous : Prop :=
  ∀ endpointId ∈ composition.partsList, endpointId ≠ 0 →
    composition.Narrowed deviceTypes endpointId → composition.Supported deviceTypes endpointId

/-- The two selections agree exactly without a vendor specific device type. -/
theorem mappedEndpoints_eq_iff :
    composition.mappedEndpoints deviceTypes = composition.supportedEndpoints deviceTypes ↔
      composition.Unambiguous deviceTypes := by
  constructor
  · intro same endpointId listed nonzero narrowed
    have mapped : endpointId ∈ composition.mappedEndpoints deviceTypes :=
      List.mem_filter.mpr ⟨listed, by simp [nonzero, narrowed]⟩
    rw [same] at mapped
    have passed := (List.mem_filter.mp mapped).2
    simp only [nonzero, ne_eq, not_false_eq_true, true_and, decide_eq_true_eq] at passed
    exact passed
  · intro unambiguous
    apply List.filter_congr
    intro endpointId listed
    rw [decide_eq_decide]
    refine and_congr_right fun nonzero => ?_
    exact ⟨unambiguous endpointId listed nonzero, fun supports => supports.narrowed⟩

theorem supportedEndpoints_ne_nil :
    composition.supportedEndpoints deviceTypes ≠ [] ↔ ∃ endpointId ∈ composition.partsList,
      endpointId ≠ 0 ∧ composition.Supported deviceTypes endpointId := by
  rw [Composition.supportedEndpoints, Ne, List.filter_eq_nil_iff]
  simp only [decide_eq_true_eq, not_forall, not_not, exists_prop]

variable (sbmdEndpointMap : Table UInt32 EndpointId)

/-- Every cluster is answered after a successful resolution, with narrowed ids too. -/
theorem resolveEndpointMap_answers
    (success : ((composition.device sbmdEndpointMap).resolveEndpointMap deviceTypes).1 = true) :
    Answers composition ((composition.device sbmdEndpointMap).resolveEndpointMap deviceTypes).2 := by
  refine answers_of_map composition (resolveEndpointMap_cache composition deviceTypes sbmdEndpointMap)
    fun sbmdIndex endpointId found => ?_
  rw [resolveEndpointMap_lookup composition deviceTypes sbmdEndpointMap success] at found
  exact List.mem_cons_of_mem _ (List.mem_filter.mp (List.mem_of_getElem? found)).1

/-- A correct map tells the narrowed ids from the supported ones. -/
theorem Resolves.unambiguous (resolves : Resolves composition deviceTypes sbmdEndpointMap) :
    composition.Unambiguous deviceTypes := by
  have success := resolveEndpointMap_success composition deviceTypes sbmdEndpointMap
  have lookups := resolveEndpointMap_lookup composition deviceTypes sbmdEndpointMap
  rw [← mappedEndpoints_eq_iff]
  by_cases empty : composition.mappedEndpoints deviceTypes = []
  · have failed := mt success.mp (not_not.mpr empty)
    have none := mt resolves.succeeds.mpr failed
    rw [← supportedEndpoints_ne_nil, not_not] at none
    rw [empty, none]
  · have succeeded := success.mpr empty
    refine eq_of_getElem?_uint32 (mappedEndpoints_nodup composition deviceTypes)
      (composition.distinct.filter _) fun sbmdIndex => ?_
    rw [← lookups succeeded, resolves.numbers succeeded]

/-- Where the narrowed ids agree, the map is correct and every cluster is answered. -/
theorem Resolves.of_unambiguous (unambiguous : composition.Unambiguous deviceTypes) :
    Resolves composition deviceTypes sbmdEndpointMap := by
  have success := resolveEndpointMap_success composition deviceTypes sbmdEndpointMap
  have lookups := resolveEndpointMap_lookup composition deviceTypes sbmdEndpointMap
  have same := (mappedEndpoints_eq_iff composition deviceTypes).mpr unambiguous
  refine ⟨?_, ?_, ?_⟩
  · rw [success, same, supportedEndpoints_ne_nil]
  · intro succeeded sbmdIndex
    rw [lookups succeeded, same]
  · exact resolveEndpointMap_answers composition deviceTypes sbmdEndpointMap

/-- The endpoint map is the list of the supported endpoints if and only if the narrowed ids agree. -/
theorem resolves_iff : Resolves composition deviceTypes sbmdEndpointMap ↔ composition.Unambiguous deviceTypes :=
  ⟨fun resolves => resolves.unambiguous, fun unambiguous => .of_unambiguous _ _ _ unambiguous⟩

/-- Endpoint 1 has the vendor specific device type 0xFFF10100. -/
def vendorComposition : Composition where
  cache := fun endpointId =>
    if endpointId = 0 then AList.insert descriptor ⟨some [1], some [0x0016]⟩ ∅
    else AList.insert descriptor ⟨none, some [0xFFF10100]⟩ ∅
  partsList := [1]
  listed := rfl
  distinct := by decide

/-- The vendor specific device type is taken for an on/off light. -/
theorem not_resolves : ¬ ∀ (composition : Composition) (deviceTypes : List UInt16)
    (sbmdEndpointMap : Table UInt32 EndpointId), Resolves composition deviceTypes sbmdEndpointMap := by
  intro resolves
  have unambiguous := (resolves vendorComposition [0x0100] ∅).unambiguous
  have supports := unambiguous 1 (by decide) (by decide) (by decide)
  exact absurd supports (by decide)

end exactness

end Barton.Endpoints
