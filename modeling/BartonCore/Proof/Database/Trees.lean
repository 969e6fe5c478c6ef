import BartonCore.Proof.Database.Index

namespace Barton.Database
open Registry

section Clone
variable (entry : Address)

theorem cloneList_addresses {Content : Type} (start : Address) (contents : List Content) :
    (cloneList start contents).map Allocated.address = List.range' start contents.length := by
  induction contents generalizing start with
  | nil => rfl
  | cons content rest ih =>
      rw [cloneList, List.map_cons, ih, List.length_cons, List.range'_succ]

theorem cloneList_contents {Content : Type} (start : Address) (contents : List Content) :
    (cloneList start contents).map Allocated.content = contents := by
  induction contents generalizing start with
  | nil => rfl
  | cons content rest ih => rw [cloneList, List.map_cons, ih]

theorem resourceItems_targets (owner : Option Address) (resources : List CachedResource) :
    ((resources.map (resourceItem entry owner)).map fun item => item.2.target) =
      resources.map Allocated.address := by
  rw [List.map_map]
  rfl

theorem metadataItems_targets (owner : Option Address) (metadata : List CachedMetadata) :
    ((metadata.map (metadataItem entry owner)).map fun item => item.2.target) =
      metadata.map Allocated.address := by
  rw [List.map_map]
  rfl

/-- An endpoint clone occupies consecutive addresses. -/
theorem endpointClone_targets (start : Address) (endpoint : DeviceEndpoint) :
    ((endpointItems entry (endpointClone start endpoint)).map fun item => item.2.target) =
      List.range' start (DeviceEndpoint.size endpoint) := by
  have shape : DeviceEndpoint.size endpoint =
      endpoint.resources.length + endpoint.metadata.length + 1 := by
    unfold DeviceEndpoint.size
    omega
  unfold endpointItems
  rw [List.map_cons, List.map_append, resourceItems_targets, metadataItems_targets, shape,
    List.range'_succ, ← List.range'_append_1]
  exact congrArg₂ (fun first second => start :: (first ++ second))
    (cloneList_addresses _ _) (cloneList_addresses _ _)

theorem cloneEndpoints_targets (start : Address) (endpoints : List DeviceEndpoint) :
    (((cloneEndpoints start endpoints).flatMap (endpointItems entry)).map fun item =>
      item.2.target) = List.range' start (endpointsSize endpoints) := by
  induction endpoints generalizing start with
  | nil => rfl
  | cons endpoint rest ih =>
      rw [cloneEndpoints, List.flatMap_cons, List.map_append, endpointClone_targets, ih,
        List.range'_append_1]
      rfl

/-- A device clone occupies consecutive addresses after its entry. -/
theorem deviceClone_targets (device : DeviceRecord) :
    ((treeItems entry (deviceClone (entry + 1) device)).map fun item => item.2.target) =
      List.range' entry (1 + DeviceRecord.size device) := by
  have shape : 1 + DeviceRecord.size device = endpointsSize device.endpoints +
      (device.resources.length + device.metadata.length) + 1 := by
    unfold DeviceRecord.size
    omega
  unfold treeItems
  rw [List.map_cons, List.map_append, List.map_append, resourceItems_targets, metadataItems_targets,
    shape, List.range'_succ, ← List.range'_append_1, ← List.range'_append_1]
  exact congrArg₂ (fun first second => entry :: (first ++ second)) (cloneEndpoints_targets entry _ _)
    (congrArg₂ (fun first second => first ++ second) (cloneList_addresses _ _)
      (cloneList_addresses _ _))

/-- A clone forgets to the record that it copies. -/
theorem endpointClone_record (start : Address) (endpoint : DeviceEndpoint) :
    CachedEndpoint.record (endpointClone start endpoint) = endpoint := by
  simp [CachedEndpoint.record, endpointClone, cloneList_contents]

theorem cloneEndpoints_record (start : Address) (endpoints : List DeviceEndpoint) :
    (cloneEndpoints start endpoints).map CachedEndpoint.record = endpoints := by
  induction endpoints generalizing start with
  | nil => rfl
  | cons endpoint rest ih => rw [cloneEndpoints, List.map_cons, endpointClone_record, ih]

theorem deviceClone_record (start : Address) (device : DeviceRecord) :
    (deviceClone start device).record = device := by
  simp [CachedDevice.record, deviceClone, cloneList_contents, cloneEndpoints_record]

end Clone

section Writes
variable (entry : Address) {device : CachedDevice}

/-- A write to one endpoint changes only the items of that endpoint. -/
theorem treeItems_updateEndpoint (distinct : (device.endpoints.map Allocated.address).Nodup)
    {address : Address} {endpoint : CachedEndpoint}
    (found : device.endpointAt address = some endpoint) :
    ∃ rest, (treeItems entry device).Perm (endpointItems entry endpoint ++ rest) ∧
      ∀ update, (treeItems entry (device.updateEndpoint address update)).Perm
        (endpointItems entry ⟨address, update endpoint.content⟩ ++ rest) := by
  obtain ⟨before, after, split, others⟩ := Cells.read_split distinct found
  have same : endpoint.address = address := Cells.read_address found
  refine ⟨(device.uri, .device entry) :: ((before ++ after).flatMap (endpointItems entry) ++
    (device.resources.map (resourceItem entry none) ++ device.metadata.map (metadataItem entry none))),
    ?_, ?_⟩
  · unfold treeItems
    rw [split, List.perm_iff_count]
    intro item
    simp only [List.flatMap_append, List.flatMap_cons, List.count_cons, List.count_append]
    omega
  · intro update
    have written : (device.updateEndpoint address update).endpoints =
        before ++ ⟨address, update endpoint.content⟩ :: after := by
      change Cells.write Allocated.address address _ device.endpoints = _
      rw [split, Cells.write_split _ same others, same]
    unfold treeItems
    rw [written, List.perm_iff_count]
    intro item
    simp only [CachedDevice.updateEndpoint, List.flatMap_append, List.flatMap_cons, List.count_cons,
      List.count_append]
    omega

/-- A change of one resource list exchanges the items of that list. -/
theorem treeItems_changeResources (distinct : (device.endpoints.map Allocated.address).Nodup)
    {owner : Option Address} {resources : List CachedResource}
    (found : device.resourcesOf owner = some resources) :
    ∃ rest, (treeItems entry device).Perm (resources.map (resourceItem entry owner) ++ rest) ∧
      ∀ change, (treeItems entry (device.changeResources owner change)).Perm
        ((change resources).map (resourceItem entry owner) ++ rest) := by
  cases owner with
  | none =>
      simp only [CachedDevice.resourcesOf, Option.some.injEq] at found
      subst found
      refine ⟨(device.uri, .device entry) :: (device.endpoints.flatMap (endpointItems entry) ++
        device.metadata.map (metadataItem entry none)), ?_, ?_⟩
      · unfold treeItems
        rw [List.perm_iff_count]
        intro item
        simp only [List.count_cons, List.count_append]
        omega
      · intro change
        unfold treeItems
        rw [List.perm_iff_count]
        intro item
        simp only [CachedDevice.changeResources, List.count_cons, List.count_append]
        omega
  | some address =>
      obtain ⟨endpoint, read, same⟩ := Option.map_eq_some_iff.mp found
      subst same
      obtain ⟨rest, before, after⟩ := treeItems_updateEndpoint entry distinct read
      have equal : endpoint.address = address := Cells.read_address read
      refine ⟨(endpoint.content.uri, .endpoint entry address) ::
        (endpoint.content.metadata.map (metadataItem entry (some address)) ++ rest), ?_, ?_⟩
      · refine before.trans ?_
        unfold endpointItems
        rw [equal, List.perm_iff_count]
        intro item
        simp only [List.count_cons, List.count_append]
        omega
      · intro change
        refine (after _).trans ?_
        unfold endpointItems
        rw [List.perm_iff_count]
        intro item
        simp only [List.count_cons, List.count_append]
        omega

/-- A change of one metadata list exchanges the items of that list. -/
theorem treeItems_changeMetadata (distinct : (device.endpoints.map Allocated.address).Nodup)
    {owner : Option Address} {metadata : List CachedMetadata}
    (found : device.metadataOf owner = some metadata) :
    ∃ rest, (treeItems entry device).Perm (metadata.map (metadataItem entry owner) ++ rest) ∧
      ∀ change, (treeItems entry (device.changeMetadata owner change)).Perm
        ((change metadata).map (metadataItem entry owner) ++ rest) := by
  cases owner with
  | none =>
      simp only [CachedDevice.metadataOf, Option.some.injEq] at found
      subst found
      refine ⟨(device.uri, .device entry) :: (device.endpoints.flatMap (endpointItems entry) ++
        device.resources.map (resourceItem entry none)), ?_, ?_⟩
      · unfold treeItems
        rw [List.perm_iff_count]
        intro item
        simp only [List.count_cons, List.count_append]
        omega
      · intro change
        unfold treeItems
        rw [List.perm_iff_count]
        intro item
        simp only [CachedDevice.changeMetadata, List.count_cons, List.count_append]
        omega
  | some address =>
      obtain ⟨endpoint, read, same⟩ := Option.map_eq_some_iff.mp found
      subst same
      obtain ⟨rest, before, after⟩ := treeItems_updateEndpoint entry distinct read
      have equal : endpoint.address = address := Cells.read_address read
      refine ⟨(endpoint.content.uri, .endpoint entry address) ::
        (endpoint.content.resources.map (resourceItem entry (some address)) ++ rest), ?_, ?_⟩
      · refine before.trans ?_
        unfold endpointItems
        rw [equal, List.perm_iff_count]
        intro item
        simp only [List.count_cons, List.count_append]
        omega
      · intro change
        refine (after _).trans ?_
        unfold endpointItems
        rw [List.perm_iff_count]
        intro item
        simp only [List.count_cons, List.count_append]
        omega

/-- A write through a pointer changes the content behind it and no other content. -/
theorem content_updateAt {Content : Type} (address other : Address) (update : Content → Content)
    (list : List (Allocated Content)) :
    (Cells.read Allocated.address other (updateAt address update list)).map Allocated.content =
      ((Cells.read Allocated.address other list).map Allocated.content).map fun content =>
        if other = address then update content else content := by
  unfold updateAt
  rw [Cells.read_write_ite other _ (by intro _; rfl), Option.map_map, Option.map_map]
  congr 1
  funext item
  exact apply_ite Allocated.content _ _ _

/-- A write that keeps the URI of its object keeps the items of the list. -/
theorem items_updateAt {Content : Type} (item : Allocated Content → Item) (address : Address)
    (update : Content → Content) (list : List (Allocated Content))
    (same : ∀ cell : Allocated Content, item ⟨cell.address, update cell.content⟩ = item cell) :
    (updateAt address update list).map item = list.map item :=
  Cells.map_write item _ fun cell _ _ => same cell

theorem treeItems_updateResource (address : Address) (update : DeviceResource → DeviceResource)
    (same : ∀ resource, (update resource).uri = resource.uri) :
    treeItems entry (device.updateResource address update) = treeItems entry device := by
  have kept := fun owner list => items_updateAt (resourceItem entry owner) address update list
    fun cell => by simp [resourceItem, same]
  simp only [treeItems, CachedDevice.updateResource, endpointItems, List.flatMap_map, kept]
  rfl

theorem treeItems_updateMetadata (address : Address) (update : DeviceMetadata → DeviceMetadata)
    (same : ∀ metadata, (update metadata).uri = metadata.uri) :
    treeItems entry (device.updateMetadata address update) = treeItems entry device := by
  have kept := fun owner list => items_updateAt (metadataItem entry owner) address update list
    fun cell => by simp [metadataItem, same]
  simp only [treeItems, CachedDevice.updateMetadata, endpointItems, List.flatMap_map, kept]
  rfl

/-- A write to the enabled flag of an endpoint keeps every item. -/
theorem treeItems_updateEnabled (address : Address) (enabled : Bool) :
    treeItems entry (device.updateEndpoint address fun content => { content with enabled }) =
      treeItems entry device := by
  have kept := @Cells.map_write CachedEndpoint Address _ Allocated.address address device.endpoints (List Item)
    (endpointItems entry) (fun cell => ⟨cell.address, { cell.content with enabled }⟩)
    fun cell _ _ => rfl
  have flat := congrArg List.flatten kept
  rw [← List.flatMap_def, ← List.flatMap_def] at flat
  unfold treeItems
  exact congrArg (fun items => (device.uri, Locator.device entry) :: (items ++ _)) flat

/-- Appending an endpoint appends its items. -/
theorem treeItems_appendEndpoint (endpoint : CachedEndpoint) :
    (treeItems entry { device with endpoints := device.endpoints ++ [endpoint] }).Perm
      (endpointItems entry endpoint ++ treeItems entry device) := by
  unfold treeItems
  rw [List.perm_iff_count]
  intro item
  simp only [List.flatMap_append, List.flatMap_cons, List.flatMap_nil, List.count_cons,
    List.count_append, List.count_nil]
  omega

end Writes

section Lists
variable {db : JsonDatabase}

/-- A change of one resource list of a held device exchanges the items of that list. -/
theorem Heap.items_changeResources (heap : Heap db) {entry : CacheEntry}
    (held : db.entryAt entry.address = some entry) {owner : Option Address}
    {list : List CachedResource} (owned : entry.device.resourcesOf owner = some list) :
    ∃ rest, db.items.Perm (list.map (resourceItem entry.address owner) ++ rest) ∧
      ∀ change, (db.updateDevice entry.address fun device =>
        device.changeResources owner change).items.Perm
          ((change list).map (resourceItem entry.address owner) ++ rest) := by
  obtain ⟨others, before, after⟩ := heap.items_updateDevice held
  obtain ⟨rest, first, second⟩ := treeItems_changeResources entry.address
    (heap.endpoints_distinct (Cells.read_mem held)) owned
  refine ⟨rest ++ others, ?_, fun change => ?_⟩
  · rw [← List.append_assoc]
    exact before.trans (first.append_right others)
  · rw [← List.append_assoc]
    exact (after fun device => device.changeResources owner change).trans
      ((second change).append_right others)

/-- A change of one metadata list of a held device exchanges the items of that list. -/
theorem Heap.items_changeMetadata (heap : Heap db) {entry : CacheEntry}
    (held : db.entryAt entry.address = some entry) {owner : Option Address}
    {list : List CachedMetadata} (owned : entry.device.metadataOf owner = some list) :
    ∃ rest, db.items.Perm (list.map (metadataItem entry.address owner) ++ rest) ∧
      ∀ change, (db.updateDevice entry.address fun device =>
        device.changeMetadata owner change).items.Perm
          ((change list).map (metadataItem entry.address owner) ++ rest) := by
  obtain ⟨others, before, after⟩ := heap.items_updateDevice held
  obtain ⟨rest, first, second⟩ := treeItems_changeMetadata entry.address
    (heap.endpoints_distinct (Cells.read_mem held)) owned
  refine ⟨rest ++ others, ?_, fun change => ?_⟩
  · rw [← List.append_assoc]
    exact before.trans (first.append_right others)
  · rw [← List.append_assoc]
    exact (after fun device => device.changeMetadata owner change).trans
      ((second change).append_right others)

end Lists

end Barton.Database
