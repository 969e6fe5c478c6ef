import BartonCore.Proof.Database.Readings
import BartonCore.Proof.Database.RoundTrip
import BartonCore.Proof.Database.Saves
import BartonCore.Proof.DeviceService.Moves
import BartonCore.Construction.DeviceService.Secrets

namespace Barton.Secrets
open Database Registry Resources

/-- The mode has the bit `RESOURCE_MODE_SENSITIVE`. -/
def Sensitive (resource : DeviceResource) : Prop := resource.mode &&& resourceModeSensitive ≠ 0

/-- The protection encrypts the value of the resource. A NULL value has nothing to hide. -/
def Encrypts (protect : Protect) (resource : DeviceResource) : Prop :=
  ∀ value, resource.value = some value → ∃ secret, protect "devicedb" (some value) = some secret

/-- The object carries the text in an item other than its id, its uri, and its type. -/
def Carries (json : Json) (value : String) : Prop :=
  ∃ items, json = .object items ∧ ∃ item ∈ items, item.2 = .string value ∧ item.1 ∉ ["id", "uri", "type"]

/-- The object of a sensitive resource does not carry its plain value. -/
def Hides (resource : DeviceResource) (json : Json) : Prop :=
  Sensitive resource → ∀ value, resource.value = some value → ¬Carries json value

/-- The loaded copy of an encrypted resource has the same value and mode. -/
def GivesBack (protect : Protect) (copy resource : DeviceResource) : Prop :=
  copy.id = resource.id ∧ (Sensitive resource → Encrypts protect resource →
    copy.value = resource.value ∧ copy.mode = resource.mode)

/-- An item without an id does not reach the document. -/
def storedItems {Item : Type} (id : Item → Option String) (items : List Item) : List Item :=
  items.filter fun item => (id item).isSome

/-- The items of a list in a document. -/
def childrenOf (json : Json) (name : String) : List Json :=
  ((json.getObjectItem name).map Json.children).getD []

def storedResources (resources : List DeviceResource) : List DeviceResource :=
  storedItems DeviceResource.id resources

def storedEndpoints (device : DeviceRecord) : List DeviceEndpoint := storedItems Endpoint.id device.endpoints

/-- The document hides the sensitive values, and a load in either mode gives them back. -/
structure KeepsSecrets (lib : Library) (saved : Saved) (document : Json) : Prop where
  hidden : List.Forall₂ Hides (storedResources saved.device.resources) (childrenOf document "deviceResources")
  hiddenBelow : List.Forall₂ (fun endpoint json =>
      List.Forall₂ Hides (storedResources endpoint.resources) (childrenOf json "resources"))
    (storedEndpoints saved.device) (childrenOf document "deviceEndpoints")
  loaded : ∀ permissive copy, deviceFromJSON lib storageContext permissive document = some copy →
    List.SublistForall₂ (GivesBack saved.protect) copy.resources (storedResources saved.device.resources) ∧
    List.SublistForall₂ (fun loaded endpoint =>
      List.SublistForall₂ (GivesBack saved.protect) loaded.resources (storedResources endpoint.resources))
      copy.endpoints (storedEndpoints saved.device)
  loads : Loadable (protecting lib saved.protect) saved.device →
    ∃ copy, deviceFromJSON lib storageContext false document = some copy ∧
      SameDevice (protecting lib saved.protect) saved.device copy

/-- The protection encrypted every sensitive value that the document holds. -/
def Saved.Encrypted (saved : Saved) : Prop :=
  (∀ resource ∈ storedResources saved.device.resources, Sensitive resource → Encrypts saved.protect resource) ∧
  ∀ endpoint ∈ storedEndpoints saved.device, ∀ resource ∈ storedResources endpoint.resources,
    Sensitive resource → Encrypts saved.protect resource

/-- The protection follows its documentation. A secret is not the text that it protects. -/
structure Sealing (lib : Library) (protect : Protect) : Prop where
  lawful : Lawful (protecting lib protect)
  different : ∀ value secret, protect "devicedb" (some value) = some secret → secret ≠ value

section Lists
variable {Item Loaded : Type}

theorem children_storedItems (id : Item → Option String) (toJSON : Item → Json) (items : List Item) :
    (itemsToJSON id toJSON items).children = (storedItems id items).map toJSON :=
  children_filter id toJSON items

/-- The list reader keeps the order of the items that it can read. -/
theorem readItems_sublist {read : Json → Option Loaded} {permissive : Bool} {documents : List Json}
    {loaded : List Loaded} (found : readItems read permissive documents = some loaded) :
    List.SublistForall₂ (fun item json => read json = some item) loaded documents := by
  induction documents generalizing loaded with
  | nil =>
      rw [readItems, Option.some.injEq] at found
      rw [← found]
      exact List.SublistForall₂.nil
  | cons json rest ih =>
      unfold readItems at found
      split at found
      · rename_i item read
        obtain ⟨others, later, same⟩ := Option.map_eq_some_iff.mp found
        rw [← same]
        exact List.SublistForall₂.cons read (ih later)
      · split at found
        · exact List.SublistForall₂.cons_right (ih found)
        · cases found

theorem sublistForall₂_imp {Other : Type} {first second : Item → Other → Prop} {left : List Item} {right : List Other}
    (weaker : ∀ one other, first one other → second one other) (related : List.SublistForall₂ first left right) :
    List.SublistForall₂ second left right := by
  rw [List.sublistForall₂_iff] at related ⊢
  obtain ⟨middle, pairs, inside⟩ := related
  exact ⟨middle, pairs.imp weaker, inside⟩

end Lists

section Documents
variable {lib : Library} {protect : Protect}

theorem protectedValue_sensitive {resource : DeviceResource} (sensitive : Sensitive resource) :
    protectedValue (protecting lib protect) storageContext resource = (protect "devicedb" resource.value, true) :=
  if_pos sensitive

/-- The object of a sensitive resource carries its value when no secret replaces it. -/
theorem carries_iff {resource : DeviceResource} {value : String} (sensitive : Sensitive resource)
    (given : resource.value = some value) :
    Carries (resourceToJSON (protecting lib protect) storageContext resource) value ↔
      (protect "devicedb" (some value)).getD value = value := by
  have stored : (protect "devicedb" resource.value).or resource.value =
      some ((protect "devicedb" (some value)).getD value) := by
    rw [given]
    cases protect "devicedb" (some value) <;> rfl
  unfold Carries resourceToJSON
  rw [protectedValue_sensitive sensitive, stored]
  constructor
  · rintro ⟨items, same, item, member, text, name⟩
    rw [Json.object.injEq] at same
    rw [← same] at member
    cases id : resource.id <;> cases uri : resource.uri <;> cases type : resource.type <;>
      simp [id, uri, type, addString, addNumber] at member <;> grind
  · intro same
    have outside : "value_enc" ∉ ["id", "uri", "type"] := by decide
    refine ⟨_, rfl, ("value_enc", .string value), ?_, rfl, outside⟩
    simp [addString, same]

/-- The object hides the value exactly when the protection encrypted it. -/
theorem hides_iff (sealing : Sealing lib protect) (resource : DeviceResource) :
    Hides resource (resourceToJSON (protecting lib protect) storageContext resource) ↔
      (Sensitive resource → Encrypts protect resource) := by
  constructor
  · intro hides sensitive value given
    have hidden := hides sensitive value given
    rw [carries_iff sensitive given] at hidden
    cases found : protect "devicedb" (some value) with
    | some secret => exact ⟨secret, rfl⟩
    | none =>
        rw [found] at hidden
        exact absurd rfl hidden
  · intro encrypts sensitive value given
    obtain ⟨secret, found⟩ := encrypts sensitive value given
    rw [carries_iff sensitive given, found]
    exact sealing.different value secret found

theorem hides_resources_iff (sealing : Sealing lib protect) (resources : List DeviceResource) :
    List.Forall₂ Hides (storedResources resources)
        (resourcesToJSON (protecting lib protect) storageContext resources).children ↔
      ∀ resource ∈ storedResources resources, Sensitive resource → Encrypts protect resource := by
  unfold resourcesToJSON storedResources
  rw [children_storedItems, List.forall₂_map_right_iff, List.forall₂_same]
  exact forall₂_congr fun resource _ => hides_iff sealing resource

/-- A copy that the reader makes of an encrypted resource has its value and its mode. -/
theorem givesBack_of_read (sealing : Sealing lib protect) {deviceUuid endpointId : Option String}
    {copy resource : DeviceResource} (read : resourceFromJSON lib deviceUuid endpointId storageContext
      (resourceToJSON (protecting lib protect) storageContext resource) = some copy) :
    GivesBack protect copy resource := by
  have fields := @resourceToJSON_fields (protecting lib protect) resource
  generalize resourceToJSON (protecting lib protect) storageContext resource = json at read fields
  have lawful := sealing.lawful
  have id : lib.getCJSONString json "id" = resource.id := lawful.readString fields.id
  have mode : lib.getCJSONUInt8 json "mode" = some resource.mode := lawful.uint8 json "mode" _ fields.mode
  unfold resourceFromJSON at read
  simp only [id, mode, Option.getD_some] at read
  iterate 5
    split at read
    · cases read
  · rw [Option.some.injEq] at read
    rw [← read]
    refine ⟨rfl, fun sensitive encrypts => ⟨?_, rfl⟩⟩
    exact lawful.readValue fields fun _ => encrypts

theorem givesBack_resources (sealing : Sealing lib protect) {deviceUuid endpointId : Option String}
    {permissive : Bool} {resources copies : List DeviceResource}
    (read : resourcesFromJSON lib deviceUuid endpointId storageContext permissive
      (some (resourcesToJSON (protecting lib protect) storageContext resources)) = some copies) :
    List.SublistForall₂ (GivesBack protect) copies (storedResources resources) := by
  unfold resourcesFromJSON resourcesToJSON at read
  rw [Option.bind_some, children_storedItems] at read
  have pairs := readItems_sublist read
  rw [List.sublistForall₂_map_right_iff] at pairs
  exact sublistForall₂_imp (fun copy resource found => givesBack_of_read sealing found) pairs

theorem endpointToJSON_resources (endpoint : DeviceEndpoint) :
    (endpointToJSON lib storageContext endpoint).getObjectItem "resources" =
      some (resourcesToJSON lib storageContext endpoint.resources) := by
  simp [endpointToJSON, lower_names, addNumber]

theorem givesBack_endpoint (sealing : Sealing lib protect) {deviceUuid : Option String}
    {copy endpoint : DeviceEndpoint} (read : endpointFromJSON lib deviceUuid storageContext
      (endpointToJSON (protecting lib protect) storageContext endpoint) = some copy) :
    List.SublistForall₂ (GivesBack protect) copy.resources (storedResources endpoint.resources) := by
  obtain ⟨_, found, _⟩ := endpointFromJSON_cases read
  rw [endpointToJSON_resources] at found
  exact givesBack_resources sealing found

theorem deviceToJSON_endpoints (device : DeviceRecord) :
    (deviceToJSON lib storageContext device).getObjectItem "deviceEndpoints" =
      some (endpointsToJSON lib storageContext device.endpoints) := by
  simp [deviceToJSON, lower_names, addNumber]

theorem deviceToJSON_resources (device : DeviceRecord) :
    (deviceToJSON lib storageContext device).getObjectItem "deviceResources" =
      some (resourcesToJSON lib storageContext device.resources) := by
  simp [deviceToJSON, lower_names, addNumber]

theorem childrenOf_eq {json list : Json} {name : String} (item : json.getObjectItem name = some list) :
    childrenOf json name = list.children := by
  rw [childrenOf, item]
  rfl

theorem hides_endpoints_iff (sealing : Sealing lib protect) (endpoints : List DeviceEndpoint) :
    List.Forall₂ (fun endpoint json =>
        List.Forall₂ Hides (storedResources endpoint.resources) (childrenOf json "resources"))
      (storedItems Endpoint.id endpoints)
      (endpointsToJSON (protecting lib protect) storageContext endpoints).children ↔
    ∀ endpoint ∈ storedItems Endpoint.id endpoints, ∀ resource ∈ storedResources endpoint.resources,
      Sensitive resource → Encrypts protect resource := by
  unfold endpointsToJSON
  rw [children_storedItems, List.forall₂_map_right_iff, List.forall₂_same]
  refine forall₂_congr fun endpoint _ => ?_
  rw [childrenOf_eq (endpointToJSON_resources endpoint)]
  exact hides_resources_iff sealing endpoint.resources

/-- A load of the document gives back every encrypted value and its mode. -/
theorem givesBack_device (sealing : Sealing lib protect) {permissive : Bool} {copy device : DeviceRecord}
    (read : deviceFromJSON lib storageContext permissive
      (deviceToJSON (protecting lib protect) storageContext device) = some copy) :
    List.SublistForall₂ (GivesBack protect) copy.resources (storedResources device.resources) ∧
    List.SublistForall₂ (fun loaded endpoint =>
      List.SublistForall₂ (GivesBack protect) loaded.resources (storedResources endpoint.resources))
      copy.endpoints (storedEndpoints device) := by
  obtain ⟨_, endpoints, resources, _⟩ := deviceFromJSON_cases read
  rw [deviceToJSON_resources] at resources
  refine ⟨givesBack_resources sealing resources, ?_⟩
  rw [deviceToJSON_endpoints, endpointsFromJSON, Option.bind_some, endpointsToJSON, children_storedItems] at endpoints
  have pairs := readItems_sublist endpoints
  rw [List.sublistForall₂_map_right_iff] at pairs
  exact sublistForall₂_imp (fun loaded endpoint found => givesBack_endpoint sealing found) pairs

/-- A document keeps the secrets of its device exactly when the protection encrypted all of them. -/
theorem keepsSecrets_iff (saved : Saved) (sealing : Sealing lib saved.protect) :
    KeepsSecrets lib saved (saved.document lib) ↔ saved.Encrypted := by
  have resources := hides_resources_iff sealing saved.device.resources
  have endpoints := hides_endpoints_iff sealing saved.device.endpoints
  rw [← childrenOf_eq (deviceToJSON_resources saved.device)] at resources
  rw [← childrenOf_eq (deviceToJSON_endpoints saved.device)] at endpoints
  constructor
  · intro keeps
    exact ⟨resources.mp keeps.hidden, endpoints.mp keeps.hiddenBelow⟩
  · intro encrypted
    refine ⟨resources.mpr encrypted.1, endpoints.mpr encrypted.2, ?_, ?_⟩
    · intro permissive copy read
      exact givesBack_device sealing read
    · intro loadable
      exact device_round_trip sealing.lawful loadable

end Documents

section Runs
variable {lib : Library}

/-- The storage holds the document of every remembered save, and otherwise what it held at the start. -/
structure Mirrors (lib : Library) (origin storage : Storage) (saved : Table String Saved) : Prop where
  stored : ∀ key save, saved.lookup key = some save → storage.lookup key = some (save.document lib)
  kept : ∀ key document, saved.lookup key = none → storage.lookup key = some document →
    origin.lookup key = some document

theorem Mirrors.insert {origin storage : Storage} {saved : Table String Saved} (mirrors : Mirrors lib origin storage saved)
    (name : String) (save : Saved) :
    Mirrors lib origin (AList.insert name (save.document lib) storage) (AList.insert name save saved) where
  stored := by
    intro key other found
    by_cases same : key = name
    · subst same
      rw [AList.lookup_insert, Option.some.injEq] at found
      rw [AList.lookup_insert, found]
    · rw [AList.lookup_insert_ne same] at found ⊢
      exact mirrors.stored key other found
  kept := by
    intro key document missing found
    by_cases same : key = name
    · subst same
      rw [AList.lookup_insert] at missing
      cases missing
    · rw [AList.lookup_insert_ne same] at missing found
      exact mirrors.kept key document missing found

theorem Mirrors.erase {origin storage : Storage} {saved : Table String Saved} (mirrors : Mirrors lib origin storage saved)
    (name : String) : Mirrors lib origin (AList.erase name storage) (AList.erase name saved) where
  stored := by
    intro key other found
    by_cases same : key = name
    · subst same
      rw [AList.lookup_erase] at found
      cases found
    · rw [AList.lookup_erase_ne same] at found ⊢
      exact mirrors.stored key other found
  kept := by
    intro key document missing found
    by_cases same : key = name
    · subst same
      rw [AList.lookup_erase] at found
      cases found
    · rw [AList.lookup_erase_ne same] at missing found
      exact mirrors.kept key document missing found

theorem Mirrors.parallel (lib : Library) (origin : Storage) (protect : Protect) :
    Parallel (document (protecting lib protect)) (Saved.of protect) (Mirrors lib origin) where
  insert _ _ key device mirrors := mirrors.insert key (Saved.of protect device)
  erase _ _ key mirrors := mirrors.erase key

/-- The saves of a table were there before, or they belong to a table that started empty. -/
def Splits (before after fresh : Table String Saved) : Prop :=
  ∀ key save, after.lookup key = some save → fresh.lookup key = some save ∨ before.lookup key = some save

theorem Splits.parallel (before : Table String Saved) (protect : Protect) :
    Parallel (Saved.of protect) (Saved.of protect) (Splits before) where
  insert := by
    intro left right name device splits key save found
    by_cases same : key = name
    · subst same
      rw [AList.lookup_insert] at found ⊢
      exact Or.inl found
    · rw [AList.lookup_insert_ne same] at found ⊢
      exact splits key save found
  erase := by
    intro left right name splits key save found
    by_cases same : key = name
    · subst same
      rw [AList.lookup_erase] at found
      cases found
    · rw [AList.lookup_erase_ne same] at found ⊢
      exact splits key save found

/-- All saves of the table used one protection. -/
theorem protect_parallel (protect : Protect) : Parallel (Saved.of protect) (Saved.of protect)
    fun saved _ => saved.Satisfies fun _ save => save.protect = protect where
  insert := by
    intro left _ name device each key save found
    by_cases same : key = name
    · subst same
      rw [AList.lookup_insert, Option.some.injEq] at found
      rw [← found]
      rfl
    · rw [AList.lookup_insert_ne same] at found
      exact each key save found
  erase left _ name each := Table.Satisfies.erase each name

/-- A relation of two tables that parallel writes keep is kept by a move. -/
theorem step_parallel {vault next : Vault} {input : Move × Protect} {related : Table String Saved → Table String Saved → Prop}
    (parallel : Parallel (Saved.of input.2) (Saved.of input.2) related) {other : Table String Saved}
    (start : related vault.saved other) (stepped : step lib vault input = some next) :
    ∃ after, step lib ⟨vault.db, other⟩ input = some ⟨next.db, after⟩ ∧ related next.saved after := by
  obtain ⟨move, protect⟩ := input
  have called (call : Call) (stored : Bool) (performed : performCall lib vault protect call stored = some next) :
      ∃ after, performCall lib ⟨vault.db, other⟩ protect call stored = some ⟨next.db, after⟩ ∧
        related next.saved after := by
    obtain ⟨outcome, made, same⟩ := Option.map_eq_some_iff.mp performed
    refine ⟨written (Saved.of protect) vault.db outcome.2 call outcome.1 other, ?_, ?_⟩
    · rw [performCall, made, Option.map_some, ← same]
    · rw [← same]
      exact parallel.written start vault.db outcome.2 call outcome.1
  cases move with
  | call call stored => exact called call stored stepped
  | changeMode copy newMode stored => exact called _ stored stepped
  | restart persist stored =>
      cases stepped
      exact ⟨_, rfl, parallel.cleanup start vault.db persist stored⟩

/-- A save of the state after a move is a save of the move, or it was there before. -/
theorem step_saves {vault next : Vault} {input : Move × Protect} (stepped : step lib vault input = some next) :
    Splits vault.saved next.saved (stepSaves lib vault input) ∧
      (stepSaves lib vault input).Satisfies fun _ save => save.protect = input.2 := by
  have start : Splits vault.saved vault.saved ∅ := fun _ _ found => Or.inr found
  obtain ⟨after, made, splits⟩ := step_parallel (Splits.parallel vault.saved input.2) start stepped
  have empty : (∅ : Table String Saved).Satisfies fun _ save => save.protect = input.2 := Table.Satisfies.empty _
  obtain ⟨_, _, each⟩ := @step_parallel lib ⟨vault.db, ∅⟩ ⟨next.db, after⟩ input _ (protect_parallel input.2) ∅ empty made
  have same : stepSaves lib vault input = after := by
    rw [stepSaves, made]
    rfl
  rw [same]
  exact ⟨splits, each⟩

/-- A protection that never fails encrypts every save. -/
theorem encryptsSaves_of_total {input : Move × Protect}
    (total : ∀ value, ∃ secret, input.2 "devicedb" (some value) = some secret) (vault : Vault) :
    (stepSaves lib vault input).Satisfies fun _ save => save.Encrypted := by
  cases stepped : step lib ⟨vault.db, ∅⟩ input with
  | none =>
      rw [stepSaves, stepped]
      exact Table.Satisfies.empty _
  | some next =>
      have each := (step_saves stepped).2
      intro key save found
      have same : save.protect = input.2 := each key save found
      have encrypts (resource : DeviceResource) : Encrypts save.protect resource := by
        rw [same]
        exact fun value _ => total value
      exact ⟨fun resource _ _ => encrypts resource, fun _ _ resource _ _ => encrypts resource⟩

/-- The table of saves explains the storage, and every save used a working protection. -/
structure Faithful (lib : Library) (origin : Storage) (vault : Vault) : Prop where
  heap : Heap vault.db
  mirrors : Mirrors lib origin vault.db.storage vault.saved
  sealing : vault.saved.Satisfies fun _ save => Sealing lib save.protect

theorem Faithful.start (lib : Library) (origin : Storage) : Faithful lib origin ⟨JsonDatabase.empty origin, ∅⟩ where
  heap := Heap.empty origin
  mirrors := by
    constructor
    · intro key save found
      cases found
    · exact fun _ _ _ found => found
  sealing := Table.Satisfies.empty _

theorem step_faithful {origin : Storage} {vault next : Vault} {input : Move × Protect} (faithful : Faithful lib origin vault)
    (sealing : Sealing lib input.2) (stepped : step lib vault input = some next) : Faithful lib origin next := by
  obtain ⟨splits, fresh⟩ := step_saves stepped
  have sealed : next.saved.Satisfies fun _ save => Sealing lib save.protect := by
    intro key save found
    rcases splits key save found with new | old
    · rw [fresh key save new]
      exact sealing
    · exact faithful.sealing key save old
  have called (call : Call) (stored : Bool) (performed : performCall lib vault input.2 call stored = some next) :
      Heap next.db ∧ Mirrors lib origin next.db.storage next.saved := by
    obtain ⟨outcome, made, same⟩ := Option.map_eq_some_iff.mp performed
    rw [← same]
    refine ⟨perform_heap _ faithful.heap made, ?_⟩
    rw [perform_storage _ faithful.heap made]
    exact (Mirrors.parallel lib origin input.2).written faithful.mirrors vault.db outcome.2 call outcome.1
  obtain ⟨move, protect⟩ := input
  cases move with
  | call call stored =>
      obtain ⟨heap, mirrors⟩ := called call stored stepped
      exact ⟨heap, mirrors, sealed⟩
  | changeMode copy newMode stored =>
      obtain ⟨heap, mirrors⟩ := called _ stored stepped
      exact ⟨heap, mirrors, sealed⟩
  | restart persist stored =>
      cases stepped
      exact ⟨Heap.empty _, (Mirrors.parallel lib origin protect).cleanup faithful.mirrors vault.db persist stored, sealed⟩

/-- Every device that the move saves has its sensitive values encrypted by the protection of the move. -/
def EncryptsSaves (lib : Library) (vault : Vault) (input : Move × Protect) : Prop :=
  (stepSaves lib vault input).Satisfies fun _ save => save.Encrypted

/-- In every run a stored document keeps the secrets of the device as it was when it was saved
exactly when the protection encrypted all of them.
When every move of the run encrypts what it saves, no stored document carries or loses a secret. -/
theorem run_keepsSecrets {origin : Storage} {inputs : List (Move × Protect)} {vault : Vault}
    (sealing : ∀ input ∈ inputs, Sealing lib input.2)
    (reached : run lib ⟨JsonDatabase.empty origin, ∅⟩ inputs = some vault) :
    (∀ key document, vault.db.storage.lookup key = some document →
      (vault.saved.lookup key = none ∧ origin.lookup key = some document) ∨
      ∃ saved, vault.saved.lookup key = some saved ∧ (KeepsSecrets lib saved document ↔ saved.Encrypted)) ∧
    (Runs.Guarded (step lib) (EncryptsSaves lib) ⟨JsonDatabase.empty origin, ∅⟩ inputs →
      ∀ key saved, vault.saved.lookup key = some saved →
        ∃ document, vault.db.storage.lookup key = some document ∧ KeepsSecrets lib saved document) := by
  have sealed := Runs.Guarded.of_forall (step lib) sealing ⟨JsonDatabase.empty origin, ∅⟩
  have faithful := Runs.Guarded.invariant (step lib) (Faithful lib origin)
    (fun _ _ _ held sealing stepped => step_faithful held sealing stepped) sealed (Faithful.start lib origin) reached
  constructor
  · intro key document found
    cases remembered : vault.saved.lookup key with
    | none => exact Or.inl ⟨rfl, faithful.mirrors.kept key document remembered found⟩
    | some saved =>
        right
        have same := faithful.mirrors.stored key saved remembered
        rw [found, Option.some.injEq] at same
        refine ⟨saved, rfl, ?_⟩
        rw [same]
        exact keepsSecrets_iff saved (faithful.sealing key saved remembered)
  · intro encrypts key saved remembered
    have encrypted := Runs.Guarded.invariant (step lib)
      (fun vault => vault.saved.Satisfies fun _ save => save.Encrypted) (fun before input after held encrypts stepped =>
        fun key save found => ((step_saves stepped).1 key save found).elim (encrypts key save) (held key save))
      encrypts (Table.Satisfies.empty _) reached
    refine ⟨saved.document lib, faithful.mirrors.stored key saved remembered, ?_⟩
    exact (keepsSecrets_iff saved (faithful.sealing key saved remembered)).mpr (encrypted key saved remembered)

/-- This device holds a sensitive value. -/
def secretResource : DeviceResource where
  id := some "pin"
  uri := some "/a/r/pin"
  endpointId := none
  deviceUuid := some "a"
  value := some "1234"
  type := some "string"
  mode := resourceModeSensitive
  cachingPolicy := 1
  dateOfLastSyncMillis := 0

/-- The mode change tries to clear the sensitive bit, and the shutdown saves again. -/
def sampleMoves : List (Move × Protect) :=
  [.call (.addDevice sampleDevice) true, .call (.addResource (some "/a") secretResource) true,
    .changeMode secretResource resourceModeReadable true, .restart true fun _ => true].map
    fun move => (move, sampleLibrary.simpleProtectConfigData)

theorem sampleLibrary_sealing : Sealing sampleLibrary sampleLibrary.simpleProtectConfigData where
  lawful := sampleLibrary_lawful
  different := by
    intro value secret sealed same
    have longer : "enc:" ++ value = value := (Option.some.inj sealed).trans same
    have lengths := congrArg String.length longer
    rw [String.length_append] at lengths
    have prefixed : "enc:".length = 4 := rfl
    omega

theorem run_keepsSecrets_sample :
    ∃ vault, run sampleLibrary ⟨JsonDatabase.empty ∅, ∅⟩ sampleMoves = some vault ∧
      ∃ saved document, vault.saved.lookup "a" = some saved ∧ vault.db.storage.lookup "a" = some document ∧
        KeepsSecrets sampleLibrary saved document := by
  have sealing : ∀ input ∈ sampleMoves, Sealing sampleLibrary input.2 := by
    intro input member
    obtain ⟨move, _, same⟩ := List.mem_map.mp member
    rw [← same]
    exact sampleLibrary_sealing
  have encrypts (move : Move) (vault : Vault) :
      EncryptsSaves sampleLibrary vault (move, sampleLibrary.simpleProtectConfigData) :=
    encryptsSaves_of_total (fun value => ⟨"enc:" ++ value, rfl⟩) vault
  have guarded : Runs.Guarded (step sampleLibrary) (EncryptsSaves sampleLibrary)
      ⟨JsonDatabase.empty ∅, ∅⟩ sampleMoves :=
    ⟨encrypts _ _, fun _ _ => ⟨encrypts _ _, fun _ _ => ⟨encrypts _ _, fun _ _ => ⟨encrypts _ _, fun _ _ => trivial⟩⟩⟩⟩
  obtain ⟨document, stored, keeps⟩ := (run_keepsSecrets sealing rfl).2 guarded "a" _ rfl
  exact ⟨_, rfl, _, document, rfl, stored, keeps⟩

/-- A protection that always fails follows its documentation. -/
theorem failing_sealing : Sealing sampleLibrary fun _ _ => none where
  lawful := { sampleLibrary_lawful with
    unprotected := fun _ _ _ sealed => by cases sealed
    unprotectable := fun _ => rfl }
  different := fun _ _ sealed => by cases sealed

/-- When the protection fails the document carries the plain value under the name of the encrypted one. -/
theorem not_run_keepsSecrets :
    ¬∀ (lib : Library) (origin : Storage) (inputs : List (Move × Protect)) (vault : Vault),
      (∀ input ∈ inputs, Sealing lib input.2) →
      run lib ⟨JsonDatabase.empty origin, ∅⟩ inputs = some vault →
      ∀ key saved, vault.saved.lookup key = some saved →
        ∃ document, vault.db.storage.lookup key = some document ∧ KeepsSecrets lib saved document := by
  intro claim
  have sealing : ∀ input ∈ [(Move.call (.addDevice { sampleDevice with resources := [secretResource] }) true,
      (fun _ _ => none : Protect))], Sealing sampleLibrary input.2 := by
    intro input member
    rw [List.mem_singleton.mp member]
    exact failing_sealing
  obtain ⟨document, stored, keeps⟩ := claim sampleLibrary ∅ _ _ sealing rfl "a" _ rfl
  cases stored
  have sensitive : secretResource.mode &&& resourceModeSensitive ≠ 0 := by decide
  have encrypted := ((keepsSecrets_iff _ failing_sealing).mp keeps).1 secretResource List.mem_cons_self sensitive
  obtain ⟨secret, sealed⟩ := encrypted "1234" rfl
  cases sealed

end Runs

/-- A run of calls is a run of the vault. -/
theorem run_calls {lib : Library} {vault : Vault} {final : JsonDatabase} {calls : List (Call × Bool)}
    (reached : Database.run lib vault.db calls = some final) :
    ∃ after, run lib vault (calls.map fun input => (.call input.1 input.2, lib.simpleProtectConfigData)) =
      some ⟨final, after⟩ := by
  induction calls generalizing vault with
  | nil =>
      cases reached
      exact ⟨vault.saved, rfl⟩
  | cons input rest ih =>
      obtain ⟨middle, stepped, later⟩ := Option.bind_eq_some_iff.mp reached
      obtain ⟨⟨result, db⟩, performed, same⟩ := Option.map_eq_some_iff.mp stepped
      cases same
      have moved : step lib vault (.call input.1 input.2, lib.simpleProtectConfigData) =
          some ⟨db, written (Saved.of lib.simpleProtectConfigData) vault.db db input.1 result vault.saved⟩ :=
        congrArg (Option.map _) performed
      obtain ⟨after, run⟩ := @ih ⟨db, _⟩ later
      refine ⟨after, ?_⟩
      rw [Secrets.run, List.map_cons, Runs.run, moved]
      exact run

/-- Every interleaving of the service threads is a run of the vault. -/
theorem run_threads {lib : Library} {drivers : Lifecycle.Drivers}
    {start final : Threads.Configuration Lifecycle.Service (List Lifecycle.Frame)}
    {schedule : List (Nat × Lifecycle.Outcome)} (saved : Table String Saved)
    (reached : Lifecycle.run lib drivers start schedule = some final) :
    ∃ inputs after, run lib ⟨start.shared.db, saved⟩ inputs = some ⟨final.shared.db, after⟩ := by
  obtain ⟨calls, performed⟩ := Lifecycle.run_database reached
  exact ⟨_, @run_calls lib ⟨start.shared.db, saved⟩ _ calls performed⟩

end Barton.Secrets
