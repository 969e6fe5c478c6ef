import BartonCore.Construction.DeviceService.Finalization
import BartonCore.Proof.DeviceService.UriPatterns

namespace Barton.Delivery
open Database Lifecycle Resources UriPatterns Finalization

section
variable (drivers : DriverManager) (value : Option String)

/-- The URI is accessible and its resource is writeable, and the driver gets the new value and returns true. -/
def Reaches (db : JsonDatabase) (uri : String) (next : JsonDatabase) : Prop :=
  jsonDatabaseIsUriAccessible db uri = some true ∧ ∃ resource driver writeResource,
    resourceOrInherited db uri = some (some resource) ∧ resource.mode &&& resourceModeWriteable ≠ 0 ∧
      getDeviceDriverForUri db drivers uri = some (some driver) ∧ driver.writeResource = some writeResource ∧
      writeResource db resource resource.value value = some (true, next)

/-- The value reaches the driver of each resource in the order of the list. -/
inductive Delivered : JsonDatabase → List DeviceResource → JsonDatabase → Prop where
  | nil (db : JsonDatabase) : Delivered db [] db
  | cons {db next last : JsonDatabase} {item : DeviceResource} {rest : List DeviceResource} {uri : String}
      (named : item.uri = some uri) (reaches : Reaches drivers value db uri next)
      (others : Delivered next rest last) : Delivered db (item :: rest) last

/-- A reported success means that a resource was selected and that every selected resource got the value. -/
def Truthful (other : String → Option Regex) (db : JsonDatabase) (uri : Option String)
    (outcome : WriteOutcome) : Prop :=
  outcome.result = true → ∃ resources,
    deviceServiceGetResourcesByUriPatternInternal other db uri = some (some resources) ∧ resources ≠ [] ∧
      Delivered drivers value db resources outcome.db

end

/-- The store holds a resource under the URI, or under a URI that the expression of the pattern finds. -/
def Selected (other : String → Option Regex) (db : JsonDatabase) (uri : String) : Prop :=
  ∃ key entry owner address, db.resourcesByUri.lookup key = some (.resource entry owner address) ∧
    if isUriPattern uri then verdict other uri key = true else key = uri

/-- The URI of the time zone resource of a device. -/
def timezoneUri (deviceUuid : String) : String := "/" ++ deviceUuid ++ "/r/" ++ timezone

section Writes
variable {drivers : DriverManager} {value : Option String} {other : String → Option Regex} {db next : JsonDatabase}

/-- The write of one resource succeeds only through its driver. -/
theorem writeNoPattern_reaches {uri : String} (accessible : jsonDatabaseIsUriAccessible db uri = some true)
    (written : deviceServiceWriteResourceNoPattern db drivers uri value = some (true, next)) :
    Reaches drivers value db uri next := by
  refine ⟨accessible, ?_⟩
  obtain ⟨found, read, rest⟩ := Option.bind_eq_some_iff.mp written
  cases found with
  | none => cases rest
  | some resource =>
      dsimp only at rest
      split at rest
      · cases rest
      · rename_i writeable
        obtain ⟨managed, driven, rest⟩ := Option.bind_eq_some_iff.mp rest
        split at rest
        · cases rest
        · rename_i writeResource given
          obtain ⟨driver, same, provides⟩ := Option.bind_eq_some_iff.mp given
          subst same
          exact ⟨resource, driver, writeResource, read, writeable, driven, provides, rest⟩

/-- The loop ends with the result true only when it delivers to every resource. -/
theorem writeEach_delivered {resources : List DeviceResource} {outcome final : WriteOutcome}
    (written : writeEach drivers value outcome resources = some final) (success : final.result = true) :
    outcome.result = true ∧ Delivered drivers value outcome.db resources final.db := by
  induction resources generalizing outcome with
  | nil =>
      cases written
      exact ⟨success, Delivered.nil _⟩
  | cons item rest ih =>
      obtain ⟨accessible, checked, rest⟩ := Option.bind_eq_some_iff.mp written
      cases accessible with
      | false =>
          obtain ⟨impossible, _⟩ := ih rest
          cases impossible
      | true =>
          obtain ⟨uri, named, rest⟩ := Option.bind_eq_some_iff.mp rest
          obtain ⟨⟨result, next⟩, wrote, rest⟩ := Option.bind_eq_some_iff.mp rest
          obtain ⟨both, others⟩ := ih rest
          obtain ⟨earlier, now⟩ := Bool.and_eq_true_iff.mp both
          rw [named] at checked
          cases now
          exact ⟨earlier, Delivered.cons named (writeNoPattern_reaches checked wrote) others⟩

theorem resourceOf_resource {entry : Address} {owner : Option Address} {address : Address}
    (visited : resourceOf db (.resource entry owner address) ≠ none) :
    ∃ resource, resourceOf db (.resource entry owner address) = some (some resource) := by
  obtain ⟨_, given⟩ := Option.ne_none_iff_exists'.mp visited
  obtain ⟨cached, _, same⟩ := Option.map_eq_some_iff.mp given
  exact ⟨cached.content, given.trans (congrArg some same.symm)⟩

/-- The locators of devices, endpoints, and metadata are skipped. -/
theorem resourceOf_other {locator : Locator}
    (other : ∀ entry owner address, locator ≠ .resource entry owner address) : resourceOf db locator = some none := by
  cases locator with
  | resource entry owner address => exact absurd rfl (other entry owner address)
  | device | endpoint | metadata => rfl

/-- Without a stored resource for the URI the selection is an empty list. -/
theorem internal_of_unselected {uri : String} (unselected : ¬Selected other db uri) :
    deviceServiceGetResourcesByUriPatternInternal other db (some uri) = some (some []) := by
  by_cases wild : isUriPattern uri = true
  · simp only [Selected, if_pos wild] at unselected
    have skipped : ∀ source ∈ db.resourcesByUri.entries, visitLocator other db uri source = some none := by
      rintro ⟨key, locator⟩ stored
      unfold visitLocator
      split
      · rename_i finds
        refine resourceOf_other fun entry owner address same => unselected ⟨key, entry, owner, address, ?_, finds⟩
        rw [← same]
        exact AList.mem_lookup_iff.mpr stored
      · rfl
    have nothing : collect (visitLocator other db uri) db.resourcesByUri.entries = some [] := by
      refine collect_eq_some.mpr ⟨fun source stored => ?_, (List.filterMap_eq_nil_iff.mpr fun source stored => ?_).symm⟩
      · rw [skipped source stored]
        exact Option.some_ne_none _
      · rw [skipped source stored]
        rfl
    rw [getResourcesInternal_eq wild, getResourcesByUriRegex_eq, nothing]
    rfl
  · simp only [Selected, if_neg wild] at unselected
    have nothing : jsonDatabaseGetResourceByUri db uri = some none := by
      cases located : db.resourcesByUri.lookup uri with
      | none => exact getResourceByUri_of_missing located
      | some locator =>
          rw [getResourceByUri_of_lookup located]
          refine resourceOf_other fun entry owner address same => unselected ⟨uri, entry, owner, address, ?_, rfl⟩
          rw [located, same]
    rw [getResourcesInternal_plain wild, nothing]
    rfl

/-- With a stored resource for the URI the selection is not empty. -/
theorem internal_of_selected {uri : String} {resources : List DeviceResource} (selected : Selected other db uri)
    (internal : deviceServiceGetResourcesByUriPatternInternal other db (some uri) = some (some resources)) :
    resources ≠ [] := by
  obtain ⟨key, entry, owner, address, located, chosen⟩ := selected
  split at chosen
  · rename_i wild
    rw [getResourcesInternal_eq wild, getResourcesByUriRegex_eq] at internal
    obtain ⟨_, looped, same⟩ := Option.map_eq_some_iff.mp internal
    cases same
    obtain ⟨each, rfl⟩ := collect_eq_some.mp looped
    have stored := AList.mem_lookup_iff.mp located
    have visited := each _ stored
    rw [visitLocator, if_pos chosen] at visited
    obtain ⟨resource, given⟩ := resourceOf_resource visited
    have kept : (visitLocator other db uri ⟨key, .resource entry owner address⟩).join = some resource := by
      rw [visitLocator, if_pos chosen, given]
      rfl
    exact List.ne_nil_of_mem (List.mem_filterMap.mpr ⟨_, stored, kept⟩)
  · rename_i plain
    subst chosen
    rw [getResourcesInternal_plain plain, getResourceByUri_of_lookup located] at internal
    obtain ⟨found, read, same⟩ := Option.map_eq_some_iff.mp internal
    have visited : resourceOf db (.resource entry owner address) ≠ none := by rw [read]; exact Option.some_ne_none _
    obtain ⟨resource, given⟩ := resourceOf_resource visited
    rw [given, Option.some.injEq] at read
    subst read
    cases same
    exact List.cons_ne_nil _ _

/-- A write is truthful exactly when its URI is NULL or the store holds a resource for it. -/
theorem write_truthful_iff {uri : Option String} : (∀ outcome,
      deviceServiceWriteResource drivers value other db uri = some outcome →
        Truthful drivers value other db uri outcome) ↔ ∀ given, uri = some given → Selected other db given := by
  constructor
  · rintro truthful given rfl
    by_contra unselected
    have internal := internal_of_unselected unselected
    have written : deviceServiceWriteResource drivers value other db (some given) = some ⟨true, db, []⟩ := by
      unfold deviceServiceWriteResource
      dsimp only
      rw [internal]
      rfl
    obtain ⟨resources, found, chosen, _⟩ := truthful _ written rfl
    rw [internal, Option.some.injEq, Option.some.injEq] at found
    exact chosen found.symm
  · intro selected outcome written success
    cases uri with
    | none =>
        cases written
        cases success
    | some given =>
        obtain ⟨found, internal, rest⟩ := Option.bind_eq_some_iff.mp written
        cases found with
        | none =>
            cases rest
            cases success
        | some resources =>
            obtain ⟨_, delivered⟩ := writeEach_delivered rest success
            exact ⟨resources, internal, internal_of_selected (selected given rfl) internal, delivered⟩

end Writes

section TimeZone
variable {drivers : DriverManager} {other : String → Option Regex} {db : JsonDatabase} {deviceUuid : String}
  {device : DeviceRecord} {posixTZ : Option String}

/-- The URIs that the resources get do not change which of them is found. -/
theorem findDeviceResourceById_setUris (baseUri id : String) (resources : List DeviceResource) :
    deviceServiceFindDeviceResourceById id (setUrisOnResources baseUri resources) =
      (deviceServiceFindDeviceResourceById id resources).map fun found =>
        found.map fun resource => { resource with uri := some (baseUri ++ "/r/" ++ id) } := by
  induction resources with
  | nil => rfl
  | cons resource rest ih =>
      unfold setUrisOnResources at ih ⊢
      rw [List.map_cons]
      unfold deviceServiceFindDeviceResourceById
      dsimp only
      cases named : resource.id with
      | none => rfl
      | some found =>
          dsimp only [Option.bind_some]
          by_cases same : found = id
          · rw [if_pos same, if_pos same, ← same, Option.map_some, Option.map_some, named]
            rfl
          · rw [if_neg same, if_neg same]
            exact ih

/-- The write of the time zone is the write to the URI of the time zone resource. -/
theorem writeTimeZone_eq : writeTimeZone drivers other db deviceUuid device posixTZ =
    (deviceServiceFindDeviceResourceById timezone device.resources).bind fun found =>
      match found, posixTZ with
      | some _, some zone =>
          (deviceServiceWriteResource drivers (some zone) other db (some (timezoneUri deviceUuid))).map some
      | _, _ => some none := by
  have found := findDeviceResourceById_setUris ("/" ++ deviceUuid) timezone device.resources
  unfold writeTimeZone setUris
  dsimp only
  rw [found]
  cases deviceServiceFindDeviceResourceById timezone device.resources with
  | none => rfl
  | some resource => cases resource <;> cases posixTZ <;> rfl

/-- The device has a time zone resource and the property is set. -/
def Due (device : DeviceRecord) (posixTZ : Option String) : Prop :=
  (∃ resource, deviceServiceFindDeviceResourceById timezone device.resources = some (some resource)) ∧
    posixTZ.isSome = true

/-- The write of the time zone is truthful exactly when none is due or the store holds a resource for its URI. -/
theorem timeZone_truthful_iff : (∀ outcome,
      writeTimeZone drivers other db deviceUuid device posixTZ = some (some outcome) →
        Truthful drivers posixTZ other db (some (timezoneUri deviceUuid)) outcome) ↔
      (Due device posixTZ → Selected other db (timezoneUri deviceUuid)) := by
  have whole := @write_truthful_iff drivers posixTZ other db (some (timezoneUri deviceUuid))
  rw [writeTimeZone_eq]
  constructor
  · rintro truthful ⟨⟨resource, found⟩, given⟩
    obtain ⟨zone, rfl⟩ := Option.isSome_iff_exists.mp given
    rw [found] at truthful
    refine whole.mp (fun outcome written => truthful outcome ?_) _ rfl
    rw [Option.bind_some]
    dsimp only
    rw [written]
    rfl
  · intro selected outcome written
    obtain ⟨found, finds, written⟩ := Option.bind_eq_some_iff.mp written
    cases found with
    | none => cases written
    | some resource =>
        cases posixTZ with
        | none => cases written
        | some zone =>
            obtain ⟨_, written, same⟩ := Option.map_eq_some_iff.mp written
            cases same
            refine whole.mpr (fun given same => ?_) outcome written
            cases same
            exact selected ⟨⟨resource, finds⟩, rfl⟩

end TimeZone

/-- A reported write happened exactly when its URI is NULL or the store holds a resource for the URI. For the time
zone of a device that is being finalized this means that the store already holds its resource. -/
theorem reported_write_happened_iff (drivers : DriverManager) (value : Option String) (other : String → Option Regex)
    (db : JsonDatabase) (uri : Option String) (deviceUuid : String) (device : DeviceRecord) (posixTZ : Option String) :
    ((∀ outcome, deviceServiceWriteResource drivers value other db uri = some outcome →
        Truthful drivers value other db uri outcome) ↔ ∀ given, uri = some given → Selected other db given) ∧
    ((∀ outcome, writeTimeZone drivers other db deviceUuid device posixTZ = some (some outcome) →
        Truthful drivers posixTZ other db (some (timezoneUri deviceUuid)) outcome) ↔
      (Due device posixTZ → Selected other db (timezoneUri deviceUuid))) :=
  ⟨write_truthful_iff, timeZone_truthful_iff⟩

/-- The empty database selects nothing for the URI `/a/r/on`, and the write reports success. -/
theorem not_reported_write_happened : ¬ ∀ (drivers : DriverManager) (value : Option String)
    (other : String → Option Regex) (db : JsonDatabase) (uri : Option String) (outcome : WriteOutcome),
    deviceServiceWriteResource drivers value other db uri = some outcome →
      Truthful drivers value other db uri outcome := by
  intro claim
  have reported : deviceServiceWriteResource (fun _ => none) (some "true") (fun _ => none)
    (JsonDatabase.empty ∅) (some "/a/r/on") = some ⟨true, JsonDatabase.empty ∅, []⟩ := rfl
  obtain ⟨resources, found, chosen, _⟩ := claim _ _ _ _ _ _ reported rfl
  cases found
  exact chosen rfl

end Barton.Delivery
