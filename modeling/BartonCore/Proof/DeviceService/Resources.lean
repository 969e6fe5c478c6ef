import BartonCore.Construction.DeviceService.Resources
import BartonCore.Proof.Database.IndexRuns

namespace Barton.Resources
open Database

/-- This is the stored resource behind the addresses of a locator. -/
def stored (db : JsonDatabase) (target : Address × Address) : Option DeviceResource :=
  (db.resourceAt target.1 target.2).map Allocated.content

section Writes
variable {lib : Library} {db next : JsonDatabase} {result outcome : Bool}

theorem allResources_updateResource (device : CachedDevice) (address : Address)
    (update : DeviceResource → DeviceResource) :
    (device.updateResource address update).allResources = updateAt address update device.allResources := by
  unfold CachedDevice.allResources CachedDevice.updateResource updateAt Cells.write
  rw [List.map_append, List.map_flatMap, List.flatMap_map]

theorem resourceAt_updateResource (device : CachedDevice) (address other : Address)
    (update : DeviceResource → DeviceResource) :
    ((device.updateResource address update).resourceAt other).map Allocated.content =
      ((device.resourceAt other).map Allocated.content).map fun content =>
        if other = address then update content else content := by
  unfold CachedDevice.resourceAt
  rw [allResources_updateResource, content_updateAt]

/-- A write through a resource locator changes one stored resource. -/
theorem stored_withResource (db : JsonDatabase) (target other : Address × Address)
    (update : DeviceResource → DeviceResource) :
    stored (withResource db target.1 target.2 update) other =
      (stored db other).map fun content => if other = target then update content else content := by
  unfold stored JsonDatabase.resourceAt withResource
  rw [entryAt_updateEntry db target.1 other.1 (by intro _; rfl)]
  cases db.entryAt other.1 with
  | none => rfl
  | some entry =>
      rw [Option.map_some, Option.bind_some, Option.bind_some]
      by_cases same : other.1 = target.1
      · rw [if_pos same, resourceAt_updateResource]
        simp only [Prod.ext_iff, same, true_and]
      · have different : other ≠ target := fun equal => same (congrArg Prod.fst equal)
        simp [same, different, Function.comp_def]

/-- A flush changes no stored resource. -/
theorem stored_flushEntry {address : Address}
    (flushed : flushEntry lib db address outcome = some (result, next)) (target : Address × Address) :
    stored next target = stored db target := by
  obtain ⟨entry, _, _, written⟩ := flushEntry_cases lib flushed
  subst written
  unfold stored JsonDatabase.resourceAt JsonDatabase.entryAt
  rw [Cells.read_write_ite target.1 _ (by intro _; rfl)]
  cases Cells.read CacheEntry.address target.1 db.devices with
  | none => rfl
  | some held => by_cases same : target.1 = address <;> simp [same]

/-- A save replaces the located resource and no other. -/
theorem stored_saveResource {resource : DeviceResource}
    (saved : jsonDatabaseSaveResource lib db resource outcome = some (result, next))
    (target : Address × Address) :
    stored next target = (stored db target).map fun content =>
      if db.locateResource resource.uri = some target then replaceResource resource content
      else content := by
  rcases jsonDatabaseSaveResource_cases lib saved with
    ⟨nowhere, _, same⟩ | ⟨entry, address, located, ⟨_, _, same⟩ | ⟨_, flushed⟩⟩
  · simp [same, nowhere]
  · rw [same, stored_withResource db (entry, address)]
    simp [located, eq_comm]
  · rw [stored_flushEntry flushed, stored_withResource db (entry, address)]
    simp [located, eq_comm]

/-- The sync date changes neither a value nor a mode. -/
theorem stored_updateDate {resource : DeviceResource} {now : UInt64}
    (updated : jsonDatabaseUpdateDateOfLastSyncMillis db resource now = some (result, next))
    (target : Address × Address) :
    ∃ update : DeviceResource → DeviceResource,
      (∀ content, (update content).value = content.value ∧ (update content).mode = content.mode) ∧
      stored next target = (stored db target).map update := by
  rcases jsonDatabaseUpdateDateOfLastSyncMillis_cases updated with
    ⟨_, _, same⟩ | ⟨entry, address, _, _, same⟩
  · exact ⟨id, fun _ => ⟨rfl, rfl⟩, by simp [same]⟩
  · rw [same, stored_withResource db (entry, address)]
    refine ⟨_, ?_, rfl⟩
    intro content
    by_cases inside : target = (entry, address)
    · simp [inside]
    · simp [inside]

end Writes

/-- The value and the mode of a resource. -/
def view (resource : DeviceResource) : Option String × UInt8 := (resource.value, resource.mode)

/-- A change replaces one of the two fields. -/
def Change.apply : Change → Option String × UInt8 → Option String × UInt8
  | .value newValue, fields => (newValue, fields.2)
  | .mode newMode, fields => (fields.1, newMode)

/-- The value that a save wrote to a resource. -/
def Save.valueOf (target : Address × Address) (save : Save) : Option (Option String) :=
  match save.change with
  | .value newValue => if save.target = target then some newValue else none
  | .mode _ => none

/-- The mode that a save wrote to a resource. -/
def Save.modeOf (target : Address × Address) (save : Save) : Option UInt8 :=
  match save.change with
  | .value _ => none
  | .mode mode => if save.target = target then some mode else none

/-- The new value of the last `updateResource` save on a resource. -/
def lastValue (saves : List Save) (target : Address × Address) : Option (Option String) :=
  (saves.filterMap (Save.valueOf target)).getLast?

/-- The mode of the last mode change on a resource. -/
def lastMode (saves : List Save) (target : Address × Address) : Option UInt8 :=
  (saves.filterMap (Save.modeOf target)).getLast?

/-- Every resource has the last saved value and the last saved mode, and the initial ones without a save. -/
def NoLostUpdate (before : JsonDatabase) (service : Service) : Prop :=
  ∀ target, (stored service.db target).map view = (stored before target).map fun resource =>
    ((lastValue service.saves target).getD resource.value,
      (lastMode service.saves target).getD resource.mode)

/-- The mode has the sensitive bit. -/
def Sensitive (mode : UInt8) : Prop := mode &&& resourceModeSensitive ≠ 0

instance (mode : UInt8) : Decidable (Sensitive mode) := inferInstanceAs (Decidable (_ ≠ _))

/-- Every resource that is sensitive in the earlier database is sensitive in the later one. -/
def KeepsSensitive (earlier later : JsonDatabase) : Prop :=
  ∀ target, ∀ old ∈ stored earlier target, Sensitive old.mode →
    ∃ new ∈ stored later target, Sensitive new.mode

/-- The resource that a save of this copy would overwrite. -/
def overwritten (db : JsonDatabase) (resource : DeviceResource) : Option DeviceResource :=
  (db.locateResource resource.uri).bind (stored db)

/-- The fields that a save does not mean to change are stored as the call read them. -/
def Current (db : JsonDatabase) : Frame → Prop
  | .store call resource => resource.value ≠ call.newValue →
      ∀ old ∈ overwritten db resource, old.mode = resource.mode
  | .storeMode resource newMode =>
      ∀ old ∈ overwritten db resource, old.value = resource.value ∧
        (Sensitive old.mode → Sensitive (modeToStore resource newMode))
  | _ => True

instance (db : JsonDatabase) (frame : Frame) : Decidable (Current db frame) :=
  match frame with
  | .store call resource => inferInstanceAs (Decidable (resource.value ≠ call.newValue →
      ∀ old ∈ overwritten db resource, old.mode = resource.mode))
  | .storeMode resource newMode => inferInstanceAs (Decidable (∀ old ∈ overwritten db resource,
      old.value = resource.value ∧ (Sensitive old.mode → Sensitive (modeToStore resource newMode))))
  | .update _ | .changeMode _ _ | .findResource _ _ | .findEndpoint _ _ | .findDevice _ _ _
  | .findInherited _ _ | .send _ | .returned _ => isTrue trivial

/-- The thread that moves does not save an outdated copy. -/
def Undisturbed (current : Threads.Configuration Service (List Frame)) (input : Nat × Outcome) : Prop :=
  ∀ thread ∈ current.threads[input.1]?, ∀ frame ∈ thread.head?, Current current.shared.db frame

instance (current : Threads.Configuration Service (List Frame)) (input : Nat × Outcome) :
    Decidable (Undisturbed current input) :=
  inferInstanceAs (Decidable (∀ thread ∈ current.threads[input.1]?, ∀ frame ∈ thread.head?,
    Current current.shared.db frame))

/-- The changes of one resource are applied in order. -/
def applyChanges (changes : List Save) (target : Address × Address) (fields : Option String × UInt8) :
    Option String × UInt8 :=
  (changes.filter fun save => save.target = target).foldl (fun fields save => save.change.apply fields)
    fields

theorem applyChanges_append (first second : List Save) (target : Address × Address)
    (fields : Option String × UInt8) :
    applyChanges (first ++ second) target fields =
      applyChanges second target (applyChanges first target fields) := by
  unfold applyChanges
  rw [List.filter_append, List.foldl_append]

/-- In the end only the last change of each field counts. -/
theorem applyChanges_eq (changes : List Save) (target : Address × Address)
    (fields : Option String × UInt8) :
    applyChanges changes target fields =
      ((lastValue changes target).getD fields.1, (lastMode changes target).getD fields.2) := by
  induction changes using List.reverseRecOn with
  | nil => rfl
  | append_singleton rest save ih =>
      rw [applyChanges_append, ih]
      obtain ⟨place, change⟩ := save
      unfold applyChanges lastValue lastMode
      rw [List.filterMap_append, List.filterMap_append]
      by_cases same : place = target
      · cases change <;> simp [same, Save.valueOf, Save.modeOf, Change.apply]
      · cases change <;> simp [same, Save.valueOf, Save.modeOf]

section Steps
variable {lib : Library} {service next last : Service} {outcome : Outcome} {frames : List Frame}
  {changes later : List Save}

/-- The effect of some saves on the stored values and modes. -/
structure Applies (service next : Service) (changes : List Save) : Prop where
  saves : next.saves = service.saves ++ changes
  fields : ∀ target, (stored next.db target).map view =
    ((stored service.db target).map view).map (applyChanges changes target)
  sensitive : KeepsSensitive service.db next.db

theorem KeepsSensitive.trans {first second third : JsonDatabase} (left : KeepsSensitive first second)
    (right : KeepsSensitive second third) : KeepsSensitive first third := by
  intro target old found sensitive
  obtain ⟨middle, present, kept⟩ := left target old found sensitive
  exact right target middle present kept

/-- The sensitive bit can be read off the values and modes. -/
theorem KeepsSensitive.of_fields {earlier later : JsonDatabase}
    (same : ∀ target, (stored later target).map view = (stored earlier target).map view) :
    KeepsSensitive earlier later := by
  intro target old found sensitive
  have fields := same target
  rw [Option.mem_def.mp found, Option.map_some, Option.map_eq_some_iff] at fields
  obtain ⟨new, present, equal⟩ := fields
  have mode : new.mode = old.mode := congrArg Prod.snd equal
  exact ⟨new, present, mode ▸ sensitive⟩

theorem Applies.of_fields (saves : next.saves = service.saves)
    (same : ∀ target, (stored next.db target).map view = (stored service.db target).map view) :
    Applies service next [] where
  saves := by simp [saves]
  fields target := by
    rw [same]
    cases (stored service.db target).map view <;> rfl
  sensitive := KeepsSensitive.of_fields same

theorem Applies.trans (left : Applies service next changes) (right : Applies next last later) :
    Applies service last (changes ++ later) where
  saves := by rw [right.saves, left.saves, List.append_assoc]
  fields target := by
    rw [right.fields, left.fields, Option.map_map]
    congr 1
    funext fields
    exact (applyChanges_append changes later target fields).symm
  sensitive := left.sensitive.trans right.sensitive

/-- A save of a current copy changes the field that it means to change. -/
theorem Applies.record {copy : DeviceResource} {change : Change} {result stored : Bool}
    {db : JsonDatabase} (saved : jsonDatabaseSaveResource lib service.db copy stored = some (result, db))
    (agrees : ∀ old ∈ overwritten service.db copy, view copy = change.apply (view old))
    (sensitive : ∀ old ∈ overwritten service.db copy, Sensitive old.mode → Sensitive copy.mode) :
    Applies service (service.record db copy change)
      ((service.db.locateResource copy.uri).toList.map (⟨·, change⟩)) where
  saves := rfl
  fields target := by
    show (Resources.stored db target).map view = _
    rw [stored_saveResource saved, Option.map_map, Option.map_map]
    cases found : Resources.stored service.db target with
    | none => rfl
    | some old =>
        simp only [Option.map_some, Function.comp_apply, Option.some.injEq]
        cases located : service.db.locateResource copy.uri with
        | none => simp [applyChanges]
        | some place =>
            by_cases same : place = target
            · have held : old ∈ overwritten service.db copy := by
                rw [overwritten, located, Option.bind_some, same]
                exact found
              simp only [same, if_true, applyChanges, Option.toList_some, List.map_cons, List.map_nil,
                decide_true, List.filter_cons_of_pos, List.filter_nil, List.foldl_cons, List.foldl_nil]
              rw [← agrees old held]
              rfl
            · simp [same, applyChanges]
  sensitive := by
    show KeepsSensitive service.db db
    intro target old found kept
    rw [stored_saveResource saved, Option.mem_def.mp found]
    refine ⟨_, rfl, ?_⟩
    dsimp only
    by_cases located : service.db.locateResource copy.uri = some target
    · rw [if_pos located]
      apply sensitive old ?_ kept
      rw [overwritten, located, Option.bind_some]
      exact found
    · rw [if_neg located]
      exact kept

theorem storeValue_applies {call : ResourceUpdate} {resource : DeviceResource}
    (fresh : Current service.db (.store call resource))
    (moved : storeValue lib service call resource outcome = some (next, frames)) :
    ∃ changes, Applies service next changes := by
  unfold storeValue at moved
  by_cases same : resource.value = call.newValue
  · rw [if_pos same] at moved
    obtain ⟨⟨result, db⟩, updated, equal⟩ := Option.map_eq_some_iff.mp moved
    cases equal
    refine ⟨[], Applies.of_fields rfl ?_⟩
    intro target
    obtain ⟨update, kept, written⟩ := stored_updateDate updated target
    show (stored db target).map view = _
    rw [written, Option.map_map]
    congr 1
    funext content
    exact Prod.ext (kept content).1 (kept content).2
  · rw [if_neg same] at moved
    obtain ⟨⟨result, db⟩, saved, equal⟩ := Option.map_eq_some_iff.mp moved
    cases equal
    refine ⟨_, Applies.record saved ?_ ?_⟩
    · intro old held
      exact Prod.ext rfl (fresh same old held).symm
    · intro old held sensitive
      exact fresh same old held ▸ sensitive

theorem storeMode_applies {resource : DeviceResource} {newMode : UInt8}
    (fresh : Current service.db (.storeMode resource newMode))
    (moved : storeMode lib service resource newMode outcome = some (next, frames)) :
    ∃ changes, Applies service next changes := by
  unfold storeMode at moved
  obtain ⟨⟨result, db⟩, saved, equal⟩ := Option.map_eq_some_iff.mp moved
  cases equal
  refine ⟨_, Applies.record saved ?_ ?_⟩
  · intro old held
    exact Prod.ext (fresh old held).1.symm rfl
  · intro old held
    exact (fresh old held).2

theorem frameMove_applies {frame : Frame} (fresh : Current service.db frame)
    (moved : frameMove lib service frame outcome = some (next, frames)) :
    ∃ changes, Applies service next changes := by
  have quiet {events : List ResourceUpdated} :
      ∃ changes, Applies service { service with events := events } changes :=
    ⟨[], Applies.of_fields rfl fun _ => rfl⟩
  have read {found : Option (List Frame)}
      (moved : found.map (fun frames => (service, frames)) = some (next, frames)) :
      ∃ changes, Applies service next changes := by
    obtain ⟨_, _, equal⟩ := Option.map_eq_some_iff.mp moved
    cases equal
    exact quiet
  cases frame with
  | store call resource => exact storeValue_applies fresh moved
  | storeMode resource newMode => exact storeMode_applies fresh moved
  | returned result => cases moved
  | send event =>
      cases moved
      exact quiet
  | update | changeMode | findResource | findEndpoint | findDevice | findInherited => exact read moved

end Steps

section Runs
variable {lib : Library} {start middle final : Threads.Configuration Service (List Frame)}
  {input : Nat × Outcome} {schedule first second : List (Nat × Outcome)}

theorem step_applies (fresh : Undisturbed start input)
    (stepped : Threads.step (move lib) start input = some final) :
    ∃ changes, Applies start.shared final.shared changes := by
  obtain ⟨before, thread, after, shared, moved, split, position, taken, rfl⟩ := Threads.step_split stepped
  cases thread with
  | nil => cases taken
  | cons frame rest =>
      obtain ⟨⟨next, frames⟩, made, equal⟩ := Option.map_eq_some_iff.mp taken
      cases equal
      have top : frame :: rest ∈ start.threads[input.1]? := by
        rw [split, ← position]
        simp
      exact frameMove_applies (fresh _ top frame rfl) made

theorem run_applies (undisturbed : Runs.Guarded (Threads.step (move lib)) Undisturbed start schedule)
    (reached : run lib start schedule = some final) :
    ∃ changes, Applies start.shared final.shared changes := by
  induction schedule generalizing start with
  | nil =>
      cases reached
      exact ⟨[], Applies.of_fields rfl fun _ => rfl⟩
  | cons input rest ih =>
      obtain ⟨next, stepped, later⟩ := Option.bind_eq_some_iff.mp reached
      obtain ⟨changes, applied⟩ := step_applies undisturbed.1 stepped
      obtain ⟨more, continued⟩ := ih (undisturbed.2 next stepped) later
      exact ⟨changes ++ more, applied.trans continued⟩

/-- No update is lost when every save writes back the mode, the value, and the sensitive bit that are stored. -/
theorem run_noLostUpdate (fresh : start.shared.saves = [])
    (undisturbed : Runs.Guarded (Threads.step (move lib)) Undisturbed start (first ++ second))
    (reached : run lib start first = some middle) (continued : run lib middle second = some final) :
    NoLostUpdate start.shared.db final.shared ∧ KeepsSensitive middle.shared.db final.shared.db := by
  have whole : run lib start (first ++ second) = some final := by
    unfold run Threads.run at reached continued ⊢
    rw [Runs.run_append, reached, Option.bind_some, continued]
  constructor
  · obtain ⟨changes, applied⟩ := run_applies undisturbed whole
    intro target
    have saved : changes = final.shared.saves := by rw [applied.saves, fresh, List.nil_append]
    rw [applied.fields, Option.map_map, saved]
    congr 1
    funext resource
    exact applyChanges_eq final.shared.saves target (view resource)
  · obtain ⟨changes, applied⟩ := run_applies (Runs.Guarded.drop _ undisturbed reached) continued
    exact applied.sensitive

end Runs

/-- These calls add the sample device with the sample resource at the addresses 0 and 1. -/
def sampleCalls : List (Call × Bool) :=
  [(.addDevice sampleDevice, true), (.addResource (some "/a") sampleResource, true)]

/-- The database holds the sample resource, and no change is saved yet. -/
def sampleService : Service :=
  ⟨(Database.run sampleLibrary (JsonDatabase.empty ∅) sampleCalls).getD (JsonDatabase.empty ∅), [], []⟩

/-- One thread sets the value, and another thread sets the sensitive mode. -/
def sampleThreads : List (List Frame) :=
  [[.update ⟨some "a", none, some "on", some "false", none⟩],
    [.changeMode (some "/a/r/on") (resourceModeReadable ||| resourceModeSensitive)]]

/-- The threads move in the given order at a fixed time with a working storage. -/
def order (threads : List Nat) : List (Nat × Outcome) := threads.map fun thread => (thread, ⟨7, true⟩)

/-- This is the configuration after the threads moved in the given order. -/
def sampleAfter (threads : List Nat) : Threads.Configuration Service (List Frame) :=
  (run sampleLibrary ⟨sampleService, sampleThreads⟩ (order threads)).getD ⟨sampleService, []⟩

theorem run_noLostUpdate_sample :
    run sampleLibrary ⟨sampleService, sampleThreads⟩ (order [1, 1, 1]) = some (sampleAfter [1, 1, 1]) ∧
    (stored (sampleAfter [1, 1, 1, 0, 0, 1]).shared.db (0, 1)).map view =
      some (some "false", resourceModeReadable ||| resourceModeSensitive) ∧
    NoLostUpdate sampleService.db (sampleAfter [1, 1, 1, 0, 0, 1]).shared ∧
    KeepsSensitive (sampleAfter [1, 1, 1]).shared.db (sampleAfter [1, 1, 1, 0, 0, 1]).shared.db := by
  have undisturbed : Runs.Guarded (Threads.step (move sampleLibrary)) Undisturbed
      ⟨sampleService, sampleThreads⟩ (order [1, 1, 1] ++ order [0, 0, 1]) := by
    decide +kernel
  exact ⟨rfl, by decide +kernel, run_noLostUpdate rfl undisturbed rfl rfl⟩

/-- A value update that read its copy before a mode change clears the sensitive bit again. -/
theorem not_run_noLostUpdate :
    ¬∀ (lib : Library) (calls : List (Call × Bool)) (db : JsonDatabase) (threads : List (List Frame))
      (first second : List (Nat × Outcome)) (middle final : Threads.Configuration Service (List Frame)),
      Database.run lib (JsonDatabase.empty ∅) calls = some db →
      (∀ thread ∈ threads, (∃ call, thread = [.update call]) ∨
        ∃ uri newMode, thread = [.changeMode uri newMode]) →
      run lib ⟨⟨db, [], []⟩, threads⟩ first = some middle → run lib middle second = some final →
      (∀ thread ∈ final.threads, thread = [] ∨ ∃ result, thread = [.returned result]) →
      NoLostUpdate db final.shared ∧ KeepsSensitive middle.shared.db final.shared.db := by
  intro claim
  have calls : ∀ thread ∈ sampleThreads, (∃ call, thread = [Frame.update call]) ∨
      ∃ uri newMode, thread = [Frame.changeMode uri newMode] := by
    intro thread member
    simp only [sampleThreads, List.mem_cons, List.not_mem_nil, or_false] at member
    rcases member with rfl | rfl
    · exact Or.inl ⟨_, rfl⟩
    · exact Or.inr ⟨_, _, rfl⟩
  have finished : ∀ thread ∈ (sampleAfter [0, 1, 1, 1, 0, 1]).threads,
      thread = [] ∨ ∃ result, thread = [Frame.returned result] := by
    intro thread member
    have same : (sampleAfter [0, 1, 1, 1, 0, 1]).threads = [[], [Frame.returned true]] := rfl
    rw [same, List.mem_cons, List.mem_singleton] at member
    exact member.imp_right fun same => ⟨true, same⟩
  obtain ⟨_, sensitive⟩ := claim sampleLibrary sampleCalls sampleService.db sampleThreads
    (order [0, 1, 1, 1]) (order [0, 1]) (sampleAfter [0, 1, 1, 1]) (sampleAfter [0, 1, 1, 1, 0, 1])
    rfl calls rfl rfl finished
  have marked : (stored (sampleAfter [0, 1, 1, 1]).shared.db (0, 1)).any
      (fun resource => decide (Sensitive resource.mode)) = true := by decide +kernel
  have cleared : (stored (sampleAfter [0, 1, 1, 1, 0, 1]).shared.db (0, 1)).all
      (fun resource => decide (¬Sensitive resource.mode)) = true := by decide +kernel
  obtain ⟨old, found, before⟩ := (Option.any_eq_true _ _).mp marked
  obtain ⟨new, present, after⟩ := sensitive (0, 1) old found (of_decide_eq_true before)
  rw [Option.mem_def.mp present] at cleared
  exact of_decide_eq_true cleared after

end Barton.Resources
