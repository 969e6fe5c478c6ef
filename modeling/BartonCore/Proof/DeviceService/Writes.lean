import BartonCore.Proof.DeviceService.Moves
import BartonCore.Proof.DeviceService.Resources

namespace Barton.Lifecycle
open Database

section Definitions

/-- The frame belongs to a write of metadata or to an update of a resource. -/
def writer : Frame → Bool
  | .setMetadataUri _ _ | .setMetadata _ _ _ _ | .saveMetadata _ | .announceMetadata _ => true
  | .resource (.update _) | .resource (.store _ _) | .resource (.send _) => true
  | .returned _ => true
  | _ => false

/-- The call that stores the value of a resource update. -/
def storeCall (call : Resources.ResourceUpdate) (resource : DeviceResource) (now : UInt64) : Call :=
  if resource.value = call.newValue then .updateDateOfLastSyncMillis resource now
  else .saveResource (Resources.updatedCopy call resource now)

/-- The call that a frame of a writer makes, with the outcome of the storage. -/
def writesOf (outcome : Outcome) : Frame → List (Call × Bool)
  | .saveMetadata metadata => [(.saveMetadata metadata, outcome.stored)]
  | .resource (.store call resource) => [(storeCall call resource outcome.now, outcome.stored)]
  | _ => []

/-- The resource that the repository reads under a URI. -/
def readResource (db : JsonDatabase) (uri : String) : Option DeviceResource :=
  (jsonDatabaseGetResourceByUri db uri).join

/-- The metadata of the device and of its endpoints is the same in both trees. -/
structure SameMetadata (first second : DeviceRecord) : Prop where
  device : first.metadata = second.metadata
  endpoints : first.endpoints.map (fun endpoint => (endpoint.id, endpoint.metadata)) =
    second.endpoints.map (fun endpoint => (endpoint.id, endpoint.metadata))

/-- A configuration with the writes so far and with the tree that the drivers built. -/
structure Traced where
  current : Threads.Configuration Service (List Frame)
  writes : List (Call × Bool)
  built : Option DeviceRecord

/-- The frame that a step moves. -/
def movedFrame (current : Threads.Configuration Service (List Frame)) (input : Nat × Outcome) :
    Option Frame :=
  current.threads[input.1]?.bind List.head?

/-- The configuration by the drivers builds a tree. -/
def builtBy (outcome : Outcome) (built : Option DeviceRecord) : Option Frame → Option DeviceRecord
  | some (.configure _ _) => some outcome.built
  | _ => built

/-- A step with its trace. -/
def tracedStep (lib : Library) (drivers : Drivers) (traced : Traced) (input : Nat × Outcome) :
    Option Traced :=
  (Threads.step (move lib drivers) traced.current input).map fun next =>
    ⟨next, traced.writes ++ ((movedFrame traced.current input).map (writesOf input.2)).getD [],
      builtBy input.2 traced.built (movedFrame traced.current input)⟩

/-- A run with its trace. -/
def tracedRun (lib : Library) (drivers : Drivers) (start : Threads.Configuration Service (List Frame))
    (schedule : List (Nat × Outcome)) : Option Traced :=
  Runs.run (tracedStep lib drivers) ⟨start, [], none⟩ schedule

/-- The trace of a run does not change it. -/
theorem tracedRun_current (lib : Library) (drivers : Drivers)
    (start : Threads.Configuration Service (List Frame)) (schedule : List (Nat × Outcome)) :
    (tracedRun lib drivers start schedule).map Traced.current = run lib drivers start schedule := by
  unfold tracedRun
  have same (traced : Traced) : (Runs.run (tracedStep lib drivers) traced schedule).map Traced.current =
      Runs.run (Threads.step (move lib drivers)) traced.current schedule := by
    induction schedule generalizing traced with
    | nil => rfl
    | cons input rest ih =>
        rw [Runs.run, Runs.run, tracedStep]
        cases Threads.step (move lib drivers) traced.current input with
        | none => rfl
        | some next => exact ih _
  exact same ⟨start, [], none⟩

theorem SameMetadata.refl (device : DeviceRecord) : SameMetadata device device := ⟨rfl, rfl⟩

theorem SameMetadata.trans {first second third : DeviceRecord} (left : SameMetadata first second)
    (right : SameMetadata second third) : SameMetadata first third :=
  ⟨left.device.trans right.device, left.endpoints.trans right.endpoints⟩

end Definitions

section Database
variable {lib : Library} {db next : JsonDatabase} {result stored : Bool} {resource : DeviceResource} {uuid : String}

theorem readResource_eq (db : JsonDatabase) (uri : String) :
    readResource db uri = (db.locateResource (some uri)).bind (Resources.stored db) := by
  unfold readResource jsonDatabaseGetResourceByUri JsonDatabase.locateResource Resources.stored
  rw [Option.bind_some]
  split
  · rename_i entry owner address located
    rw [Option.bind_some]
    cases db.resourceAt entry address <;> rfl
  · rfl

theorem run_one (call : Call) (performed : perform lib db stored call = some (result, next)) :
    Database.run lib db [(call, stored)] = some next := by
  rw [Database.run, Runs.run, Database.step, performed]
  rfl

/-- A resource save does not touch the index. -/
theorem index_saveResource (saved : jsonDatabaseSaveResource lib db resource stored = some (result, next)) :
    next.resourcesByUri = db.resourcesByUri := by
  rcases jsonDatabaseSaveResource_cases lib saved with
    ⟨_, _, same⟩ | ⟨entry, address, _, ⟨_, _, same⟩ | ⟨_, flushed⟩⟩
  · rw [same]
  · rw [same]
    rfl
  · obtain ⟨_, _, _, written⟩ := flushEntry_cases lib flushed
    rw [written]
    rfl

theorem index_updateDate {now : UInt64}
    (updated : jsonDatabaseUpdateDateOfLastSyncMillis db resource now = some (result, next)) :
    next.resourcesByUri = db.resourcesByUri := by
  rcases jsonDatabaseUpdateDateOfLastSyncMillis_cases updated with
    ⟨_, _, same⟩ | ⟨entry, address, _, _, same⟩
  · rw [same]
  · rw [same]
    rfl

/-- An update of a resource keeps the metadata of every tree. -/
theorem sameMetadata_updateResource (device : CachedDevice) (address : Address)
    (update : DeviceResource → DeviceResource) :
    SameMetadata (CachedDevice.record device) (CachedDevice.record (device.updateResource address update)) := by
  constructor
  · rfl
  · unfold CachedDevice.record CachedDevice.updateResource
    simp only [List.map_map]
    rfl

/-- The device is stored in both databases with the same metadata. -/
def KeepsMetadata (uuid : String) (db next : JsonDatabase) : Prop :=
  ∀ device, jsonDatabaseGetDeviceById db (some uuid) = some device →
    ∃ after, jsonDatabaseGetDeviceById next (some uuid) = some after ∧ SameMetadata device after

theorem KeepsMetadata.refl (uuid : String) (db : JsonDatabase) : KeepsMetadata uuid db db :=
  fun device found => ⟨device, found, SameMetadata.refl device⟩

theorem KeepsMetadata.trans {middle : JsonDatabase} (left : KeepsMetadata uuid db middle)
    (right : KeepsMetadata uuid middle next) : KeepsMetadata uuid db next := by
  intro device found
  obtain ⟨between, known, same⟩ := left device found
  obtain ⟨after, held, kept⟩ := right between known
  exact ⟨after, held, same.trans kept⟩

theorem KeepsMetadata.withResource (uuid : String) (db : JsonDatabase) (entry address : Address)
    (update : DeviceResource → DeviceResource) :
    KeepsMetadata uuid db (withResource db entry address update) := by
  intro device found
  obtain ⟨held, known, rfl⟩ := Option.map_eq_some_iff.mp found
  have known : db.deviceEntry uuid = some held := known
  have entries := @deviceEntry_updateEntry db entry (fun entry =>
    { entry with device := entry.device.updateResource address update, dirty := true })
    (fun _ => rfl) uuid
  rw [known, Option.map_some] at entries
  refine ⟨_, congrArg (Option.map fun entry : CacheEntry => CachedDevice.record entry.device) entries, ?_⟩
  split
  · exact sameMetadata_updateResource held.device address update
  · exact SameMetadata.refl _

theorem KeepsMetadata.flush {address : Address}
    (flushed : flushEntry lib db address stored = some (result, next)) : KeepsMetadata uuid db next := by
  intro device found
  obtain ⟨held, known, rfl⟩ := Option.map_eq_some_iff.mp found
  have known : db.deviceEntry uuid = some held := known
  have entries := deviceEntry_flushEntry flushed uuid
  rw [known, Option.map_some] at entries
  refine ⟨_, congrArg (Option.map fun entry : CacheEntry => CachedDevice.record entry.device) entries, ?_⟩
  split <;> exact SameMetadata.refl _

theorem KeepsMetadata.saveResource (saved : jsonDatabaseSaveResource lib db resource stored = some (result, next)) :
    KeepsMetadata uuid db next := by
  rcases jsonDatabaseSaveResource_cases lib saved with
    ⟨_, _, same⟩ | ⟨entry, address, _, ⟨_, _, same⟩ | ⟨_, flushed⟩⟩
  · exact same ▸ KeepsMetadata.refl uuid db
  · exact same ▸ KeepsMetadata.withResource uuid db entry address _
  · exact (KeepsMetadata.withResource uuid db entry address _).trans (KeepsMetadata.flush flushed)

theorem KeepsMetadata.updateDate {now : UInt64}
    (updated : jsonDatabaseUpdateDateOfLastSyncMillis db resource now = some (result, next)) :
    KeepsMetadata uuid db next := by
  rcases jsonDatabaseUpdateDateOfLastSyncMillis_cases updated with
    ⟨_, _, same⟩ | ⟨entry, address, _, _, same⟩
  · exact same ▸ KeepsMetadata.refl uuid db
  · exact same ▸ KeepsMetadata.withResource uuid db entry address _

end Database

section Writers
variable {lib : Library} {drivers : Drivers} {uuid : String} {service next : Service}
  {frame : Frame} {frames moved : List Frame} {outcome : Outcome} {db after : JsonDatabase}

/-- A move of a writer makes the calls of its frame, and its new frames belong to a writer too. -/
structure WriterFacts (lib : Library) (service next : Service) (frame : Frame) (frames : List Frame)
    (outcome : Outcome) : Prop where
  inside : ∀ inner ∈ frames, writer inner = true
  written : Database.run lib service.db (writesOf outcome frame) = some next.db

theorem setParsedMetadata_writer (uri : String) (value : Option String) :
    ∀ inner ∈ setParsedMetadata lib uri value, writer inner = true := by
  unfold setParsedMetadata
  split <;> simp [writer]

theorem resource_writerFacts {inner : Resources.Frame} (writes : writer (.resource inner) = true)
    (made : resourceMove lib service inner outcome = some (next, frames)) :
    WriterFacts lib service next (.resource inner) frames outcome := by
  obtain ⟨⟨resources, moved⟩, step, equal⟩ := Option.map_eq_some_iff.mp made
  cases equal
  cases inner with
  | update call =>
      obtain ⟨frames, found, equal⟩ := Option.map_eq_some_iff.mp step
      cases equal
      refine ⟨?_, rfl⟩
      unfold Resources.updateResource at found
      split at found
      · obtain ⟨resource, _, equal⟩ := Option.map_eq_some_iff.mp found
        split at equal
        · cases equal
          simp
        · split at equal <;> cases equal <;> simp [writer]
      · cases found
        simp
  | store call resource =>
      change Resources.storeValue lib service.resources call resource _ = _ at step
      unfold Resources.storeValue at step
      split at step
      · rename_i same
        obtain ⟨⟨result, db⟩, updated, equal⟩ := Option.map_eq_some_iff.mp step
        cases equal
        refine ⟨by simp, ?_⟩
        rw [writesOf, storeCall, if_pos same]
        exact run_one _ updated
      · rename_i different
        obtain ⟨⟨result, db⟩, saved, equal⟩ := Option.map_eq_some_iff.mp step
        cases equal
        refine ⟨?_, ?_⟩
        · dsimp only
          split <;> simp [writer]
        · rw [writesOf, storeCall, if_neg different]
          exact run_one _ saved
  | send event =>
      cases step
      exact ⟨by simp, rfl⟩
  | _ => cases writes

theorem metadata_writerFacts (made : setMetadata lib service outcome frame = some (next, frames)) :
    WriterFacts lib service next frame frames outcome := by
  unfold setMetadata at made
  split at made
  · cases made
    exact ⟨by simp [writer], rfl⟩
  · obtain ⟨accessible, _, equal⟩ := Option.map_eq_some_iff.mp made
    cases equal
    refine ⟨?_, rfl⟩
    cases accessible with
    | true => exact setParsedMetadata_writer _ _
    | false => simp [writer]
  · obtain ⟨found, _, rest⟩ := Option.bind_eq_some_iff.mp made
    obtain ⟨item, _, equal⟩ := Option.map_eq_some_iff.mp rest
    cases equal
    exact ⟨by simp [writer], rfl⟩
  · cases made
    exact ⟨by simp, rfl⟩
  · obtain ⟨⟨result, db⟩, saved, equal⟩ := Option.map_eq_some_iff.mp made
    cases equal
    exact ⟨by simp [writer], run_one _ saved⟩
  · cases made
    exact ⟨by simp, rfl⟩
  · cases made

theorem writer_facts (writes : writer frame = true)
    (made : frameMove lib drivers service frame outcome = some (next, frames)) :
    WriterFacts lib service next frame frames outcome := by
  cases frame with
  | setMetadataUri _ _ | setMetadata _ _ _ _ | saveMetadata _ | announceMetadata _ =>
      exact metadata_writerFacts made
  | resource inner => exact resource_writerFacts writes made
  | returned _ => cases made
  | _ => cases writes

/-- A thread with a frame of a writer on top moves this frame and keeps the others. -/
theorem writer_move {rest : List Frame} (writes : writer frame = true)
    (made : move lib drivers service (frame :: rest) outcome = some (next, moved)) :
    ∃ frames, moved = frames ++ rest ∧ WriterFacts lib service next frame frames outcome := by
  by_cases returned : ∃ result, frame = .returned result
  · obtain ⟨result, rfl⟩ := returned
    cases rest with
    | nil => cases made
    | cons below others =>
        cases made
        exact ⟨[], rfl, by simp, rfl⟩
  · have other : ∀ result, frame ≠ .returned result := fun result same => returned ⟨result, same⟩
    obtain ⟨frames, step, rfl⟩ := move_frame other made
    exact ⟨frames, rfl, writer_facts writes step⟩

/-- This is what the move of a writer does to the database. -/
inductive WriterEffect (lib : Library) (outcome : Outcome) (db after : JsonDatabase) : Frame → Prop
  | metadata (metadata : DeviceMetadata) (result : Bool)
      (saved : jsonDatabaseSaveMetadata lib db metadata outcome.stored = some (result, after)) :
      WriterEffect lib outcome db after (.saveMetadata metadata)
  | date (call : Resources.ResourceUpdate) (resource : DeviceResource) (result : Bool)
      (updated : jsonDatabaseUpdateDateOfLastSyncMillis db resource outcome.now = some (result, after)) :
      WriterEffect lib outcome db after (.resource (.store call resource))
  | value (call : Resources.ResourceUpdate) (resource : DeviceResource) (result : Bool)
      (different : resource.value ≠ call.newValue)
      (saved : jsonDatabaseSaveResource lib db (Resources.updatedCopy call resource outcome.now)
        outcome.stored = some (result, after)) :
      WriterEffect lib outcome db after (.resource (.store call resource))
  | none (frame : Frame) (quiet : writesOf outcome frame = []) (same : after = db) :
      WriterEffect lib outcome db after frame

theorem WriterFacts.effect (facts : WriterFacts lib service next frame frames outcome) :
    WriterEffect lib outcome service.db next.db frame := by
  have written := facts.written
  have one {call : Call} (performed : Database.run lib service.db [(call, outcome.stored)] = some next.db) :
      ∃ result, perform lib service.db outcome.stored call = some (result, next.db) := by
    rw [Database.run, Runs.run] at performed
    obtain ⟨after, stepped, rest⟩ := Option.bind_eq_some_iff.mp performed
    cases rest
    obtain ⟨⟨result, db⟩, call, equal⟩ := Option.map_eq_some_iff.mp stepped
    cases equal
    exact ⟨result, call⟩
  have quiet (none : writesOf outcome frame = []) : WriterEffect lib outcome service.db next.db frame := by
    rw [none] at written
    exact .none frame none (Option.some.inj written).symm
  cases frame with
  | saveMetadata metadata =>
      obtain ⟨result, saved⟩ := one written
      exact .metadata metadata result saved
  | resource inner =>
      cases inner with
      | store call resource =>
          obtain ⟨result, performed⟩ := one written
          unfold storeCall at performed
          split at performed
          · exact .date call resource result performed
          · rename_i different
            exact .value call resource result different performed
      | _ => exact quiet rfl
  | _ => exact quiet rfl

theorem WriterEffect.sameDevices (effect : WriterEffect lib outcome db after frame) : SameDevices db after := by
  cases effect with
  | metadata _ _ saved => exact SameDevices.saveMetadata saved
  | date _ _ _ updated => exact SameDevices.updateDate updated
  | value _ _ _ _ saved => exact SameDevices.saveResource saved
  | none _ _ same => exact same ▸ SameDevices.refl db

/-- Only a metadata save changes the metadata of a tree. -/
theorem WriterEffect.keepsMetadata (effect : WriterEffect lib outcome db after frame)
    (other : ∀ metadata, frame ≠ .saveMetadata metadata) : KeepsMetadata uuid db after := by
  cases effect with
  | metadata metadata _ _ => exact absurd rfl (other metadata)
  | date _ _ _ updated => exact KeepsMetadata.updateDate updated
  | value _ _ _ _ saved => exact KeepsMetadata.saveResource saved
  | none _ _ same => exact same ▸ KeepsMetadata.refl uuid db

/-- The frame stores a new value in the resource that is read under the URI. -/
def overwrites (db : JsonDatabase) (uri : String) : Frame → Bool
  | .resource (.store call resource) => resource.value != call.newValue &&
      (db.locateResource resource.uri).isSome &&
      db.locateResource resource.uri == db.locateResource (some uri)
  | _ => false

/-- A value that is read after the move was read before it, unless the move overwrites it. -/
theorem WriterEffect.readResource_value (effect : WriterEffect lib outcome db after frame) {uri : String}
    (other : ∀ metadata, frame ≠ .saveMetadata metadata) (kept : overwrites db uri frame = false)
    {found : DeviceResource} (read : readResource after uri = some found) :
    ∃ before, readResource db uri = some before ∧ before.value = found.value := by
  have located (index : after.resourcesByUri = db.resourcesByUri) (name : Option String) :
      after.locateResource name = db.locateResource name := by
    unfold JsonDatabase.locateResource
    rw [index]
  cases effect with
  | metadata metadata _ _ => exact absurd rfl (other metadata)
  | none _ _ same => exact ⟨found, same ▸ read, rfl⟩
  | date call resource _ updated =>
      rw [readResource_eq, located (index_updateDate updated)] at read
      obtain ⟨target, place, held⟩ := Option.bind_eq_some_iff.mp read
      obtain ⟨update, fields, state⟩ := Resources.stored_updateDate updated target
      rw [state] at held
      obtain ⟨before, present, rfl⟩ := Option.map_eq_some_iff.mp held
      refine ⟨before, ?_, (fields before).1.symm⟩
      rw [readResource_eq, place, Option.bind_some, present]
  | value call resource _ different saved =>
      rw [readResource_eq, located (index_saveResource saved)] at read
      obtain ⟨target, place, held⟩ := Option.bind_eq_some_iff.mp read
      rw [Resources.stored_saveResource saved target] at held
      obtain ⟨before, present, same⟩ := Option.map_eq_some_iff.mp held
      have elsewhere : db.locateResource resource.uri ≠ some target := by
        intro equal
        simp [overwrites, different, equal, place] at kept
      have uri_kept : (Resources.updatedCopy call resource outcome.now).uri = resource.uri := rfl
      rw [uri_kept, if_neg elsewhere] at same
      subst same
      refine ⟨before, ?_, rfl⟩
      rw [readResource_eq, place, Option.bind_some, present]

end Writers

end Barton.Lifecycle
