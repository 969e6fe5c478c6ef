import BartonCore.Proof.DeviceService.Removal
import BartonCore.Proof.DeviceService.Writes
import BartonCore.Proof.DeviceService.Yoink

namespace Barton.Lifecycle
open Database

section Definitions
variable (lib : Library) (uuid : String)

/-- The URI of the label of an endpoint. -/
def labelUri (endpointId : Option String) : String :=
  resourceUriCreate lib (some uuid) endpointId (some "label")

/-- The URI of the date at which the device was added. -/
def dateAddedUri : String := resourceUriCreate lib (some uuid) none (some "dateAdded")

/-- The URI of the metadata that marks the device for reconfiguration. -/
def requiredUri : String := metadataUriCreate (some uuid) none (some reconfigurationRequired)

/-- The new endpoint has the metadata of the old one and the label that the database holds. -/
structure EndpointKept (db : JsonDatabase) (endpoint newEndpoint : DeviceEndpoint) : Prop where
  id : newEndpoint.id = endpoint.id
  metadata : newEndpoint.metadata = endpoint.metadata
  label : ∀ label ∈ readResource db (labelUri lib uuid endpoint.id),
    Holds "label" label.value newEndpoint.resources

/-- The new tree has the metadata of the old one, and the labels and the date that the database holds. -/
structure UserDataKept (db : JsonDatabase) (old new : DeviceRecord) : Prop where
  metadata : new.metadata = old.metadata
  endpoints : ∀ endpoint ∈ old.endpoints, ∃ newEndpoint ∈ new.endpoints,
    EndpointKept lib uuid db endpoint newEndpoint
  dateAdded : ∀ date ∈ readResource db (dateAddedUri lib uuid), Holds "dateAdded" date.value new.resources

/-- The rebuilt tree differs from the one of the drivers in its user data only. -/
def Rebuilt (built : Option DeviceRecord) (rebuilt : DeviceRecord) : Prop :=
  ∃ tree, built = some tree ∧ blankDevice rebuilt = blankDevice { tree with uuid := some uuid }

/-- The task removes the old tree and adds the rebuilt one with the user data of the old one. -/
def Exchanged (before : JsonDatabase) (built : Option DeviceRecord) (added : JsonDatabase) : Prop :=
  ∃ old rebuilt removed,
    jsonDatabaseGetDeviceById before (some uuid) = some old ∧
    jsonDatabaseRemoveDeviceById before uuid true = some (true, removed) ∧
    jsonDatabaseAddDevice lib removed (setUris uuid rebuilt) true = some (true, added) ∧
    jsonDatabaseGetDeviceById added (some uuid) = some (setUris uuid rebuilt) ∧
    Rebuilt uuid built rebuilt ∧ UserDataKept lib uuid before old (setUris uuid rebuilt)

/-- The tree is exchanged after the earlier writes, and the later writes go to the new tree. -/
def Reconfigured (start : JsonDatabase) (writes : List (Call × Bool)) (built : Option DeviceRecord)
    (final : JsonDatabase) : Prop :=
  ∃ earlier middle later stored before added,
    writes = earlier ++ (middle ++ later) ∧
    Database.run lib start earlier = some before ∧ Exchanged lib uuid before built added ∧
    Database.run lib added (middle ++ (.removeMetadataByUri (requiredUri uuid), stored) :: later) =
      some final

/-- The frame saves metadata. -/
def savesMetadata : Frame → Bool
  | .saveMetadata _ => true
  | _ => false

/-- The frame neither reads nor writes the database. -/
def quiet : Frame → Bool
  | .announceMetadata _ | .resource (.send _) | .returned _ => true
  | _ => false

/-- The URIs of the values that the task has read while some endpoints are left. -/
def readUris (device : DeviceRecord) (rest : List DeviceEndpoint) : List String :=
  dateAddedUri lib uuid :: (device.endpoints.take (device.endpoints.length - rest.length)).map
    fun endpoint => labelUri lib uuid endpoint.id

/-- The rebuilt tree has a place for each value, and the exchange reaches the storage and the index. -/
def TaskAllowed (service : Service) (outcome : Outcome) : Frame → Prop
  | .configure _ device => (device.endpoints.map fun endpoint => endpoint.id).Nodup
  | .yoinkDevice _ _ newDevice => (readResource service.db (dateAddedUri lib uuid)).isSome = true →
      hasResource "dateAdded" newDevice.resources = true
  | .yoinkEndpoint _ _ newDevice endpoint _ =>
      (readResource service.db (labelUri lib uuid endpoint.id)).isSome = true →
        ∀ newEndpoint ∈ newDevice.endpoints, newEndpoint.id = endpoint.id →
          hasResource "label" newEndpoint.resources = true
  | .removeOld _ _ _ => outcome.stored = true
  | .addNew _ newDevice =>
      outcome.stored = true ∧ (addedTree lib service.db (setUris uuid newDevice)).1 = true
  | _ => True

/-- Nothing is written between the reading of a value by the task and the end of the exchange. -/
def WriterAllowed (db : JsonDatabase) (frame : Frame) : Frame → Prop
  | .configure _ _ => savesMetadata frame = false
  | .yoinkDevice _ _ _ => savesMetadata frame = false
  | .yoinkEndpoint _ device _ endpoint rest => savesMetadata frame = false ∧
      ∀ uri ∈ readUris lib uuid device (endpoint :: rest), overwrites db uri frame = false
  | .removeOld _ device _ => savesMetadata frame = false ∧
      ∀ uri ∈ readUris lib uuid device [], overwrites db uri frame = false
  | .addNew _ _ => quiet frame = true
  | _ => True

/-- The frame on top of the task, which is the first thread. -/
def taskFrame (current : Threads.Configuration Service (List Frame)) : Option Frame :=
  current.threads.head?.bind List.head?

/-- The step does not disturb the reconfiguration. -/
def Undisturbed (traced : Traced) (input : Nat × Outcome) : Prop :=
  ∀ frame ∈ movedFrame traced.current input,
    if input.1 = 0 then TaskAllowed lib uuid traced.current.shared input.2 frame
    else ∀ top ∈ taskFrame traced.current, WriterAllowed lib uuid traced.current.shared.db frame top

instance (service : Service) (outcome : Outcome) (frame : Frame) :
    Decidable (TaskAllowed lib uuid service outcome frame) := by
  unfold TaskAllowed
  cases frame <;> infer_instance

instance (db : JsonDatabase) (frame top : Frame) : Decidable (WriterAllowed lib uuid db frame top) := by
  unfold WriterAllowed
  cases top <;> infer_instance

instance (traced : Traced) (input : Nat × Outcome) : Decidable (Undisturbed lib uuid traced input) := by
  unfold Undisturbed
  infer_instance

end Definitions

section Phases
variable (lib : Library) (uuid : String) (start : JsonDatabase) (guarded : Prop)

/-- The database is the old one with the writes so far. -/
structure Old (writes : List (Call × Bool)) (db : JsonDatabase) : Prop where
  ran : Database.run lib start writes = some db
  present : db.has uuid = true

/-- The copy of the device has the metadata that the database holds. -/
def Fresh (db : JsonDatabase) (device : DeviceRecord) : Prop :=
  ∃ tree, jsonDatabaseGetDeviceById db (some uuid) = some tree ∧ SameMetadata tree device

/-- The copy has the uuid, and it is fresh in a guarded run. -/
structure Copied (db : JsonDatabase) (device : DeviceRecord) : Prop where
  named : device.uuid = some uuid
  fresh : guarded → Fresh uuid db device

/-- The endpoints of the old tree have distinct ids. -/
def Distinct (device : DeviceRecord) : Prop := (device.endpoints.map fun endpoint => endpoint.id).Nodup

/-- The rebuilt tree has the user data of the endpoints that are done. -/
structure Moving (db : JsonDatabase) (device newDevice : DeviceRecord) (done : List DeviceEndpoint) : Prop where
  distinct : Distinct device
  endpoints : ∀ endpoint ∈ done, ∃ newEndpoint ∈ newDevice.endpoints,
    EndpointKept lib uuid db endpoint newEndpoint
  dateAdded : ∀ date ∈ readResource db (dateAddedUri lib uuid), Holds "dateAdded" date.value newDevice.resources

/-- The task moves the user data to the rebuilt tree while some endpoints are left. -/
structure Rebuilding (db : JsonDatabase) (built : Option DeviceRecord) (device newDevice : DeviceRecord)
    (rest : List DeviceEndpoint) : Prop where
  named : newDevice.uuid = some uuid
  rebuilt : Rebuilt uuid built newDevice
  metadata : newDevice.metadata = device.metadata
  progress : ∃ done, device.endpoints = done ++ rest ∧ (guarded → Moving lib uuid db device newDevice done)

/-- The old tree is removed, and the rebuilt one has its user data. -/
def Gone (writes : List (Call × Bool)) (built : Option DeviceRecord) (newDevice : DeviceRecord)
    (db : JsonDatabase) : Prop :=
  ∃ before old, Database.run lib start writes = some before ∧
    jsonDatabaseGetDeviceById before (some uuid) = some old ∧
    jsonDatabaseRemoveDeviceById before uuid true = some (true, db) ∧
    Rebuilt uuid built newDevice ∧ UserDataKept lib uuid before old newDevice

/-- The trees are exchanged, and the writes since then went to the new tree. -/
def Replaced (writes : List (Call × Bool)) (built : Option DeviceRecord) (db : JsonDatabase) : Prop :=
  db.has uuid = true ∧ ∃ earlier middle before added, writes = earlier ++ middle ∧
    Database.run lib start earlier = some before ∧ Exchanged lib uuid before built added ∧
    Database.run lib added middle = some db

/-- These are the phases of the task with the facts of a guarded run. -/
inductive TaskPhase (writes : List (Call × Bool)) (built : Option DeviceRecord) (db : JsonDatabase) :
    List Frame → Prop
  | scheduled (taskHandle : Nat) (old : Old lib uuid start writes db) :
      TaskPhase writes built db [.scheduled taskHandle uuid]
  | marking (front : List Frame) (inside : ∀ frame ∈ front, writer frame = true)
      (old : Old lib uuid start writes db) : TaskPhase writes built db (front ++ [.fetchDevice uuid])
  | copied (device : DeviceRecord) (old : Old lib uuid start writes db)
      (copied : Copied uuid guarded db device) : TaskPhase writes built db [.configure uuid device]
  | configured (device newDevice : DeviceRecord) (old : Old lib uuid start writes db)
      (copied : Copied uuid guarded db device) (named : newDevice.uuid = some uuid)
      (rebuilt : Rebuilt uuid built newDevice) (distinct : guarded → Distinct device) :
      TaskPhase writes built db [.yoinkDevice uuid device newDevice]
  | rebuilding (device newDevice : DeviceRecord) (rest : List DeviceEndpoint)
      (old : Old lib uuid start writes db) (copied : Copied uuid guarded db device)
      (rebuilding : Rebuilding lib uuid guarded db built device newDevice rest) :
      TaskPhase writes built db [nextYoink uuid device newDevice rest]
  | removed (newDevice : DeviceRecord) (named : newDevice.uuid = some uuid)
      (gone : guarded → Gone lib uuid start writes built newDevice db) :
      TaskPhase writes built db [.addNew uuid newDevice]
  | replaced (replaced : guarded → Replaced lib uuid start writes built db) :
      TaskPhase writes built db [.clearRequired uuid]
  | failed (thread : List Frame)
      (shape : thread ∈ [[], [.complete uuid false], [.dropTask uuid false], [.returned false]])
      (old : Old lib uuid start writes db) : TaskPhase writes built db thread
  | succeeded (thread : List Frame)
      (shape : thread ∈ [[.complete uuid true], [.dropTask uuid true], [.returned true]])
      (done : guarded → db.has uuid = true ∧ Reconfigured lib uuid start writes built db) :
      TaskPhase writes built db thread

end Phases

section Writers
variable {lib : Library} {uuid : String} {start db after : JsonDatabase} {guarded : Prop}
  {writes more : List (Call × Bool)} {built : Option DeviceRecord} {device newDevice : DeviceRecord}
  {frame : Frame} {outcome : Outcome} {thread : List Frame}

theorem run_more (ran : Database.run lib start writes = some db)
    (written : Database.run lib db more = some after) :
    Database.run lib start (writes ++ more) = some after := by
  unfold Database.run at *
  rw [Runs.run_append, ran, Option.bind_some, written]

/-- A writer moves beside the task. -/
structure Beside (lib : Library) (outcome : Outcome) (frame : Frame) (db after : JsonDatabase) : Prop where
  effect : WriterEffect lib outcome db after frame
  written : Database.run lib db (writesOf outcome frame) = some after

theorem Old.write (old : Old lib uuid start writes db) (beside : Beside lib outcome frame db after) :
    Old lib uuid start (writes ++ writesOf outcome frame) after where
  ran := run_more old.ran beside.written
  present := by rw [beside.effect.sameDevices uuid, old.present]

theorem not_saveMetadata (other : savesMetadata frame = false) (metadata : DeviceMetadata) :
    frame ≠ .saveMetadata metadata := by
  intro same
  subst same
  cases other

theorem Copied.write (copied : Copied uuid guarded db device) (beside : Beside lib outcome frame db after)
    (allowed : guarded → savesMetadata frame = false) : Copied uuid guarded after device where
  named := copied.named
  fresh := by
    intro holds
    obtain ⟨tree, known, same⟩ := copied.fresh holds
    obtain ⟨later, held, kept⟩ := beside.effect.keepsMetadata (not_saveMetadata (allowed holds)) tree known
    exact ⟨later, held, ⟨kept.device.symm.trans same.device, kept.endpoints.symm.trans same.endpoints⟩⟩

/-- A value that the task has read stays current. -/
theorem Beside.holds (beside : Beside lib outcome frame db after) (other : savesMetadata frame = false)
    {uri id : String} (kept : overwrites db uri frame = false) {resources : List DeviceResource}
    (holds : ∀ found ∈ readResource db uri, Holds id found.value resources) :
    ∀ found ∈ readResource after uri, Holds id found.value resources := by
  intro found read
  obtain ⟨before, held, same⟩ := beside.effect.readResource_value (not_saveMetadata other) kept read
  rw [← same]
  exact holds before held

theorem Moving.write {done : List DeviceEndpoint} (moving : Moving lib uuid db device newDevice done)
    (beside : Beside lib outcome frame db after) (other : savesMetadata frame = false)
    (date : overwrites db (dateAddedUri lib uuid) frame = false)
    (labels : ∀ endpoint ∈ done, overwrites db (labelUri lib uuid endpoint.id) frame = false) :
    Moving lib uuid after device newDevice done where
  distinct := moving.distinct
  endpoints := by
    intro endpoint member
    obtain ⟨newEndpoint, inside, kept⟩ := moving.endpoints endpoint member
    exact ⟨newEndpoint, inside, kept.id, kept.metadata,
      beside.holds other (labels endpoint member) kept.label⟩
  dateAdded := beside.holds other date moving.dateAdded

/-- The values that were read belong to the endpoints that are done. -/
theorem readUris_eq {done rest : List DeviceEndpoint} (split : device.endpoints = done ++ rest) :
    readUris lib uuid device rest =
      dateAddedUri lib uuid :: done.map fun endpoint => labelUri lib uuid endpoint.id := by
  have length : device.endpoints.length - rest.length = done.length := by
    rw [split, List.length_append]
    omega
  rw [readUris, length, split, List.take_left]

theorem Rebuilding.write {rest : List DeviceEndpoint}
    (rebuilding : Rebuilding lib uuid guarded db built device newDevice rest)
    (beside : Beside lib outcome frame db after)
    (allowed : guarded → savesMetadata frame = false ∧
      ∀ uri ∈ readUris lib uuid device rest, overwrites db uri frame = false) :
    Rebuilding lib uuid guarded after built device newDevice rest where
  named := rebuilding.named
  rebuilt := rebuilding.rebuilt
  metadata := rebuilding.metadata
  progress := by
    obtain ⟨done, split, moving⟩ := rebuilding.progress
    refine ⟨done, split, ?_⟩
    intro holds
    obtain ⟨other, kept⟩ := allowed holds
    rw [readUris_eq split, List.forall_mem_cons] at kept
    apply (moving holds).write beside other kept.1
    intro endpoint member
    exact kept.2 _ (List.mem_map_of_mem member)

theorem writerAllowed_nextYoink {rest : List DeviceEndpoint}
    (allowed : WriterAllowed lib uuid db frame (nextYoink uuid device newDevice rest)) :
    savesMetadata frame = false ∧ ∀ uri ∈ readUris lib uuid device rest, overwrites db uri frame = false := by
  cases rest with
  | nil | cons => exact allowed

/-- A frame that does not touch the database writes nothing. -/
theorem Beside.quiet (beside : Beside lib outcome frame db after) (silent : quiet frame = true) :
    writesOf outcome frame = [] ∧ after = db := by
  have none : writesOf outcome frame = [] := by
    cases frame with
    | resource inner => cases inner <;> first | rfl | cases silent
    | _ => first | rfl | cases silent
  have written := beside.written
  rw [none] at written
  exact ⟨none, (Option.some.inj written).symm⟩

theorem Replaced.write (replaced : Replaced lib uuid start writes built db)
    (beside : Beside lib outcome frame db after) :
    Replaced lib uuid start (writes ++ writesOf outcome frame) built after := by
  obtain ⟨present, earlier, middle, before, added, split, ran, exchanged, went⟩ := replaced
  refine ⟨by rw [beside.effect.sameDevices uuid, present], earlier, middle ++ writesOf outcome frame,
    before, added, ?_, ran, exchanged, run_more went beside.written⟩
  rw [split, List.append_assoc]

theorem Reconfigured.write (done : Reconfigured lib uuid start writes built db)
    (beside : Beside lib outcome frame db after) :
    Reconfigured lib uuid start (writes ++ writesOf outcome frame) built after := by
  obtain ⟨earlier, middle, later, stored, before, added, split, ran, exchanged, went⟩ := done
  refine ⟨earlier, middle, later ++ writesOf outcome frame, stored, before, added, ?_, ran, exchanged, ?_⟩
  · simp [split]
  · have joined := run_more went beside.written
    rwa [List.append_assoc, List.cons_append] at joined

/-- The move of a writer keeps the phase of the task. -/
theorem TaskPhase.write (phase : TaskPhase lib uuid start guarded writes built db thread)
    (beside : Beside lib outcome frame db after)
    (allowed : guarded → ∀ top ∈ thread.head?, WriterAllowed lib uuid db frame top) :
    TaskPhase lib uuid start guarded (writes ++ writesOf outcome frame) built after thread := by
  cases phase with
  | scheduled taskHandle old => exact .scheduled taskHandle (old.write beside)
  | marking front inside old => exact .marking front inside (old.write beside)
  | copied device old copied =>
      exact .copied device (old.write beside) (copied.write beside fun holds => allowed holds _ rfl)
  | configured device newDevice old copied named rebuilt distinct =>
      exact .configured device newDevice (old.write beside)
        (copied.write beside fun holds => allowed holds _ rfl) named rebuilt distinct
  | rebuilding device newDevice rest old copied rebuilding =>
      have kept (holds : guarded) := writerAllowed_nextYoink (allowed holds _ rfl)
      exact .rebuilding device newDevice rest (old.write beside)
        (copied.write beside fun holds => (kept holds).1) (rebuilding.write beside kept)
  | removed newDevice named gone =>
      refine .removed newDevice named ?_
      intro holds
      obtain ⟨none, same⟩ := beside.quiet (allowed holds _ rfl)
      rw [none, List.append_nil, same]
      exact gone holds
  | replaced replaced => exact .replaced fun holds => (replaced holds).write beside
  | failed thread shape old => exact .failed thread shape (old.write beside)
  | succeeded thread shape done =>
      refine .succeeded thread shape ?_
      intro holds
      obtain ⟨present, reconfigured⟩ := done holds
      exact ⟨by rw [beside.effect.sameDevices uuid, present], reconfigured.write beside⟩

end Writers

section Task
variable {lib : Library} {drivers : Drivers} {uuid : String} {start : JsonDatabase} {guarded : Prop}
  {writes : List (Call × Bool)} {built : Option DeviceRecord} {device newDevice : DeviceRecord}
  {service next : Service} {outcome : Outcome} {frames thread moved : List Frame}

theorem Fresh.refl (found : jsonDatabaseGetDeviceById service.db (some uuid) = some device) :
    Fresh uuid service.db device := ⟨device, found, SameMetadata.refl device⟩

theorem scheduled_phase {taskHandle : Nat} (old : Old lib uuid start writes service.db)
    (made : reconfigureDeviceTask lib service outcome (.scheduled taskHandle uuid) = some (next, frames)) :
    TaskPhase lib uuid start guarded writes built next.db frames := by
  rw [reconfigureDeviceTask] at made
  split at made <;> cases made
  · exact .marking [.setMetadata (some uuid) none (some reconfigurationRequired) (some "true")]
      (by simp [writer]) old
  · exact .failed [] (by simp) old

theorem fetchDevice_phase (old : Old lib uuid start writes service.db)
    (made : reconfigureDeviceTask lib service outcome (.fetchDevice uuid) = some (next, frames)) :
    TaskPhase lib uuid start guarded writes built next.db frames := by
  rw [reconfigureDeviceTask] at made
  split at made <;> cases made
  · exact .failed _ (by simp) old
  · rename_i device found
    exact .copied device old ⟨(jsonDatabaseGetDeviceById_uuid found).1, fun _ => Fresh.refl found⟩

theorem configure_phase (old : Old lib uuid start writes service.db)
    (copied : Copied uuid guarded service.db device)
    (allowed : guarded → TaskAllowed lib uuid service outcome (.configure uuid device))
    (made : reconfigureDeviceTask lib service outcome (.configure uuid device) = some (next, frames)) :
    TaskPhase lib uuid start guarded writes (some outcome.built) next.db frames := by
  rw [reconfigureDeviceTask] at made
  split at made <;> cases made
  · refine .configured device _ old copied copied.named ⟨outcome.built, rfl, ?_⟩ allowed
    rw [copied.named]
  · exact .failed _ (by simp) old

/-- The label and the date are read under their URIs. -/
theorem readResource_internal {endpointId : Option String} {id : String} {found : Option DeviceResource}
    (read : deviceServiceGetResourceByIdInternal lib service (some uuid) endpointId id = some found) :
    readResource service.db (resourceUriCreate lib (some uuid) endpointId (some id)) = found := by
  change jsonDatabaseGetResourceByUri service.db _ = some found at read
  rw [readResource, read]
  rfl

theorem yoinkDevice_phase (old : Old lib uuid start writes service.db)
    (copied : Copied uuid guarded service.db device) (named : newDevice.uuid = some uuid)
    (rebuilt : Rebuilt uuid built newDevice) (distinct : guarded → Distinct device)
    (allowed : guarded → TaskAllowed lib uuid service outcome (.yoinkDevice uuid device newDevice))
    (made : reconfigureDeviceTask lib service outcome (.yoinkDevice uuid device newDevice) =
      some (next, frames)) : TaskPhase lib uuid start guarded writes built next.db frames := by
  rw [reconfigureDeviceTask, copied.named] at made
  obtain ⟨found, read, equal⟩ := Option.map_eq_some_iff.mp made
  have held : readResource service.db (dateAddedUri lib uuid) = found := readResource_internal read
  cases equal
  apply TaskPhase.rebuilding device _ device.endpoints old copied
  constructor
  · exact named
  · obtain ⟨tree, given, same⟩ := rebuilt
    refine ⟨tree, given, same ▸ ?_⟩
    unfold blankDevice
    cases found with
    | none => rfl
    | some date =>
        dsimp only
        rw [blank_yoinkResource]
  · rfl
  · refine ⟨[], rfl, ?_⟩
    intro holds
    refine ⟨distinct holds, by simp, ?_⟩
    intro date member
    rw [held, Option.mem_def] at member
    subst member
    apply yoinkResource_holds
    exact allowed holds (by rw [held, Option.isSome_some])

theorem yoinkEndpoint_phase {endpoint : DeviceEndpoint} {rest : List DeviceEndpoint}
    (old : Old lib uuid start writes service.db) (copied : Copied uuid guarded service.db device)
    (rebuilding : Rebuilding lib uuid guarded service.db built device newDevice (endpoint :: rest))
    (allowed : guarded →
      TaskAllowed lib uuid service outcome (.yoinkEndpoint uuid device newDevice endpoint rest))
    (made : reconfigureDeviceTask lib service outcome (.yoinkEndpoint uuid device newDevice endpoint rest) =
      some (next, frames)) : TaskPhase lib uuid start guarded writes built next.db frames := by
  rw [reconfigureDeviceTask, copied.named] at made
  obtain ⟨found, read, equal⟩ := Option.map_eq_some_iff.mp made
  have held : readResource service.db (labelUri lib uuid endpoint.id) = found := readResource_internal read
  split at equal
  · rename_i endpoints result
    cases equal
    have matched := congrArg Prod.fst result
    have produced := congrArg Prod.snd result
    change _ = endpoints at produced
    apply TaskPhase.rebuilding device _ rest old copied
    constructor
    · exact rebuilding.named
    · obtain ⟨tree, given, same⟩ := rebuilding.rebuilt
      refine ⟨tree, given, same ▸ ?_⟩
      unfold blankDevice
      rw [← produced, blank_yoinkEndpoint]
    · exact rebuilding.metadata
    · obtain ⟨done, split, moving⟩ := rebuilding.progress
      refine ⟨done ++ [endpoint], by simp [split], ?_⟩
      intro holds
      have before := moving holds
      refine ⟨before.distinct, ?_, before.dateAdded⟩
      intro other member
      rw [List.mem_append, List.mem_singleton] at member
      dsimp only
      rcases member with earlier | rfl
      · obtain ⟨newEndpoint, inside, kept⟩ := before.endpoints other earlier
        have different : newEndpoint.id ≠ endpoint.id := by
          have distinct := before.distinct
          rw [Distinct, split, List.map_append, List.nodup_append] at distinct
          rw [kept.id]
          exact distinct.2.2 _ (List.mem_map_of_mem earlier) _ (List.mem_map_of_mem List.mem_cons_self)
        exact ⟨newEndpoint, produced ▸ mem_yoinkEndpoint_of_ne inside different, kept⟩
      · obtain ⟨newEndpoint, inside, id, metadata, label⟩ := yoinkEndpoint_matched matched (by
          intro given
          apply allowed holds
          rw [held]
          rwa [Option.isSome_map] at given)
        refine ⟨newEndpoint, produced ▸ inside, id, metadata, ?_⟩
        intro value known
        rw [held, Option.mem_def] at known
        subst known
        exact label _ rfl
  · cases equal
    exact .failed _ (by simp) old

/-- The rebuilt tree keeps the user data of every tree with the metadata of the copy. -/
theorem Moving.kept {db : JsonDatabase} {tree : DeviceRecord}
    (moving : Moving lib uuid db device newDevice device.endpoints)
    (metadata : newDevice.metadata = device.metadata) (same : SameMetadata tree device) :
    UserDataKept lib uuid db tree newDevice where
  metadata := by rw [metadata, same.device]
  endpoints := by
    intro endpoint member
    have paired : (endpoint.id, endpoint.metadata) ∈
        device.endpoints.map fun endpoint => (endpoint.id, endpoint.metadata) := by
      rw [← same.endpoints]
      exact List.mem_map_of_mem (f := fun endpoint : DeviceEndpoint => (endpoint.id, endpoint.metadata)) member
    obtain ⟨other, inside, equal⟩ := List.mem_map.mp paired
    rw [Prod.mk.injEq] at equal
    obtain ⟨newEndpoint, held, kept⟩ := moving.endpoints other inside
    exact ⟨newEndpoint, held, kept.id.trans equal.1, kept.metadata.trans equal.2, equal.1 ▸ kept.label⟩
  dateAdded := moving.dateAdded

/-- The new URIs do not touch the user data. -/
theorem UserDataKept.setUris {db : JsonDatabase} {tree : DeviceRecord}
    (kept : UserDataKept lib uuid db tree newDevice) :
    UserDataKept lib uuid db tree (setUris uuid newDevice) where
  metadata := kept.metadata
  endpoints := by
    intro endpoint member
    obtain ⟨newEndpoint, inside, facts⟩ := kept.endpoints endpoint member
    refine ⟨_, List.mem_map_of_mem inside, facts.id, facts.metadata, ?_⟩
    intro label found
    exact setUrisOnResources_holds _ (facts.label label found)
  dateAdded := by
    intro date found
    exact setUrisOnResources_holds _ (kept.dateAdded date found)

theorem removeOld_phase (old : Old lib uuid start writes service.db)
    (copied : Copied uuid guarded service.db device)
    (rebuilding : Rebuilding lib uuid guarded service.db built device newDevice [])
    (allowed : guarded → TaskAllowed lib uuid service outcome (.removeOld uuid device newDevice))
    (made : reconfigureDeviceTask lib service outcome (.removeOld uuid device newDevice) =
      some (next, frames)) : TaskPhase lib uuid start guarded writes built next.db frames := by
  rw [reconfigureDeviceTask, copied.named, Option.bind_some] at made
  obtain ⟨⟨result, db⟩, removed, equal⟩ := Option.map_eq_some_iff.mp made
  cases equal
  refine .removed newDevice rebuilding.named ?_
  intro holds
  have stored : outcome.stored = true := allowed holds
  obtain ⟨tree, known, same⟩ := copied.fresh holds
  obtain ⟨done, split, moving⟩ := rebuilding.progress
  rw [List.append_nil] at split
  subst split
  rcases has_removeDevice removed with ⟨rfl, _, _⟩ | ⟨_, _, missing | failed⟩
  · rw [stored] at removed
    exact ⟨service.db, tree, old.ran, known, removed, rebuilding.rebuilt,
      (moving holds).kept rebuilding.metadata same⟩
  · rw [old.present] at missing
    cases missing
  · rw [stored] at failed
    cases failed

theorem addNew_phase (named : newDevice.uuid = some uuid)
    (gone : guarded → Gone lib uuid start writes built newDevice service.db)
    (allowed : guarded → TaskAllowed lib uuid service outcome (.addNew uuid newDevice))
    (made : reconfigureDeviceTask lib service outcome (.addNew uuid newDevice) = some (next, frames)) :
    TaskPhase lib uuid start guarded writes built next.db frames := by
  rw [reconfigureDeviceTask, named, Option.bind_some] at made
  obtain ⟨⟨result, db⟩, added, equal⟩ := Option.map_eq_some_iff.mp made
  cases equal
  refine .replaced ?_
  intro holds
  obtain ⟨stored, accepted⟩ := allowed holds
  obtain ⟨before, tree, ran, known, removed, rebuilt, kept⟩ := gone holds
  have absent : service.db.has uuid = false := by
    rcases has_removeDevice removed with ⟨_, _, absent⟩ | ⟨refused, _, _⟩
    · exact absent
    · cases refused
  have name : (setUris uuid newDevice).uuid = some uuid := named
  obtain ⟨after, success, entry⟩ := jsonDatabaseAddDevice_accepted name absent accepted
  rw [stored, success] at added
  have same : after = db := congrArg Prod.snd (Option.some.inj added)
  subst same
  have found : jsonDatabaseGetDeviceById after (some uuid) = some (setUris uuid newDevice) := entry
  refine ⟨(jsonDatabaseGetDeviceById_uuid found).2, writes, [], before, after, by simp, ran, ?_, rfl⟩
  exact ⟨tree, newDevice, service.db, known, removed, success, found, rebuilt, kept.setUris⟩

theorem clearRequired_phase (replaced : guarded → Replaced lib uuid start writes built service.db)
    (made : reconfigureDeviceTask lib service outcome (.clearRequired uuid) = some (next, frames)) :
    TaskPhase lib uuid start guarded writes built next.db frames := by
  rw [reconfigureDeviceTask] at made
  obtain ⟨⟨result, db⟩, removed, equal⟩ := Option.map_eq_some_iff.mp made
  cases equal
  refine .succeeded _ (by simp) ?_
  intro holds
  obtain ⟨present, earlier, middle, before, added, split, ran, exchanged, went⟩ := replaced holds
  refine ⟨?_, earlier, middle, [], outcome.stored, before, added, by simp [split], ran, exchanged, ?_⟩
  · have same : db.has uuid = service.db.has uuid := SameDevices.removeMetadata removed uuid
    exact same.trans present
  · exact run_more went (run_one (.removeMetadataByUri (requiredUri uuid)) removed)

/-- The move of the task leads to its next phase. -/
theorem TaskPhase.task (phase : TaskPhase lib uuid start guarded writes built service.db thread)
    (allowed : guarded → ∀ frame ∈ thread.head?, TaskAllowed lib uuid service outcome frame)
    (made : move lib drivers service thread outcome = some (next, moved)) :
    ∃ frame, thread.head? = some frame ∧
      TaskPhase lib uuid start guarded (writes ++ writesOf outcome frame)
        (builtBy outcome built (some frame)) next.db moved := by
  have single {frame : Frame} (other : ∀ result, frame ≠ .returned result)
      (made : move lib drivers service [frame] outcome = some (next, moved)) :
      frameMove lib drivers service frame outcome = some (next, moved) := by
    obtain ⟨frames, step, rfl⟩ := move_frame other made
    rw [List.append_nil]
    exact step
  have silent {frame : Frame} (none : writesOf outcome frame = [])
      (phase : TaskPhase lib uuid start guarded writes (builtBy outcome built (some frame)) next.db moved) :
      ∃ top, [frame].head? = some top ∧ TaskPhase lib uuid start guarded
        (writes ++ writesOf outcome top) (builtBy outcome built (some top)) next.db moved := by
    refine ⟨frame, rfl, ?_⟩
    rw [none, List.append_nil]
    exact phase
  cases phase with
  | scheduled taskHandle old =>
      have step : reconfigureDeviceTask lib service outcome (.scheduled taskHandle uuid) =
          some (next, moved) := single (by simp) made
      exact silent rfl (scheduled_phase old step)
  | marking front inside old =>
      cases front with
      | nil =>
          have step : reconfigureDeviceTask lib service outcome (.fetchDevice uuid) =
              some (next, moved) := single (by simp) made
          exact silent rfl (fetchDevice_phase old step)
      | cons frame rest =>
          rw [List.forall_mem_cons] at inside
          rw [List.cons_append] at made
          obtain ⟨frames, rfl, facts⟩ := writer_move inside.1 made
          have kept : builtBy outcome built (some frame) = built := by
            cases frame <;> first | rfl | cases inside.1
          refine ⟨_, rfl, ?_⟩
          rw [kept, ← List.append_assoc]
          refine .marking (frames ++ rest) ?_ (old.write ⟨facts.effect, facts.written⟩)
          intro other member
          rcases List.mem_append.mp member with new | below
          · exact facts.inside other new
          · exact inside.2 other below
  | copied device old copied =>
      have step : reconfigureDeviceTask lib service outcome (.configure uuid device) =
          some (next, moved) := single (by simp) made
      exact silent rfl (configure_phase old copied (fun holds => allowed holds _ rfl) step)
  | configured device newDevice old copied named rebuilt distinct =>
      have step : reconfigureDeviceTask lib service outcome (.yoinkDevice uuid device newDevice) =
          some (next, moved) := single (by simp) made
      exact silent rfl
        (yoinkDevice_phase old copied named rebuilt distinct (fun holds => allowed holds _ rfl) step)
  | rebuilding device newDevice rest old copied rebuilding =>
      cases rest with
      | nil =>
          have step : reconfigureDeviceTask lib service outcome (.removeOld uuid device newDevice) =
              some (next, moved) := single (by simp [nextYoink]) made
          exact silent rfl (removeOld_phase old copied rebuilding (fun holds => allowed holds _ rfl) step)
      | cons endpoint rest =>
          have step : reconfigureDeviceTask lib service outcome
              (.yoinkEndpoint uuid device newDevice endpoint rest) = some (next, moved) :=
            single (by simp [nextYoink]) made
          exact silent rfl
            (yoinkEndpoint_phase old copied rebuilding (fun holds => allowed holds _ rfl) step)
  | removed newDevice named gone =>
      have step : reconfigureDeviceTask lib service outcome (.addNew uuid newDevice) =
          some (next, moved) := single (by simp) made
      exact silent rfl (addNew_phase named gone (fun holds => allowed holds _ rfl) step)
  | replaced replaced =>
      have step : reconfigureDeviceTask lib service outcome (.clearRequired uuid) =
          some (next, moved) := single (by simp) made
      exact silent rfl (clearRequired_phase replaced step)
  | failed thread shape old =>
      simp only [List.mem_cons, List.not_mem_nil, or_false] at shape
      rcases shape with rfl | rfl | rfl | rfl
      · cases made
      · cases made
        exact silent rfl (.failed _ (by simp) old)
      · cases made
        exact silent rfl (.failed _ (by simp) old)
      · cases made
  | succeeded thread shape done =>
      simp only [List.mem_cons, List.not_mem_nil, or_false] at shape
      rcases shape with rfl | rfl | rfl
      · cases made
        exact silent rfl (.succeeded _ (by simp) done)
      · cases made
        exact silent rfl (.succeeded _ (by simp) done)
      · cases made

end Task

section Runs
variable {lib : Library} {drivers : Drivers} {uuid : String} {db : JsonDatabase} {guarded : Prop}
  {start : Threads.Configuration Service (List Frame)} {traced next final : Traced}
  {input : Nat × Outcome} {schedule : List (Nat × Outcome)} {others : List (List Frame)}

/-- The task is in some phase, and the other threads write. -/
def Proceeds (lib : Library) (uuid : String) (db : JsonDatabase) (guarded : Prop) (traced : Traced) : Prop :=
  ∃ task others, traced.current.threads = task :: others ∧
    (∀ thread ∈ others, ∀ frame ∈ thread, writer frame = true) ∧
    TaskPhase lib uuid db guarded traced.writes traced.built traced.current.shared.db task

theorem Proceeds.step (proceeds : Proceeds lib uuid db guarded traced)
    (allowed : guarded → Undisturbed lib uuid traced input)
    (stepped : tracedStep lib drivers traced input = some next) : Proceeds lib uuid db guarded next := by
  obtain ⟨task, others, threads, inside, phase⟩ := proceeds
  obtain ⟨current, taken, rfl⟩ := Option.map_eq_some_iff.mp stepped
  obtain ⟨before, thread, behind, shared, moved, split, position, made, rfl⟩ := Threads.step_split taken
  have top : movedFrame traced.current input = thread.head? := by
    rw [movedFrame, split, ← position]
    simp
  rw [top]
  cases before with
  | nil =>
      rw [split, List.nil_append, List.cons.injEq] at threads
      obtain ⟨rfl, rfl⟩ := threads
      obtain ⟨frame, first, next⟩ := phase.task (by
        intro holds frame member
        have order := allowed holds frame (top ▸ member)
        have first : input.1 = 0 := position.symm
        rwa [if_pos first] at order) made
      rw [first]
      exact ⟨moved, behind, rfl, inside, next⟩
  | cons first middle =>
      rw [split, List.cons_append, List.cons.injEq] at threads
      obtain ⟨rfl, rfl⟩ := threads
      have writers := inside thread (by simp)
      cases thread with
      | nil => cases made
      | cons frame rest =>
          rw [List.forall_mem_cons] at writers
          obtain ⟨frames, rfl, facts⟩ := writer_move writers.1 made
          have kept : builtBy input.2 traced.built (some frame) = traced.built := by
            cases frame <;> first | rfl | cases writers.1
          have later := phase.write ⟨facts.effect, facts.written⟩ (by
            intro holds taskTop member
            have order := allowed holds frame (by rw [top]; rfl)
            rw [if_neg (by rw [← position]; simp)] at order
            apply order
            rw [taskFrame, split]
            exact member)
          refine ⟨first, middle ++ (frames ++ rest) :: behind, rfl, ?_, ?_⟩
          · intro other member
            rw [List.mem_append, List.mem_cons] at member
            rcases member with left | rfl | right
            · exact inside other (by simp [left])
            · intro inner place
              rcases List.mem_append.mp place with new | below
              · exact facts.inside inner new
              · exact writers.2 inner below
            · exact inside other (by simp [right])
          · show TaskPhase lib uuid db guarded (traced.writes ++ writesOf input.2 frame)
              (builtBy input.2 traced.built (some frame)) shared.db first
            rw [kept]
            exact later

theorem TaskPhase.returned_false {writes : List (Call × Bool)} {built : Option DeviceRecord}
    {after : JsonDatabase} {thread : List Frame}
    (phase : TaskPhase lib uuid db guarded writes built after thread) (same : thread = [.returned false]) :
    Old lib uuid db writes after := by
  cases phase with
  | failed _ _ old => exact old
  | marking front _ _ =>
      have last := congrArg List.getLast? same
      simp at last
  | rebuilding device newDevice rest _ _ _ => cases rest <;> simp [nextYoink] at same
  | succeeded _ shape _ => simp [same] at shape
  | _ => simp at same

theorem TaskPhase.returned_true {writes : List (Call × Bool)} {built : Option DeviceRecord}
    {after : JsonDatabase} {thread : List Frame}
    (phase : TaskPhase lib uuid db guarded writes built after thread) (same : thread = [.returned true])
    (holds : guarded) : after.has uuid = true ∧ Reconfigured lib uuid db writes built after := by
  cases phase with
  | succeeded _ _ done => exact done holds
  | marking front _ _ =>
      have last := congrArg List.getLast? same
      simp at last
  | rebuilding device newDevice rest _ _ _ => cases rest <;> simp [nextYoink] at same
  | failed _ shape _ => simp [same] at shape
  | _ => simp at same

/-- A failed task leaves the old tree with the writes, and an undisturbed one keeps the user data. -/
theorem run_reconfigurationKeepsUserData {taskHandle : Nat}
    (threads : start.threads = [.scheduled taskHandle uuid] :: others)
    (beside : ∀ thread ∈ others, ∀ frame ∈ thread, writer frame = true)
    (known : start.shared.db.has uuid = true)
    (reached : tracedRun lib drivers start schedule = some final) :
    (final.current.threads.head? = some [.returned false] →
      final.current.shared.db.has uuid = true ∧
      Database.run lib start.shared.db final.writes = some final.current.shared.db) ∧
    (Runs.Guarded (tracedStep lib drivers) (Undisturbed lib uuid) ⟨start, [], none⟩ schedule →
      final.current.threads.head? = some [.returned true] →
      final.current.shared.db.has uuid = true ∧
      Reconfigured lib uuid start.shared.db final.writes final.built final.current.shared.db) := by
  have initial (guarded : Prop) : Proceeds lib uuid start.shared.db guarded ⟨start, [], none⟩ :=
    ⟨_, _, threads, beside, .scheduled taskHandle ⟨rfl, known⟩⟩
  constructor
  · intro returned
    obtain ⟨task, rest, split, _, phase⟩ := Runs.invariant _ (Proceeds lib uuid start.shared.db False)
      (fun _ _ _ proceeds stepped => proceeds.step False.elim stepped) (initial False) reached
    rw [split, List.head?_cons, Option.some.injEq] at returned
    have old := phase.returned_false returned
    exact ⟨old.present, old.ran⟩
  · intro undisturbed returned
    obtain ⟨task, rest, split, _, phase⟩ := Runs.Guarded.invariant _
      (Proceeds lib uuid start.shared.db True)
      (fun _ _ _ proceeds allowed stepped => proceeds.step (fun _ => allowed) stepped) undisturbed
      (initial True) reached
    rw [split, List.head?_cons, Option.some.injEq] at returned
    exact phase.returned_true returned trivial

end Runs

/-- A resource of the sample device or of its endpoint. -/
def sampleValue (uri : String) (endpointId : Option String) (id : String) (value : Option String) :
    DeviceResource :=
  { sampleResource with id := some id, uri := some uri, endpointId := endpointId, value := value }

/-- This device has what a reconfiguration needs, and its endpoint has a label. -/
def sampleReconfigurable (date label : Option String) : DeviceRecord :=
  { sampleDevice with
    endpoints := [{ sampleEndpoint "1" with
      resources := [sampleValue "/a/ep/1/r/label" (some "1") "label" label] }]
    resources := [sampleValue "/a/r/manufacturer" none "manufacturer" (some "m"),
      sampleValue "/a/r/model" none "model" (some "n"),
      sampleValue "/a/r/hardwareVersion" none "hardwareVersion" (some "1"),
      sampleValue "/a/r/firmwareVersion" none "firmwareVersion" (some "2"),
      sampleValue "/a/r/dateAdded" none "dateAdded" date] }

/-- The reconfiguration of the stored device is scheduled. -/
def sampleScheduled : Service :=
  ⟨⟨(Database.run sampleLibrary (JsonDatabase.empty ∅)
    [(.addDevice (sampleReconfigurable (some "100") (some "Hall")), true)]).getD (JsonDatabase.empty ∅), [], []⟩,
    [], [⟨"a", 1⟩], [1], []⟩

/-- The task runs beside two writes of metadata and one write of a label. -/
def sampleReconfiguration : List (List Frame) :=
  [[.scheduled 1 "a"], [.setMetadataUri (some "/a/m/room") (some "hall")],
    [.resource (.update ⟨some "a", some "1", some "label", some "Kitchen", none⟩)],
    [.setMetadataUri (some "/a/m/floor") (some "2")]]

/-- The threads move in the given order while the storage works or fails. -/
def reconfigurationOrder (stored : Bool) (threads : List Nat) : List (Nat × Outcome) :=
  threads.map fun thread => (thread, ⟨7, stored, false, true, true, sampleReconfigurable (some "200") none⟩)

/-- This is the traced configuration after the schedule. -/
def reconfigurationAfter (schedule : List (Nat × Outcome)) : Traced :=
  (tracedRun sampleLibrary sampleDrivers ⟨sampleScheduled, sampleReconfiguration⟩ schedule).getD
    ⟨⟨sampleScheduled, []⟩, [], none⟩

/-- The first write comes before the copy, the label before its reading, and the last write after the exchange. -/
def sampleOrder : List (Nat × Outcome) :=
  reconfigurationOrder true [0, 0, 0, 0, 1, 1, 1, 1, 0, 2, 2, 0, 0, 0, 0, 0, 3, 3, 3, 3, 0, 0, 0]

theorem run_reconfigurationKeepsUserData_sample :
    (reconfigurationAfter sampleOrder).current.shared.db.has "a" = true ∧
    Reconfigured sampleLibrary "a" sampleScheduled.db (reconfigurationAfter sampleOrder).writes
      (reconfigurationAfter sampleOrder).built (reconfigurationAfter sampleOrder).current.shared.db := by
  have undisturbed : Runs.Guarded (tracedStep sampleLibrary sampleDrivers) (Undisturbed sampleLibrary "a")
      ⟨⟨sampleScheduled, sampleReconfiguration⟩, [], none⟩ sampleOrder := by
    decide +kernel
  have reached : tracedRun sampleLibrary sampleDrivers ⟨sampleScheduled, sampleReconfiguration⟩ sampleOrder =
      some (reconfigurationAfter sampleOrder) := rfl
  have known : sampleScheduled.db.has "a" = true := by decide +kernel
  have kept := run_reconfigurationKeepsUserData rfl (by decide) known reached
  exact kept.2 undisturbed rfl

/-- A failed save between the removal and the addition loses the device of a task that reports success. -/
theorem not_run_reconfigurationKeepsUserData :
    ¬∀ (lib : Library) (drivers : Drivers) (calls : List (Call × Bool)) (db : JsonDatabase) (uuid : String)
      (others : List (List Frame)) (schedule : List (Nat × Outcome)) (final : Traced),
      Database.run lib (JsonDatabase.empty ∅) calls = some db → db.has uuid = true →
      (∀ thread ∈ others, ∀ frame ∈ thread, writer frame = true) →
      tracedRun lib drivers ⟨⟨⟨db, [], []⟩, [], [⟨uuid, 1⟩], [1], []⟩, [.scheduled 1 uuid] :: others⟩
        schedule = some final →
      final.current.threads.head? = some [.returned true] → final.current.shared.db.has uuid = true := by
  intro claim
  have kept := claim sampleLibrary sampleDrivers
    [(.addDevice (sampleReconfigurable (some "100") (some "Hall")), true)] sampleScheduled.db "a" []
    (reconfigurationOrder true [0, 0, 0, 0, 0, 0, 0, 0, 0] ++ reconfigurationOrder false [0, 0, 0, 0]) _
    rfl (by decide +kernel) (by simp) rfl rfl
  exact absurd kept (by decide +kernel)

end Barton.Lifecycle
