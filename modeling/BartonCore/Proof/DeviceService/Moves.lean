import BartonCore.Construction.DeviceService.Lifecycle
import BartonCore.Proof.Database.Presence

namespace Barton.Lifecycle
open Database

/-- These events announce a new device and its endpoints. -/
def Effect.isAdded : Effect → Bool
  | .deviceAdded _ | .endpointAdded _ _ => true
  | _ => false

/-- These frames may still announce a device. -/
def Frame.pairs : Frame → Bool
  | .deviceFound _ | .pair _ | .checkMark _ _ | .finalizeFound _ _ => true
  | _ => false

section
variable {lib : Library} {drivers : Drivers} {service next : Service} {moved rest : List Frame}
  {outcome : Outcome} {db : JsonDatabase} {uuid : String} {frame : Frame} {stored : Bool}

/-- A frame that is not a result moves on its own, and the frames below stay. -/
theorem move_frame (other : ∀ result, frame ≠ .returned result)
    (made : move lib drivers service (frame :: rest) outcome = some (next, moved)) :
    ∃ frames, frameMove lib drivers service frame outcome = some (next, frames) ∧
      moved = frames ++ rest := by
  unfold move at made
  split at made
  · contradiction
  · rename_i same
    cases same
    exact absurd rfl (other _)
  · rename_i same
    cases same
    exact absurd rfl (other _)
  · rename_i same
    cases same
    obtain ⟨⟨after, frames⟩, step, equal⟩ := Option.map_eq_some_iff.mp made
    cases equal
    exact ⟨frames, step, rfl⟩

/-- A copy of a device has the uuid that it was looked up with. -/
theorem jsonDatabaseGetDeviceById_uuid {device : DeviceRecord}
    (found : jsonDatabaseGetDeviceById db (some uuid) = some device) :
    device.uuid = some uuid ∧ db.has uuid = true := by
  obtain ⟨entry, known, rfl⟩ := Option.map_eq_some_iff.mp found
  have held : db.deviceEntry uuid = some entry := known
  constructor
  · have named : entry.uuid = some uuid := Cells.read_address held
    exact named
  · rw [JsonDatabase.has, held, Option.isSome_some]

theorem jsonDatabaseGetDeviceById_none
    (missing : jsonDatabaseGetDeviceById db (some uuid) = none) : db.has uuid = false := by
  have unknown : db.deviceEntry uuid = none := Option.map_eq_none_iff.mp missing
  rw [JsonDatabase.has, unknown, Option.isSome_none]

/-- The database stays as it is, or one call leads to the next state. -/
def Performs (lib : Library) (stored : Bool) (db after : JsonDatabase) : Prop :=
  after = db ∨ ∃ call result, perform lib db stored call = some (result, after)

theorem Performs.refl (lib : Library) (stored : Bool) (db : JsonDatabase) : Performs lib stored db db :=
  Or.inl rfl

/-- A move makes at most one call of the database, announces no new device, and leaves none to announce. -/
structure Quiet (lib : Library) (stored : Bool) (service next : Service) (moved : List Frame) : Prop where
  performs : Performs lib stored service.db next.db
  effects : ∃ effects, next.effects = service.effects ++ effects ∧ ∀ effect ∈ effects, effect.isAdded = false
  frames : ∀ frame ∈ moved, frame.pairs = false

theorem Quiet.silent (performs : Performs lib stored service.db next.db)
    (same : next.effects = service.effects) (frames : ∀ frame ∈ moved, frame.pairs = false) :
    Quiet lib stored service next moved :=
  ⟨performs, ⟨[], by rw [same, List.append_nil], by simp⟩, frames⟩

theorem Quiet.read (frames : ∀ frame ∈ moved, frame.pairs = false) : Quiet lib stored service service moved :=
  .silent (Performs.refl lib _ _) rfl frames

theorem Quiet.emit {effects : List Effect} (added : ∀ effect ∈ effects, effect.isAdded = false)
    (frames : ∀ frame ∈ moved, frame.pairs = false) : Quiet lib stored service (service.emit effects) moved :=
  ⟨Performs.refl lib _ _, ⟨effects, rfl, added⟩, frames⟩

theorem resourceMove_performs {frame : Resources.Frame}
    (made : resourceMove lib service frame outcome = some (next, moved)) :
    Performs lib outcome.stored service.db next.db := by
  obtain ⟨⟨resources, inner⟩, step, equal⟩ := Option.map_eq_some_iff.mp made
  cases equal
  show Performs lib outcome.stored service.resources.db resources.db
  have read {found : Option (List Resources.Frame)}
      (moved : found.map (fun frames => (service.resources, frames)) = some (resources, inner)) :
      Performs lib outcome.stored service.resources.db resources.db := by
    obtain ⟨_, _, equal⟩ := Option.map_eq_some_iff.mp moved
    cases equal
    exact Performs.refl lib _ _
  cases frame with
  | store call resource =>
      change Resources.storeValue lib service.resources call resource _ = _ at step
      unfold Resources.storeValue at step
      split at step
      · obtain ⟨⟨result, db⟩, updated, equal⟩ := Option.map_eq_some_iff.mp step
        cases equal
        exact Or.inr ⟨.updateDateOfLastSyncMillis resource outcome.now, result, updated⟩
      · obtain ⟨⟨result, db⟩, saved, equal⟩ := Option.map_eq_some_iff.mp step
        cases equal
        exact Or.inr ⟨.saveResource _, result, saved⟩
  | storeMode resource newMode =>
      obtain ⟨⟨result, db⟩, saved, equal⟩ := Option.map_eq_some_iff.mp step
      cases equal
      exact Or.inr ⟨.saveResource _, result, saved⟩
  | returned result => cases step
  | send event =>
      cases step
      exact Performs.refl lib _ _
  | _ => exact read step

theorem resourceMove_quiet {frame : Resources.Frame}
    (made : resourceMove lib service frame outcome = some (next, moved)) :
    Quiet lib outcome.stored service next moved := by
  have performs := resourceMove_performs made
  obtain ⟨⟨resources, inner⟩, _, equal⟩ := Option.map_eq_some_iff.mp made
  cases equal
  refine .silent performs rfl fun frame member => ?_
  obtain ⟨_, _, rfl⟩ := List.mem_map.mp member
  rfl

theorem removeFetchedEndpoint_pairs (device : Option DeviceRecord) (endpoint : Option DeviceEndpoint) :
    ∀ frame ∈ removeFetchedEndpoint drivers device endpoint, frame.pairs = false := by
  unfold removeFetchedEndpoint
  split
  · split
    · split <;> simp [Frame.pairs]
    · simp [Frame.pairs]
  · simp [Frame.pairs]

theorem removeEndpoint_quiet
    (made : deviceServiceRemoveEndpointById drivers service outcome lib frame = some (next, moved)) :
    Quiet lib outcome.stored service next moved := by
  unfold deviceServiceRemoveEndpointById at made
  split at made
  · cases made
    exact .read (by simp [Frame.pairs])
  · obtain ⟨_, _, equal⟩ := Option.map_eq_some_iff.mp made
    cases equal
    exact .read (removeFetchedEndpoint_pairs _ _)
  · obtain ⟨⟨result, db⟩, saved, equal⟩ := Option.map_eq_some_iff.mp made
    cases equal
    exact .silent (Or.inr ⟨.saveEndpoint _, result, saved⟩) rfl (by simp [Frame.pairs])
  · obtain ⟨active, _, equal⟩ := Option.map_eq_some_iff.mp made
    cases active with
    | true =>
        cases equal
        refine .emit ?_ (by simp [Frame.pairs])
        split <;> simp [Effect.isAdded]
    | false =>
        cases equal
        exact .emit (by simp [Effect.isAdded]) (by simp [Frame.pairs])
  · cases made

theorem removalEffects_added (device : DeviceRecord) :
    ∀ effect ∈ removalEffects drivers device, effect.isAdded = false := by
  unfold removalEffects
  intro effect member
  rcases List.mem_append.mp member with earlier | removed
  · rcases List.mem_append.mp earlier with endpoints | callback
    · obtain ⟨_, _, rfl⟩ := List.mem_map.mp endpoints
      rfl
    · split at callback
      · rw [List.mem_singleton.mp callback]
        rfl
      · cases callback
  · rw [List.mem_singleton.mp removed]
    rfl

theorem removeDevice_quiet (made : deviceServiceRemoveDevice drivers service outcome frame = some (next, moved)) :
    Quiet lib outcome.stored service next moved := by
  unfold deviceServiceRemoveDevice at made
  split at made
  · cases made
    exact .read (by simp [Frame.pairs])
  · split at made <;> cases made <;> exact .read (by simp [Frame.pairs])
  · cases made
    exact .silent (Performs.refl lib _ _) rfl (by simp [Frame.pairs])
  · split at made <;> cases made <;> exact .read (by simp [Frame.pairs])
  · split at made <;> cases made <;> exact .read (by simp [Frame.pairs])
  · cases made
    exact .silent (Performs.refl lib _ _) rfl (by simp [Frame.pairs])
  · cases made
    exact .silent (Performs.refl lib _ _) rfl (by simp [Frame.pairs])
  · split at made
    · cases made
      exact .read (by simp [Frame.pairs])
    · split at made <;> cases made <;> exact .read (by simp [Frame.pairs])
  · rename_i uuid device
    obtain ⟨⟨result, db⟩, removed, equal⟩ := Option.map_eq_some_iff.mp made
    cases equal
    refine .silent (Or.inr ⟨.removeDeviceById uuid, result, removed⟩) rfl ?_
    cases result <;> simp [Frame.pairs]
  · cases made
    exact .emit (removalEffects_added _) (by simp [Frame.pairs])
  · cases made

theorem setParsedMetadata_pairs (uri : String) (value : Option String) :
    ∀ frame ∈ setParsedMetadata lib uri value, frame.pairs = false := by
  unfold setParsedMetadata
  split <;> simp [Frame.pairs]

theorem setMetadata_quiet (made : setMetadata lib service outcome frame = some (next, moved)) :
    Quiet lib outcome.stored service next moved := by
  unfold setMetadata at made
  split at made
  · cases made
    exact .read (by simp [Frame.pairs])
  · obtain ⟨accessible, _, equal⟩ := Option.map_eq_some_iff.mp made
    cases equal
    cases accessible with
    | false => exact .read (by simp [Frame.pairs])
    | true => exact .read (setParsedMetadata_pairs _ _)
  · obtain ⟨_, _, found⟩ := Option.bind_eq_some_iff.mp made
    obtain ⟨item, _, equal⟩ := Option.map_eq_some_iff.mp found
    cases equal
    cases item <;> exact .read (by simp [Frame.pairs])
  · cases made
    exact .read (by simp)
  · obtain ⟨⟨result, db⟩, saved, equal⟩ := Option.map_eq_some_iff.mp made
    cases equal
    exact .silent (Or.inr ⟨.saveMetadata _, result, saved⟩) rfl (by simp [Frame.pairs])
  · cases made
    exact .emit (by simp [Effect.isAdded]) (by simp)
  · cases made

theorem nextYoink_pairs (uuid : String) (device newDevice : DeviceRecord) (endpoints : List DeviceEndpoint) :
    ∀ frame ∈ [nextYoink uuid device newDevice endpoints], frame.pairs = false := by
  cases endpoints <;> simp [nextYoink, Frame.pairs]

theorem reconfigure_quiet (made : reconfigureDeviceTask lib service outcome frame = some (next, moved)) :
    Quiet lib outcome.stored service next moved := by
  unfold reconfigureDeviceTask at made
  split at made
  · split at made <;> cases made <;> exact .silent (Performs.refl lib _ _) rfl (by simp [Frame.pairs])
  · split at made <;> cases made <;> exact .read (by simp [Frame.pairs])
  · split at made <;> cases made <;> exact .read (by simp [Frame.pairs])
  · obtain ⟨_, _, equal⟩ := Option.map_eq_some_iff.mp made
    cases equal
    exact .read (nextYoink_pairs _ _ _ _)
  · obtain ⟨_, _, equal⟩ := Option.map_eq_some_iff.mp made
    split at equal
    · cases equal
      exact .read (nextYoink_pairs _ _ _ _)
    · cases equal
      exact .read (by simp [Frame.pairs])
  · obtain ⟨deviceUuid, _, found⟩ := Option.bind_eq_some_iff.mp made
    obtain ⟨⟨result, db⟩, removed, equal⟩ := Option.map_eq_some_iff.mp found
    cases equal
    exact .silent (Or.inr ⟨.removeDeviceById deviceUuid, result, removed⟩) rfl (by simp [Frame.pairs])
  · obtain ⟨newUuid, _, found⟩ := Option.bind_eq_some_iff.mp made
    obtain ⟨⟨result, db⟩, added, equal⟩ := Option.map_eq_some_iff.mp found
    cases equal
    exact .silent (Or.inr ⟨.addDevice _, result, added⟩) rfl (by simp [Frame.pairs])
  · obtain ⟨⟨result, db⟩, removed, equal⟩ := Option.map_eq_some_iff.mp made
    cases equal
    exact .silent (Or.inr ⟨.removeMetadataByUri _, result, removed⟩) rfl (by simp [Frame.pairs])
  · cases made
    exact .emit (by simp [Effect.isAdded]) (by simp [Frame.pairs])
  · cases made
    exact .silent (Performs.refl lib _ _) rfl (by simp [Frame.pairs])
  · cases made

/-- The update of the data of a recovered device writes resources and metadata. -/
theorem mem_updateDataOfRecoveredDevice {device : DeviceRecord}
    (member : frame ∈ updateDataOfRecoveredDevice device) :
    (∃ inner, frame = .resource inner) ∨
      ∃ deviceUuid endpointId name value, frame = .setMetadata deviceUuid endpointId name value := by
  simp only [updateDataOfRecoveredDevice, List.mem_append, List.mem_flatMap, List.mem_map] at member
  rcases member with (⟨_, _, rfl⟩ | ⟨_, _, rfl⟩) | ⟨_, _, ⟨_, _, rfl⟩ | ⟨_, _, rfl⟩⟩
  · exact Or.inl ⟨_, rfl⟩
  · exact Or.inr ⟨_, _, _, _, rfl⟩
  · exact Or.inl ⟨_, rfl⟩
  · exact Or.inr ⟨_, _, _, _, rfl⟩

theorem pairedEffects_added (found : DeviceFoundDetails) (device : DeviceRecord) (successful : Bool) :
    ∀ effect ∈ pairedEffects drivers found device successful, effect.isAdded = false := by
  unfold pairedEffects
  split
  · split
    · simp
    · split <;> simp [Effect.isAdded]
  · split
    · simp
    · split <;> simp [Effect.isAdded]

/-- Only the frames of a pairing announce a device. -/
theorem frameMove_quiet (silent : frame.pairs = false)
    (made : frameMove lib drivers service frame outcome = some (next, moved)) :
    Quiet lib outcome.stored service next moved := by
  unfold frameMove at made
  cases frame with
  | removeEndpoint _ _ | fetchEndpoint _ _ _ | disableEndpoint _ _ | endpointDisabled _ _ =>
      exact removeEndpoint_quiet made
  | removeDevice _ | markForRemoval _ | findContext _ _ | checkTask _ _ _ | cancelTask _ _ _
  | dropContext _ _ | awaitTask _ _ | deleteDevice _ _ | announceRemoval _ =>
      exact removeDevice_quiet made
  | setMetadataUri _ _ | setMetadata _ _ _ _ | saveMetadata _ | announceMetadata _ =>
      exact setMetadata_quiet made
  | resource frame => exact resourceMove_quiet made
  | deviceFound _ | pair _ | checkMark _ _ | finalizeFound _ _ => cases silent
  | paired found device successful =>
      cases made
      exact .emit (pairedEffects_added _ _ _) (by simp [Frame.pairs])
  | scheduled _ _ | fetchDevice _ | configure _ _ | yoinkDevice _ _ _ | yoinkEndpoint _ _ _ _ _
  | removeOld _ _ _ | addNew _ _ | clearRequired _ | complete _ _ | dropTask _ _ =>
      exact reconfigure_quiet made
  | returned _ => cases made

theorem deviceFound_performs
    (made : deviceServiceDeviceFound lib drivers service outcome frame = some (next, moved)) :
    Performs lib outcome.stored service.db next.db := by
  unfold deviceServiceDeviceFound at made
  split at made
  · split at made <;> cases made <;> exact Performs.refl lib _ _
  · dsimp only at made
    split at made <;> cases made <;> exact Performs.refl lib _ _
  · split at made <;> cases made <;> exact Performs.refl lib _ _
  · unfold finalizeFound at made
    dsimp only at made
    split at made
    · cases made
      exact Performs.refl lib _ _
    · obtain ⟨⟨result, db⟩, added, equal⟩ := Option.map_eq_some_iff.mp made
      cases equal
      exact Or.inr ⟨.addDevice _, result, added⟩
  · cases made
    exact Performs.refl lib _ _
  · cases made

/-- Every move of a frame makes at most one call of the database. -/
theorem frameMove_performs (made : frameMove lib drivers service frame outcome = some (next, moved)) :
    Performs lib outcome.stored service.db next.db := by
  cases pairs : frame.pairs with
  | false => exact (frameMove_quiet pairs made).performs
  | true =>
      unfold frameMove at made
      cases frame with
      | deviceFound _ | pair _ | checkMark _ _ | finalizeFound _ _ => exact deviceFound_performs made
      | _ => cases pairs

theorem move_performs {thread : List Frame} (made : move lib drivers service thread outcome = some (next, moved)) :
    Performs lib outcome.stored service.db next.db := by
  unfold move at made
  split at made
  · cases made
  · cases made
  · cases made
    exact Performs.refl lib _ _
  · obtain ⟨⟨after, frames⟩, step, equal⟩ := Option.map_eq_some_iff.mp made
    cases equal
    exact frameMove_performs step

/-- The database of a run of the threads is the one of a run of calls. -/
theorem run_database {start final : Threads.Configuration Service (List Frame)}
    {schedule : List (Nat × Outcome)} (reached : run lib drivers start schedule = some final) :
    ∃ calls, Database.run lib start.shared.db calls = some final.shared.db := by
  refine Runs.invariant (Threads.step (move lib drivers))
    (fun current => ∃ calls, Database.run lib start.shared.db calls = some current.shared.db)
    ?_ ⟨[], rfl⟩ reached
  intro current input after ⟨calls, performed⟩ stepped
  obtain ⟨before, thread, behind, shared, result, _, _, taken, rfl⟩ := Threads.step_split stepped
  rcases move_performs taken with same | ⟨call, answer, one⟩
  · exact ⟨calls, by rw [performed, same]⟩
  · refine ⟨calls ++ [(call, input.2.stored)], ?_⟩
    rw [Database.run] at performed ⊢
    rw [Runs.run_append, performed, Option.bind_some, Runs.run, Database.step, one]
    rfl

end

end Barton.Lifecycle
