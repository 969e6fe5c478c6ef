import BartonCore.Proof.DeviceService.Endpoints

namespace Barton.Lifecycle
open Database

section Definitions
variable (uuid : String)

/-- The frame adds the device to the database. -/
def adds : Frame → Bool
  | .finalizeFound found device => !found.inRepairMode && device.uuid == some uuid
  | .addNew _ newDevice => newDevice.uuid == some uuid
  | _ => false

/-- The pairing of the device has not looked at the removal marks yet. -/
def prechecks : Frame → Bool
  | .deviceFound found => found.deviceUuid == uuid
  | .pair found => found.deviceUuid == uuid
  | .checkMark found _ => found.deviceUuid == uuid
  | _ => false

/-- The frame marks the device for removal. -/
def marks : Frame → Bool
  | .markForRemoval target => target == uuid
  | _ => false

/-- The pairing ends before it looks at the removal marks. -/
def fails (outcome : Outcome) : Frame → Bool
  | .deviceFound _ => !outcome.admitted
  | .pair _ => !outcome.configured
  | _ => false

/-- The removal took effect and returns true. -/
def effective : List Frame → Bool
  | [.announceRemoval _] => true
  | [.returned result] => result
  | _ => false

/-- Some pairing of the device has not looked at the removal marks yet. -/
def Expected (threads : List (List Frame)) : Prop :=
  ∃ thread ∈ threads, ∃ frame ∈ thread, prechecks uuid frame = true

/-- The order of the half steps is right. The first thread is the removal. -/
structure InOrder (current : Threads.Configuration Service (List Frame)) (outcome : Outcome)
    (frame : Frame) : Prop where
  /-- Nothing adds the device after the removal took effect. -/
  addition : adds uuid frame = true → outcome.stored = true →
    ∀ removal ∈ current.threads.head?, effective removal = false
  /-- A mark is only left for a pairing that will look at it, and for a device that is not stored. -/
  mark : marks uuid frame = true →
    current.shared.db.has uuid = false ∧ Expected uuid current.threads
  /-- The pairing of a marked device gets as far as the marks. -/
  pairing : prechecks uuid frame = true → uuid ∈ current.shared.markedForRemoval →
    fails outcome frame = false

/-- The move of the scheduled thread keeps the order. -/
def StepInOrder (current : Threads.Configuration Service (List Frame)) (input : Nat × Outcome) : Prop :=
  ∀ thread ∈ current.threads[input.1]?, ∀ frame ∈ thread.head?, InOrder uuid current input.2 frame

instance (threads : List (List Frame)) : Decidable (Expected uuid threads) :=
  inferInstanceAs (Decidable (∃ thread ∈ threads, ∃ frame ∈ thread, prechecks uuid frame = true))

instance (current : Threads.Configuration Service (List Frame)) (outcome : Outcome) (frame : Frame) :
    Decidable (InOrder uuid current outcome frame) :=
  decidable_of_iff ((adds uuid frame = true → outcome.stored = true →
      ∀ removal ∈ current.threads.head?, effective removal = false) ∧
    (marks uuid frame = true → current.shared.db.has uuid = false ∧ Expected uuid current.threads) ∧
    (prechecks uuid frame = true → uuid ∈ current.shared.markedForRemoval → fails outcome frame = false))
    ⟨fun all => ⟨all.1, all.2.1, all.2.2⟩, fun order => ⟨order.addition, order.mark, order.pairing⟩⟩

instance (current : Threads.Configuration Service (List Frame)) (input : Nat × Outcome) :
    Decidable (StepInOrder uuid current input) :=
  inferInstanceAs (Decidable (∀ thread ∈ current.threads[input.1]?, ∀ frame ∈ thread.head?,
    InOrder uuid current input.2 frame))

/-- These frames of `deviceServiceRemoveDevice` come before the removal takes effect. -/
def Undecided : Frame → Prop
  | .removeDevice target => target = some uuid
  | .markForRemoval target => target = uuid
  | .findContext target _ => target = uuid
  | .checkTask target _ _ => target = uuid
  | .cancelTask target _ _ => target = uuid
  | .dropContext target _ => target = uuid
  | .awaitTask target _ => target = uuid
  | .deleteDevice target _ => target = uuid
  | _ => False

end Definitions

/-- The frame belongs to a pairing, to a reconfiguration, or to a write of a resource or of metadata. -/
def concurrent : Frame → Bool
  | .removeEndpoint _ _ | .fetchEndpoint _ _ _ | .disableEndpoint _ _ | .endpointDisabled _ _
  | .removeDevice _ | .markForRemoval _ | .findContext _ _ | .checkTask _ _ _ | .cancelTask _ _ _
  | .dropContext _ _ | .awaitTask _ _ | .deleteDevice _ _ | .announceRemoval _ => false
  | _ => true

section Moves
variable {lib : Library} {drivers : Drivers} {uuid : String} {service next : Service}
  {frames : List Frame} {outcome : Outcome} {db after : JsonDatabase} {result stored : Bool}

/-- An addition that does not reach the storage adds no device. -/
theorem has_addDevice_failed {device : DeviceRecord}
    (added : jsonDatabaseAddDevice lib db device false = some (result, after)) : SameDevices db after := by
  rcases jsonDatabaseAddDevice_cases lib added with
    ⟨_, _, same⟩ | ⟨own, _, _, _, failed, _⟩ | ⟨_, _, _, _, _, _, same, _⟩
  · exact same ▸ SameDevices.refl db
  · cases failed
  · rw [same]
    exact fun _ => rfl

/-- A device stays absent when every addition of it fails. -/
theorem absent_addDevice {device : DeviceRecord}
    (added : jsonDatabaseAddDevice lib db device stored = some (result, after))
    (own : device.uuid = some uuid → stored = false) (absent : db.has uuid = false) :
    after.has uuid = false := by
  by_cases same : device.uuid = some uuid
  · rw [own same] at added
    rw [has_addDevice_failed added uuid, absent]
  · rw [has_addDevice added same, absent]

theorem absent_removeDevice {target : String}
    (removed : jsonDatabaseRemoveDeviceById db target stored = some (result, after))
    (absent : db.has uuid = false) : after.has uuid = false := by
  rcases jsonDatabaseRemoveDeviceById_cases removed with ⟨_, _, same⟩ | ⟨entry, uris, _, _, _, same⟩
  · rw [same, absent]
  · subst same
    by_cases equal : (some uuid : Option String) = some target
    · rw [JsonDatabase.has, JsonDatabase.deviceEntry, equal]
      exact congrArg Option.isSome Cells.read_delete
    · unfold JsonDatabase.has JsonDatabase.deviceEntry at absent ⊢
      show (Cells.read CacheEntry.uuid (some uuid)
        (Cells.delete CacheEntry.uuid (some target) db.devices)).isSome = false
      rw [Cells.read_delete_of_ne equal, absent]

theorem SameDevices.resourceMove {frame : Resources.Frame}
    (made : resourceMove lib service frame outcome = some (next, frames)) :
    SameDevices service.db next.db ∧ next.markedForRemoval = service.markedForRemoval ∧
      ∃ inner : List Resources.Frame, frames = inner.map .resource := by
  obtain ⟨⟨resources, inner⟩, step, equal⟩ := Option.map_eq_some_iff.mp made
  cases equal
  refine ⟨?_, rfl, inner, rfl⟩
  show SameDevices service.resources.db resources.db
  have read {found : Option (List Resources.Frame)}
      (moved : found.map (fun frames => (service.resources, frames)) = some (resources, inner)) :
      SameDevices service.resources.db resources.db := by
    obtain ⟨_, _, equal⟩ := Option.map_eq_some_iff.mp moved
    cases equal
    exact SameDevices.refl _
  cases frame with
  | store call resource =>
      change Resources.storeValue lib service.resources call resource _ = _ at step
      unfold Resources.storeValue at step
      split at step
      · obtain ⟨⟨_, db⟩, updated, equal⟩ := Option.map_eq_some_iff.mp step
        cases equal
        exact SameDevices.updateDate updated
      · obtain ⟨⟨_, db⟩, saved, equal⟩ := Option.map_eq_some_iff.mp step
        cases equal
        exact SameDevices.saveResource saved
  | storeMode resource newMode =>
      obtain ⟨⟨_, db⟩, saved, equal⟩ := Option.map_eq_some_iff.mp step
      cases equal
      exact SameDevices.saveResource saved
  | returned result => cases step
  | send event =>
      cases step
      exact SameDevices.refl _
  | _ => exact read step

/-- What one move of another thread does to the device and to its mark. -/
structure ConcurrentFacts (uuid : String) (service next : Service) (frame : Frame) (frames : List Frame)
    (outcome : Outcome) : Prop where
  inside : ∀ inner ∈ frames, concurrent inner = true
  absent : (adds uuid frame = true → outcome.stored = false) → service.db.has uuid = false →
    next.db.has uuid = false
  marked : uuid ∈ next.markedForRemoval → uuid ∈ service.markedForRemoval
  expected : prechecks uuid frame = true → uuid ∈ next.markedForRemoval → fails outcome frame = false →
    ∃ inner ∈ frames, prechecks uuid inner = true

/-- A move that keeps the devices and the marks and is not part of a pairing. -/
theorem ConcurrentFacts.quiet {frame : Frame} (same : SameDevices service.db next.db)
    (marks : next.markedForRemoval = service.markedForRemoval)
    (inside : ∀ inner ∈ frames, concurrent inner = true) (other : prechecks uuid frame = false) :
    ConcurrentFacts uuid service next frame frames outcome where
  inside := inside
  absent := by
    intro _ missing
    rw [same uuid, missing]
  marked := by rw [marks]; exact id
  expected := by
    intro expects
    rw [other] at expects
    cases expects

theorem setParsedMetadata_concurrent (uri : String) (value : Option String) :
    ∀ inner ∈ setParsedMetadata lib uri value, concurrent inner = true := by
  unfold setParsedMetadata
  split <;> simp [concurrent]

theorem metadata_facts {frame : Frame} (other : prechecks uuid frame = false)
    (made : setMetadata lib service outcome frame = some (next, frames)) :
    ConcurrentFacts uuid service next frame frames outcome := by
  unfold setMetadata at made
  split at made
  · cases made
    exact ConcurrentFacts.quiet (SameDevices.refl _) rfl (by simp [concurrent]) other
  · obtain ⟨accessible, _, equal⟩ := Option.map_eq_some_iff.mp made
    cases equal
    refine ConcurrentFacts.quiet (SameDevices.refl _) rfl ?_ other
    cases accessible with
    | true => exact setParsedMetadata_concurrent _ _
    | false => simp [concurrent]
  · obtain ⟨found, _, rest⟩ := Option.bind_eq_some_iff.mp made
    obtain ⟨item, _, equal⟩ := Option.map_eq_some_iff.mp rest
    cases equal
    exact ConcurrentFacts.quiet (SameDevices.refl _) rfl (by simp [concurrent]) other
  · cases made
    exact ConcurrentFacts.quiet (SameDevices.refl _) rfl (by simp) other
  · obtain ⟨⟨_, db⟩, saved, equal⟩ := Option.map_eq_some_iff.mp made
    cases equal
    exact ConcurrentFacts.quiet (SameDevices.saveMetadata saved) rfl (by simp [concurrent]) other
  · cases made
    exact ConcurrentFacts.quiet (SameDevices.refl _) rfl (by simp) other
  · cases made

theorem updateDataOfRecoveredDevice_concurrent (device : DeviceRecord) :
    ∀ inner ∈ updateDataOfRecoveredDevice device, concurrent inner = true := by
  intro inner member
  rcases mem_updateDataOfRecoveredDevice member with ⟨_, rfl⟩ | ⟨_, _, _, _, rfl⟩
  · rfl
  · rfl

theorem finalizeFound_facts {found : DeviceFoundDetails} {device : DeviceRecord}
    (made : finalizeFound lib service outcome found device = some (next, frames)) :
    ConcurrentFacts uuid service next (.finalizeFound found device) frames outcome := by
  unfold finalizeFound at made
  dsimp only at made
  by_cases repair : found.inRepairMode = true
  · rw [if_pos repair, Option.some.injEq] at made
    cases made
    refine ConcurrentFacts.quiet (SameDevices.refl _) rfl ?_ rfl
    intro inner member
    rw [List.mem_append, List.mem_singleton] at member
    rcases member with update | rfl
    · exact updateDataOfRecoveredDevice_concurrent _ inner update
    · rfl
  · rw [if_neg repair] at made
    obtain ⟨⟨_, db⟩, added, equal⟩ := Option.map_eq_some_iff.mp made
    cases equal
    constructor
    · simp [concurrent]
    · intro own missing
      apply absent_addDevice added ?_ missing
      intro named
      apply own
      have device_named : device.uuid = some uuid := named
      simp [adds, repair, device_named]
    · exact id
    · intro expects
      cases expects

theorem pairing_facts {frame : Frame}
    (made : deviceServiceDeviceFound lib drivers service outcome frame = some (next, frames)) :
    ConcurrentFacts uuid service next frame frames outcome := by
  unfold deviceServiceDeviceFound at made
  split at made
  · rename_i found
    split at made <;> rename_i admitted <;> cases made
    · refine ⟨by simp [concurrent], fun _ missing => missing, id, ?_⟩
      exact fun expects _ _ => ⟨_, List.mem_singleton_self _, expects⟩
    · refine ⟨by simp [concurrent], fun _ missing => missing, id, ?_⟩
      intro _ _ continues
      simp [fails, admitted] at continues
  · rename_i found
    dsimp only at made
    split at made <;> rename_i configured <;> cases made
    · refine ⟨by simp [concurrent], fun _ missing => missing, id, ?_⟩
      exact fun expects _ _ => ⟨_, List.mem_singleton_self _, expects⟩
    · refine ⟨by simp [concurrent], fun _ missing => missing, id, ?_⟩
      intro _ _ continues
      simp [fails, configured] at continues
  · rename_i found device
    split at made <;> rename_i marked <;> cases made
    · refine ⟨by simp [concurrent], fun _ missing => missing, ?_, ?_⟩
      · exact fun member => List.mem_of_mem_filter member
      · intro expects member
        obtain rfl : found.deviceUuid = uuid := by simpa [prechecks] using expects
        simp at member
    · refine ⟨by simp [concurrent], fun _ missing => missing, id, ?_⟩
      intro expects member
      obtain rfl : found.deviceUuid = uuid := by simpa [prechecks] using expects
      exact absurd member marked
  · exact finalizeFound_facts made
  · cases made
    exact ConcurrentFacts.quiet (SameDevices.refl _) rfl (by simp [concurrent]) rfl
  · cases made

theorem nextYoink_concurrent (target : String) (device newDevice : DeviceRecord)
    (endpoints : List DeviceEndpoint) : concurrent (nextYoink target device newDevice endpoints) = true := by
  cases endpoints <;> rfl

theorem reconfigure_facts {frame : Frame} (other : prechecks uuid frame = false)
    (made : reconfigureDeviceTask lib service outcome frame = some (next, frames)) :
    ConcurrentFacts uuid service next frame frames outcome := by
  unfold reconfigureDeviceTask at made
  split at made
  · split at made <;> cases made
    · exact ConcurrentFacts.quiet (SameDevices.refl _) rfl (by simp [concurrent]) rfl
    · exact ConcurrentFacts.quiet (SameDevices.refl _) rfl (by simp) rfl
  · split at made <;> cases made
    · exact ConcurrentFacts.quiet (SameDevices.refl _) rfl (by simp [concurrent]) rfl
    · exact ConcurrentFacts.quiet (SameDevices.refl _) rfl (by simp [concurrent]) rfl
  · split at made <;> cases made
    · exact ConcurrentFacts.quiet (SameDevices.refl _) rfl (by simp [concurrent]) rfl
    · exact ConcurrentFacts.quiet (SameDevices.refl _) rfl (by simp [concurrent]) rfl
  · obtain ⟨found, _, equal⟩ := Option.map_eq_some_iff.mp made
    cases equal
    exact ConcurrentFacts.quiet (SameDevices.refl _) rfl (by simp [nextYoink_concurrent]) rfl
  · obtain ⟨label, _, equal⟩ := Option.map_eq_some_iff.mp made
    split at equal <;> cases equal
    · exact ConcurrentFacts.quiet (SameDevices.refl _) rfl (by simp [nextYoink_concurrent]) rfl
    · exact ConcurrentFacts.quiet (SameDevices.refl _) rfl (by simp [concurrent]) rfl
  · obtain ⟨target, _, rest⟩ := Option.bind_eq_some_iff.mp made
    obtain ⟨⟨_, db⟩, removed, equal⟩ := Option.map_eq_some_iff.mp rest
    cases equal
    refine ⟨by simp [concurrent], fun _ missing => absent_removeDevice removed missing, id, ?_⟩
    intro expects
    cases expects
  · rename_i target newDevice
    obtain ⟨newUuid, named, rest⟩ := Option.bind_eq_some_iff.mp made
    obtain ⟨⟨_, db⟩, added, equal⟩ := Option.map_eq_some_iff.mp rest
    cases equal
    refine ⟨by simp [concurrent], ?_, id, ?_⟩
    · intro own missing
      apply absent_addDevice added ?_ missing
      intro same
      apply own
      have device_named : newDevice.uuid = some uuid := same
      simp [adds, device_named]
    · intro expects
      cases expects
  · obtain ⟨⟨_, db⟩, removed, equal⟩ := Option.map_eq_some_iff.mp made
    cases equal
    exact ConcurrentFacts.quiet (SameDevices.removeMetadata removed) rfl (by simp [concurrent]) rfl
  · cases made
    exact ConcurrentFacts.quiet (SameDevices.refl _) rfl (by simp [concurrent]) rfl
  · cases made
    exact ConcurrentFacts.quiet (SameDevices.refl _) rfl (by simp [concurrent]) rfl
  · cases made

theorem concurrent_facts {frame : Frame} (other : concurrent frame = true)
    (made : frameMove lib drivers service frame outcome = some (next, frames)) :
    ConcurrentFacts uuid service next frame frames outcome := by
  cases frame with
  | setMetadataUri _ _ | setMetadata _ _ _ _ | saveMetadata _ | announceMetadata _ =>
      exact @metadata_facts lib uuid service next frames outcome _ rfl made
  | resource frame =>
      obtain ⟨same, marks, inner, rfl⟩ := SameDevices.resourceMove made
      refine ConcurrentFacts.quiet same marks ?_ rfl
      intro frame member
      obtain ⟨_, _, rfl⟩ := List.mem_map.mp member
      rfl
  | deviceFound _ | pair _ | checkMark _ _ | finalizeFound _ _ | paired _ _ _ =>
      exact @pairing_facts lib drivers uuid service next frames outcome _ made
  | scheduled _ _ | fetchDevice _ | configure _ _ | yoinkDevice _ _ _ | yoinkEndpoint _ _ _ _ _
  | removeOld _ _ _ | addNew _ _ | clearRequired _ | complete _ _ | dropTask _ _ =>
      exact @reconfigure_facts lib uuid service next frames outcome _ rfl made
  | returned _ => cases made
  | _ => cases other

/-- One move of a thread beside the removal. -/
theorem thread_facts {thread moved : List Frame} (inside : ∀ frame ∈ thread, concurrent frame = true)
    (made : move lib drivers service thread outcome = some (next, moved)) :
    ∃ frame rest frames, thread = frame :: rest ∧ moved = frames ++ rest ∧
      ConcurrentFacts uuid service next frame frames outcome := by
  cases thread with
  | nil => cases made
  | cons frame rest =>
      by_cases returned : ∃ result, frame = .returned result
      · obtain ⟨result, rfl⟩ := returned
        cases rest with
        | nil => cases made
        | cons below others =>
            cases made
            exact ⟨_, _, [], rfl, rfl,
              ConcurrentFacts.quiet (SameDevices.refl _) rfl (by simp) rfl⟩
      · have other : ∀ result, frame ≠ .returned result := fun result same => returned ⟨result, same⟩
        obtain ⟨frames, step, rfl⟩ := move_frame other made
        exact ⟨frame, rest, frames, rfl, rfl,
          concurrent_facts (inside frame List.mem_cons_self) step⟩

/-- Before the removal takes effect it only reads, and then it marks the device or deletes it. -/
theorem undecided_facts {frame : Frame} (undecided : Undecided uuid frame)
    (made : deviceServiceRemoveDevice drivers service outcome frame = some (next, frames)) :
    (∃ target, frames = [target] ∧ Undecided uuid target ∧
      next.markedForRemoval = service.markedForRemoval) ∨
    (frames = [.returned true] ∧ marks uuid frame = true ∧ next.db = service.db) ∨
    (∃ device, frames = [.announceRemoval device] ∧ next.db.has uuid = false ∧
      next.markedForRemoval = service.markedForRemoval) ∨
    frames = [.returned false] := by
  cases frame with
  | removeDevice target =>
      obtain rfl : target = some uuid := undecided
      rw [deviceServiceRemoveDevice] at made
      split at made <;> cases made
      · exact Or.inl ⟨_, rfl, rfl, rfl⟩
      · exact Or.inl ⟨_, rfl, rfl, rfl⟩
  | markForRemoval target =>
      cases made
      refine Or.inr (Or.inl ⟨rfl, ?_, rfl⟩)
      simpa [marks, Undecided] using undecided
  | findContext | checkTask =>
      rw [deviceServiceRemoveDevice] at made
      split at made <;> cases made
      · exact Or.inl ⟨_, rfl, undecided, rfl⟩
      · exact Or.inl ⟨_, rfl, undecided, rfl⟩
  | cancelTask | dropContext =>
      cases made
      exact Or.inl ⟨_, rfl, undecided, rfl⟩
  | awaitTask target device =>
      rw [deviceServiceRemoveDevice] at made
      split at made
      · cases made
        exact Or.inl ⟨_, rfl, undecided, rfl⟩
      · split at made <;> cases made
        · exact Or.inl ⟨_, rfl, undecided, rfl⟩
        · exact Or.inl ⟨_, rfl, undecided, rfl⟩
  | deleteDevice target device =>
      obtain rfl : target = uuid := undecided
      obtain ⟨⟨result, db⟩, removed, equal⟩ := Option.map_eq_some_iff.mp made
      cases equal
      right
      right
      rcases has_removeDevice removed with ⟨success, _, gone⟩ | ⟨failure, _, _⟩
      · subst success
        exact Or.inl ⟨device, rfl, gone, rfl⟩
      · subst failure
        exact Or.inr rfl
  | _ => cases undecided

end Moves

section Runs
variable {lib : Library} {drivers : Drivers} {uuid : String}
  {start current next final : Threads.Configuration Service (List Frame)}
  {input : Nat × Outcome} {schedule : List (Nat × Outcome)} {shared after : Service}
  {removal moved : List Frame} {others : List (List Frame)}

/-- The removal is undecided, or it is effective and a mark is still expected, or it was refused. -/
inductive RemovalState (uuid : String) (shared : Service) (others : List (List Frame)) :
    List Frame → Prop
  | undecided (frame : Frame) (inside : Undecided uuid frame)
      (unmarked : uuid ∉ shared.markedForRemoval) : RemovalState uuid shared others [frame]
  | effective (removal : List Frame) (effect : effective removal = true)
      (absent : shared.db.has uuid = false)
      (expected : uuid ∈ shared.markedForRemoval → Expected uuid others) :
      RemovalState uuid shared others removal
  | refused : RemovalState uuid shared others [.returned false]

/-- A state of the removal beside threads that do not remove. -/
def Ordered (uuid : String) (current : Threads.Configuration Service (List Frame)) : Prop :=
  ∃ removal others, current.threads = removal :: others ∧
    (∀ thread ∈ others, ∀ frame ∈ thread, concurrent frame = true) ∧
    RemovalState uuid current.shared others removal

theorem RemovalState.no_prechecks (state : RemovalState uuid shared others removal) :
    ∀ frame ∈ removal, prechecks uuid frame = false := by
  intro frame member
  cases state with
  | undecided only inside _ =>
      rw [List.mem_singleton] at member
      subst member
      cases frame <;> first | rfl | cases inside
  | effective _ effect _ _ =>
      unfold Lifecycle.effective at effect
      split at effect
      · rw [List.mem_singleton.mp member]
        rfl
      · rw [List.mem_singleton.mp member]
        rfl
      · cases effect
  | refused =>
      rw [List.mem_singleton.mp member]
      rfl

/-- The removal itself moves. -/
theorem RemovalState.move (state : RemovalState uuid shared others removal) {outcome : Outcome}
    (mark : ∀ frame ∈ removal.head?, marks uuid frame = true →
      shared.db.has uuid = false ∧ Expected uuid others)
    (made : move lib drivers shared removal outcome = some (after, moved)) :
    RemovalState uuid after others moved := by
  cases state with
  | refused => cases made
  | effective _ effect absent expected =>
      unfold Lifecycle.effective at effect
      split at effect
      · cases made
        exact .effective _ rfl absent expected
      · cases made
      · cases effect
  | undecided frame inside unmarked =>
      have step : ∃ frames, deviceServiceRemoveDevice drivers shared outcome frame = some (after, frames) ∧
          moved = frames := by
        have other : ∀ result, frame ≠ .returned result := by
          intro result same
          subst same
          cases inside
        obtain ⟨frames, step, rfl⟩ := move_frame other made
        refine ⟨frames, ?_, List.append_nil _⟩
        cases frame <;> first | exact step | cases inside
      obtain ⟨frames, step, rfl⟩ := step
      rcases undecided_facts inside step with
        ⟨target, rfl, continues, marked⟩ | ⟨rfl, marking, same⟩ | ⟨device, rfl, gone, marked⟩ | rfl
      · exact .undecided target continues (by rw [marked]; exact unmarked)
      · obtain ⟨absent, expected⟩ := mark frame rfl marking
        exact .effective _ rfl (by rw [same, absent]) fun _ => expected
      · refine .effective _ rfl gone ?_
        rw [marked]
        exact fun member => absurd member unmarked
      · exact .refused

/-- Another thread moves beside the removal. -/
theorem RemovalState.beside {before behind : List (List Frame)} {thread : List Frame} {outcome : Outcome}
    (state : RemovalState uuid shared (before ++ thread :: behind) removal)
    (inside : ∀ frame ∈ thread, concurrent frame = true)
    (addition : ∀ frame ∈ thread.head?, adds uuid frame = true → outcome.stored = true →
      Lifecycle.effective removal = false)
    (pairing : ∀ frame ∈ thread.head?, prechecks uuid frame = true →
      uuid ∈ shared.markedForRemoval → fails outcome frame = false)
    (made : Lifecycle.move lib drivers shared thread outcome = some (after, moved)) :
    (∀ frame ∈ moved, concurrent frame = true) ∧
      RemovalState uuid after (before ++ moved :: behind) removal := by
  obtain ⟨frame, rest, frames, rfl, rfl, facts⟩ :=
    @thread_facts lib drivers uuid shared after outcome thread moved inside made
  constructor
  · intro inner member
    rcases List.mem_append.mp member with new | old
    · exact facts.inside inner new
    · exact inside inner (List.mem_cons_of_mem _ old)
  · cases state with
    | refused => exact .refused
    | undecided only undecided unmarked =>
        exact .undecided only undecided fun member => unmarked (facts.marked member)
    | effective _ effect absent expected =>
        refine .effective _ effect (facts.absent ?_ absent) ?_
        · intro adding
          cases stored : outcome.stored with
          | false => rfl
          | true => exact absurd effect (by simp [addition frame rfl adding stored])
        · intro member
          have marked := facts.marked member
          obtain ⟨other, held, inner, place, checks⟩ := expected marked
          rw [List.mem_append, List.mem_cons] at held
          rcases held with left | rfl | right
          · exact ⟨other, by simp [left], inner, place, checks⟩
          · refine ⟨frames ++ rest, by simp, ?_⟩
            rcases List.mem_cons.mp place with rfl | below
            · obtain ⟨new, position, continues⟩ :=
                facts.expected checks member (pairing inner rfl checks marked)
              exact ⟨new, List.mem_append_left _ position, continues⟩
            · exact ⟨inner, List.mem_append_right _ below, checks⟩
          · exact ⟨other, by simp [right], inner, place, checks⟩

theorem Ordered.step (ordered : Ordered uuid current) (allowed : StepInOrder uuid current input)
    (stepped : Threads.step (move lib drivers) current input = some next) : Ordered uuid next := by
  obtain ⟨removal, others, threads, inside, state⟩ := ordered
  obtain ⟨before, thread, behind, shared, moved, split, position, taken, rfl⟩ := Threads.step_split stepped
  have top : thread ∈ current.threads[input.1]? := by
    rw [split, ← position]
    simp
  have order := allowed thread top
  cases before with
  | nil =>
      rw [split, List.nil_append, List.cons.injEq] at threads
      obtain ⟨rfl, rfl⟩ := threads
      refine ⟨moved, behind, rfl, inside, state.move ?_ taken⟩
      intro frame held marking
      obtain ⟨absent, other, member, inner, place, checks⟩ := (order frame held).mark marking
      refine ⟨absent, other, ?_, inner, place, checks⟩
      rw [split, List.nil_append, List.mem_cons] at member
      refine member.resolve_left ?_
      intro same
      subst same
      rw [state.no_prechecks inner place] at checks
      cases checks
  | cons first middle =>
      rw [split, List.cons_append, List.cons.injEq] at threads
      obtain ⟨rfl, rfl⟩ := threads
      have head : current.threads.head? = some first := by rw [split]; rfl
      obtain ⟨continues, kept⟩ := state.beside (inside thread (by simp))
        (fun frame held adding stored => (order frame held).addition adding stored first head)
        (fun frame held => (order frame held).pairing) taken
      refine ⟨first, middle ++ moved :: behind, rfl, ?_, kept⟩
      intro other member
      rw [List.mem_append, List.mem_cons] at member
      rcases member with left | rfl | right
      · exact inside other (by simp [left])
      · exact continues
      · exact inside other (by simp [right])

/-- A removal that returned true stays effective in every run that keeps the order of the half steps. -/
theorem run_removalStaysEffective
    (threads : start.threads = [.removeDevice (some uuid)] :: others)
    (beside : ∀ thread ∈ others, ∀ frame ∈ thread, concurrent frame = true)
    (unmarked : uuid ∉ start.shared.markedForRemoval)
    (ordered : Runs.Guarded (Threads.step (move lib drivers)) (StepInOrder uuid) start schedule)
    (reached : run lib drivers start schedule = some final)
    (finished : ∀ thread ∈ final.threads, thread = [] ∨ ∃ result, thread = [.returned result])
    (success : final.threads.head? = some [.returned true]) :
    final.shared.db.has uuid = false ∧ uuid ∉ final.shared.markedForRemoval := by
  have initial : Ordered uuid start := ⟨_, _, threads, beside, .undecided _ rfl unmarked⟩
  obtain ⟨removal, rest, split, _, state⟩ := Runs.Guarded.invariant _ (Ordered uuid)
    (fun _ _ _ kept allowed stepped => kept.step allowed stepped) ordered initial reached
  rw [split, List.head?_cons, Option.some.injEq] at success
  subst success
  cases state with
  | undecided _ inside _ => cases inside
  | effective _ _ absent expected =>
      refine ⟨absent, ?_⟩
      intro member
      obtain ⟨thread, held, frame, place, checks⟩ := expected member
      rcases finished thread (by simp [split, held]) with rfl | ⟨result, rfl⟩
      · cases place
      · rw [List.mem_singleton.mp place] at checks
        cases checks

end Runs

/-- No device is stored, and one reconfiguration is scheduled. -/
def sampleStart : Service := ⟨⟨JsonDatabase.empty ∅, [], []⟩, [], [⟨"a", 1⟩], [1], []⟩

/-- A removal runs beside a pairing and a reconfiguration of the device. -/
def sampleRemoval : List (List Frame) :=
  [[.removeDevice (some "a")], [.deviceFound ⟨"a", "light", false, false⟩], [.scheduled 1 "a"]]

/-- This is the configuration after the threads moved in the given order. -/
def removalAfter (threads : List Nat) : Threads.Configuration Service (List Frame) :=
  (run sampleLibrary sampleDrivers ⟨sampleStart, sampleRemoval⟩ (order threads)).getD ⟨sampleStart, []⟩

theorem run_removalStaysEffective_sample :
    (removalAfter [1, 2, 0, 0, 1, 1, 1, 2, 2, 2, 2, 2, 2]).shared.db.has "a" = false ∧
    "a" ∉ (removalAfter [1, 2, 0, 0, 1, 1, 1, 2, 2, 2, 2, 2, 2]).shared.markedForRemoval := by
  have ordered : Runs.Guarded (Threads.step (move sampleLibrary sampleDrivers)) (StepInOrder "a")
      ⟨sampleStart, sampleRemoval⟩ (order [1, 2, 0, 0, 1, 1, 1, 2, 2, 2, 2, 2, 2]) := by
    decide +kernel
  have threads : (removalAfter [1, 2, 0, 0, 1, 1, 1, 2, 2, 2, 2, 2, 2]).threads =
      [[.returned true], [.returned false], [.returned false]] := rfl
  refine run_removalStaysEffective rfl (by decide) (by decide) ordered rfl ?_ rfl
  intro thread member
  simp only [threads, List.mem_cons, List.not_mem_nil, or_false] at member
  rcases member with rfl | rfl | rfl <;> exact Or.inr ⟨_, rfl⟩

/-- A pairing that looked at the marks before the removal left its mark stores the device. -/
theorem not_run_removalStaysEffective :
    ¬∀ (lib : Library) (drivers : Drivers) (calls : List (Call × Bool)) (db : JsonDatabase)
      (uuid : String) (found : DeviceFoundDetails) (started : Outcome) (schedule : List (Nat × Outcome))
      (final : Threads.Configuration Service (List Frame)),
      Database.run lib (JsonDatabase.empty ∅) calls = some db → found.deviceUuid = uuid →
      run lib drivers ⟨⟨⟨db, [], []⟩, [], [], [], []⟩,
        [[.removeDevice (some uuid)], [.deviceFound found]]⟩ ((1, started) :: schedule) = some final →
      (∀ thread ∈ final.threads, thread = [] ∨ ∃ result, thread = [.returned result]) →
      final.threads.head? = some [.returned true] →
      final.shared.db.has uuid = false ∧ uuid ∉ final.shared.markedForRemoval := by
  intro claim
  have finished : ∀ thread ∈ ([[.returned true], [.returned true]] : List (List Frame)),
      thread = [] ∨ ∃ result, thread = [Frame.returned result] := by
    intro thread member
    rw [List.mem_cons, List.mem_singleton, or_self] at member
    exact Or.inr ⟨true, member⟩
  obtain ⟨gone, _⟩ := claim sampleLibrary sampleDrivers [] (JsonDatabase.empty ∅) "a"
    ⟨"a", "light", false, false⟩ ⟨7, true, false, true, true, sampleDevice⟩ (order [1, 1, 0, 0, 1, 1]) _
    rfl rfl rfl finished rfl
  exact absurd gone (by decide +kernel)

end Barton.Lifecycle
