import BartonCore.Proof.DeviceService.Discovery

namespace Barton.DeviceService

/-- The service and the descriptor list keep their readiness during the call. -/
def World.steady (world : World) (ready listed : Bool) : World :=
  { world with
    readyForDeviceOperation := fun _ => ready
    descriptorsReady := fun _ => listed
    descriptorsReadyFor := fun _ _ => listed }

section Condition
variable (world : World) (discovery : Discovery) (request : Request)

/-- A driver that may reject a device is asked to start only when the service and the descriptor list are ready. -/
def AsksUnrejectable (ready listed : Bool) : Prop :=
  ∀ driver deviceClass started,
    Effect.start driver deviceClass started ∈
      (deviceServiceDiscoverStart (world.steady ready listed) discovery request).2.2 →
    driver.neverReject = false → ready = true ∧ listed = true

def driversOf (deviceClass : String) : List DeviceDriver := (world.driversByDeviceClass deviceClass).getD []

/-- No discovery of the class is active. -/
def Fresh (deviceClass : String) : Prop :=
  Cells.read DiscoverDeviceClassContext.deviceClass deviceClass discovery.activeDiscoveries = none

instance (deviceClass : String) : Decidable (Fresh discovery deviceClass) := inferInstanceAs (Decidable (_ = none))

/-- The driver has the function that the request calls. -/
def Serves (driver : DeviceDriver) : Prop :=
  (if request.findOrphanedDevices then driver.recoverDevices else driver.discoverDevices) = true

/-- The class has a driver that is never rejected, and for a recovery such a driver can recover devices. -/
def Admitted (deviceClass : String) : Prop :=
  ∃ driver ∈ driversOf world deviceClass,
    driver.neverReject = true ∧ (request.findOrphanedDevices = true → driver.recoverDevices = true)

/-- Every new class is admitted, and one of them also has a driver that may reject a device and serves the request. -/
def Mixed : Prop :=
  ∃ deviceClasses, request.deviceClasses = some deviceClasses ∧
    (∀ deviceClass ∈ deviceClasses, Fresh discovery deviceClass → Admitted world request deviceClass) ∧
    ∃ deviceClass ∈ deviceClasses, Fresh discovery deviceClass ∧
      ∃ driver ∈ driversOf world deviceClass, driver.neverReject = false ∧ Serves request driver

end Condition

section Validation
variable {world : World} {discovery : Discovery} {request : Request}

/-- While only the descriptor list is ready, a class passes the validation when it is admitted. -/
theorem validated_iff (index : Nat) (deviceClass : String) :
    (validateDeviceClassForDiscovery (getDriversForDiscovery (world.steady false true) index deviceClass)
        request.findOrphanedDevices &&
      checkDescriptorReadinessForDiscovery (world.steady false true) index
        (getDriversForDiscovery (world.steady false true) index deviceClass)) = true ↔
      Admitted world request deviceClass := by
  have checked (drivers : Option (List DeviceDriver)) :
      checkDescriptorReadinessForDiscovery (world.steady false true) index drivers = true := rfl
  rw [checked, Bool.and_true]
  unfold Admitted driversOf getDriversForDiscovery World.steady
  dsimp only
  cases world.driversByDeviceClass deviceClass with
  | none => simp [validateDeviceClassForDiscovery]
  | some drivers =>
      cases request.findOrphanedDevices with
      | false => simp [validateDeviceClassForDiscovery]
      | true =>
          simp only [validateDeviceClassForDiscovery, Option.map_some, Bool.and_eq_true, Bool.not_eq_true',
            List.isEmpty_eq_false_iff_exists_mem, Bool.false_eq_true, if_false, Bool.not_true, Bool.false_or,
            List.any_eq_true, List.mem_filter, Option.getD_some, forall_const]
          constructor
          · rintro ⟨_, driver, ⟨member, kept⟩, recovers⟩
            exact ⟨driver, member, kept, recovers⟩
          · rintro ⟨driver, member, kept, recovers⟩
            exact ⟨⟨driver, member, kept⟩, driver, ⟨member, kept⟩, recovers⟩

/-- The validation lets the new classes through when all of them are admitted. -/
theorem newDeviceClassDiscoveries_eq_some {index : Nat} {deviceClasses classes : List String} :
    newDeviceClassDiscoveries (world.steady false true) discovery.activeDiscoveries request.findOrphanedDevices
        index deviceClasses = some classes ↔
      (∀ deviceClass ∈ deviceClasses, Fresh discovery deviceClass → Admitted world request deviceClass) ∧
        classes = deviceClasses.filter fun deviceClass => Fresh discovery deviceClass := by
  induction deviceClasses generalizing index classes with
  | nil => simp [newDeviceClassDiscoveries, eq_comm]
  | cons deviceClass rest ih =>
      unfold newDeviceClassDiscoveries
      rw [List.forall_mem_cons]
      by_cases fresh : Fresh discovery deviceClass
      · have absent : ¬(Cells.read DiscoverDeviceClassContext.deviceClass deviceClass
            discovery.activeDiscoveries).isSome = true := by
          rw [fresh]
          exact Bool.false_ne_true
        rw [if_neg absent, List.filter_cons_of_pos (by simpa using fresh)]
        dsimp only
        have valid := @validated_iff world request index deviceClass
        split
        · rename_i passes
          have admitted := valid.mp passes
          rw [Option.map_eq_some_iff]
          constructor
          · rintro ⟨others, found, rfl⟩
            obtain ⟨later, rfl⟩ := ih.mp found
            exact ⟨⟨fun _ => admitted, later⟩, rfl⟩
          · rintro ⟨⟨_, later⟩, rfl⟩
            exact ⟨_, ih.mpr ⟨later, rfl⟩, rfl⟩
        · rename_i refused
          constructor
          · intro nothing
            cases nothing
          · rintro ⟨⟨admitted, _⟩, _⟩
            exact absurd (valid.mpr (admitted fresh)) refused
      · have active : (Cells.read DiscoverDeviceClassContext.deviceClass deviceClass
            discovery.activeDiscoveries).isSome = true := Option.isSome_iff_ne_none.mpr fresh
        rw [if_pos active, List.filter_cons_of_neg (by simpa using fresh), ih]
        constructor
        · rintro ⟨later, same⟩
          exact ⟨⟨fun impossible => absurd impossible fresh, later⟩, same⟩
        · rintro ⟨⟨_, later⟩, same⟩
          exact ⟨later, same⟩

end Validation

section Starts
variable {world : World} {discovery : Discovery} {request : Request}
  {driver : DeviceDriver} {deviceClass : String} {started : Bool}

/-- The drivers of a class that are asked are those that are eligible and have the function. -/
theorem start_mem_class {index : Nat} {deviceClass other : String} :
    (∃ started, Effect.start driver deviceClass started ∈
        (startDriverDiscoveryForDeviceClass world index other request.findOrphanedDevices).2.2) ↔
      other = deviceClass ∧ driver ∈ driversOf world other ∧
        asked world index request.findOrphanedDevices driver = true := by
  unfold startDriverDiscoveryForDeviceClass
  rw [startDrivers_eq]
  constructor
  · rintro ⟨started, member⟩
    obtain ⟨_, inside, same⟩ := List.mem_map.mp member
    cases same
    obtain ⟨listed, eligible⟩ := List.mem_filter.mp inside
    exact ⟨rfl, listed, eligible⟩
  · rintro ⟨rfl, listed, eligible⟩
    exact ⟨_, List.mem_map.mpr ⟨driver, List.mem_filter.mpr ⟨listed, eligible⟩, rfl⟩⟩

/-- Every new class has its turn, also after a driver has failed. -/
theorem start_mem_classes {ready listed : Bool} {index : Nat} {classes : List String} {map : List StartedDrivers}
    {deviceClass : String} {driver : DeviceDriver} :
    (∃ started, Effect.start driver deviceClass started ∈
        (startClasses (world.steady ready listed) request.findOrphanedDevices index classes map).2.2) ↔
      deviceClass ∈ classes ∧ driver ∈ driversOf world deviceClass ∧
        (driver.neverReject || listed) = true ∧ Serves request driver := by
  induction classes generalizing index map with
  | nil => simp [startClasses]
  | cons other rest ih =>
      rw [startClasses_cons]
      simp only [List.mem_append, exists_or, ih, start_mem_class, List.mem_cons]
      have asks : asked (world.steady ready listed) index request.findOrphanedDevices driver = true ↔
          (driver.neverReject || listed) = true ∧ Serves request driver := Bool.and_eq_true_iff
      rw [asks, or_and_right]
      refine or_congr ?_ Iff.rfl
      constructor
      · rintro ⟨rfl, rest⟩
        exact ⟨rfl, rest⟩
      · rintro ⟨rfl, rest⟩
        exact ⟨rfl, rest⟩

theorem start_not_mem_rollback {map : List StartedDrivers} {findOrphanedDevices : Bool} :
    Effect.start driver deviceClass started ∉ rollbackFailedDiscovery map findOrphanedDevices := by
  intro member
  obtain ⟨entry, _, inside⟩ := List.mem_flatMap.mp member
  rcases List.mem_append.mp inside with stop | stopped
  · obtain ⟨_, _, same⟩ := List.mem_map.mp stop
    cases same
  · cases List.mem_singleton.mp stopped

/-- A call that passes its validation asks exactly the drivers of its second phase. -/
theorem start_mem_discoverStart {deviceClasses classes : List String}
    (given : request.deviceClasses = some deviceClasses)
    (validated : newDeviceClassDiscoveries world discovery.activeDiscoveries request.findOrphanedDevices 0
      deviceClasses = some classes) :
    Effect.start driver deviceClass started ∈ (deviceServiceDiscoverStart world discovery request).2.2 ↔
      Effect.start driver deviceClass started ∈
        (startClasses world request.findOrphanedDevices 0 classes []).2.2 := by
  unfold deviceServiceDiscoverStart
  rw [given]
  dsimp only
  rw [validated]
  cases classes with
  | nil => exact Iff.rfl
  | cons first rest =>
      dsimp only
      split
      · rw [List.cons_append, List.mem_cons, List.mem_append]
        simp [start_not_mem_rollback]
      · rw [List.cons_append, List.mem_cons, List.mem_append]
        simp [startDiscoveryMonitors]

/-- A call that asks a driver has passed its validation. -/
theorem validated_of_start
    (member : Effect.start driver deviceClass started ∈ (deviceServiceDiscoverStart world discovery request).2.2) :
    ∃ deviceClasses classes, request.deviceClasses = some deviceClasses ∧
      newDeviceClassDiscoveries world discovery.activeDiscoveries request.findOrphanedDevices 0 deviceClasses =
        some classes := by
  unfold deviceServiceDiscoverStart at member
  cases given : request.deviceClasses with
  | none =>
      rw [given] at member
      cases member
  | some deviceClasses =>
      rw [given] at member
      dsimp only at member
      cases validated : newDeviceClassDiscoveries world discovery.activeDiscoveries request.findOrphanedDevices 0
          deviceClasses with
      | none =>
          rw [validated] at member
          cases member
      | some classes => exact ⟨deviceClasses, classes, rfl, validated⟩

end Starts

/-- A discovery that is not ready keeps to the drivers that are never rejected, except when only the descriptor list is
ready and a new class has drivers of both kinds. -/
theorem asksUnrejectable_iff (world : World) (discovery : Discovery) (request : Request) (ready listed : Bool) :
    AsksUnrejectable world discovery request ready listed ↔
      (ready = false → listed = true → ¬Mixed world discovery request) := by
  constructor
  · rintro asks rfl rfl ⟨deviceClasses, given, admitted, deviceClass, named, fresh, driver, member, rejects, serves⟩
    have validated := (@newDeviceClassDiscoveries_eq_some world discovery request 0 _ _).mpr ⟨admitted, rfl⟩
    have inside : deviceClass ∈ deviceClasses.filter fun deviceClass => Fresh discovery deviceClass :=
      List.mem_filter.mpr ⟨named, by simpa using fresh⟩
    obtain ⟨started, start⟩ := (@start_mem_classes world request false true 0 _ [] _ _).mpr
      ⟨inside, member, Bool.or_true _, serves⟩
    have ready := asks driver deviceClass started ((start_mem_discoverStart given validated).mpr start) rejects
    cases ready.1
  · intro pure driver deviceClass started start rejects
    obtain ⟨deviceClasses, classes, given, validated⟩ := validated_of_start start
    obtain ⟨inside, member, eligible, serves⟩ := (@start_mem_classes world request ready listed 0 _ [] _ _).mp
      ⟨started, (start_mem_discoverStart given validated).mp start⟩
    rw [rejects, Bool.false_or] at eligible
    subst eligible
    refine ⟨?_, rfl⟩
    cases ready with
    | true => rfl
    | false =>
        obtain ⟨admitted, rfl⟩ := newDeviceClassDiscoveries_eq_some.mp validated
        obtain ⟨named, fresh⟩ := List.mem_filter.mp inside
        have new : Fresh discovery deviceClass := by simpa using fresh
        refine absurd ?_ (pure rfl rfl)
        exact ⟨deviceClasses, given, admitted, deviceClass, named, new, driver, member, rejects, serves⟩

/-- A class is served by one driver that is never rejected and by one that may be. -/
def mixedDrivers : List DeviceDriver := [⟨"camera", true, true, false, true⟩, ⟨"zigbee", false, true, false, true⟩]

def mixedWorld : World where
  driversByDeviceClass _ := some mixedDrivers
  readyForDeviceOperation _ := false
  descriptorsReady _ := true
  descriptorsReadyFor _ _ := true
  starts _ _ := true
  distinct _ _ same := by
    cases same
    decide

/-- The service is not ready and the descriptor list is, and both drivers of the class are asked. -/
theorem not_asksUnrejectable : ¬ ∀ (world : World) (discovery : Discovery) (request : Request) (ready listed : Bool),
    AsksUnrejectable world discovery request ready listed := by
  intro claim
  have start : Effect.start ⟨"zigbee", false, true, false, true⟩ "sensor" true ∈
      (deviceServiceDiscoverStart (mixedWorld.steady false true) ⟨[], 0⟩ ⟨some ["sensor"], none, 60, false⟩).2.2 := by
    decide
  have ready := claim mixedWorld ⟨[], 0⟩ ⟨some ["sensor"], none, 60, false⟩ false true _ _ _ start rfl
  cases ready.1

end Barton.DeviceService
