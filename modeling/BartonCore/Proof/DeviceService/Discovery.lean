import BartonCore.Construction.DeviceService.Discovery

namespace Barton.DeviceService

section Effects

/-- The drivers that the effects start for a class. -/
def startsOf (deviceClass : String) (effects : List Effect) : List DeviceDriver :=
  effects.filterMap fun effect =>
    match effect with
    | .start driver other true => if other = deviceClass then some driver else none
    | _ => none

/-- The drivers that the effects stop for a class. -/
def stopsOf (deviceClass : String) (effects : List Effect) : List DeviceDriver :=
  effects.filterMap fun effect =>
    match effect with
    | .stop driver other => if other = deviceClass then some driver else none
    | _ => none

/-- The monitors that the effects start for a class. -/
def monitorsOf (deviceClass : String) (effects : List Effect) : List DiscoverDeviceClassContext :=
  effects.filterMap fun effect =>
    match effect with
    | .monitor context => if context.deviceClass = deviceClass then some context else none
    | _ => none

/-- A started discovery has one monitor for each new class, and a refused one has undone every start. -/
structure AllOrNothing (before after : Discovery) (result : Bool) (effects : List Effect) : Prop where
  success : result = true → ∀ deviceClass context,
    Cells.read DiscoverDeviceClassContext.deviceClass deviceClass before.activeDiscoveries = none →
    Cells.read DiscoverDeviceClassContext.deviceClass deviceClass after.activeDiscoveries = some context →
    monitorsOf deviceClass effects = [context] ∧
      startsOf deviceClass effects = context.startedDrivers ∧ context.startedDrivers.Nodup
  failure : result = false → after.activeDiscoveries = before.activeDiscoveries ∧
    ∀ deviceClass driver, (startsOf deviceClass effects).count driver =
      (stopsOf deviceClass effects).count driver

end Effects

section Condition
variable (world : World) (findOrphanedDevices : Bool)

/-- The drivers that start for the class at a position. -/
def startedIn (index : Nat) (deviceClass : String) : List DeviceDriver :=
  ((world.driversByDeviceClass deviceClass).getD []).filter fun driver =>
    asked world index findOrphanedDevices driver && world.starts index driver

/-- A driver of the class at a position fails to start. -/
def failsIn (index : Nat) (deviceClass : String) : Bool :=
  ((world.driversByDeviceClass deviceClass).getD []).any fun driver =>
    asked world index findOrphanedDevices driver && !world.starts index driver

/-- The drivers that start for a class at any of its positions. -/
def startsFor (deviceClass : String) : Nat → List String → List DeviceDriver
  | _, [] => []
  | index, other :: rest =>
      (if other = deviceClass then startedIn world findOrphanedDevices index other else []) ++
        startsFor deviceClass (index + 1) rest

/-- The drivers that start for a class at its first position. -/
def firstStartsFor (deviceClass : String) : Nat → List String → Option (List DeviceDriver)
  | _, [] => none
  | index, other :: rest =>
      if other = deviceClass then some (startedIn world findOrphanedDevices index other)
      else firstStartsFor deviceClass (index + 1) rest

/-- A driver fails to start for one of the classes. -/
def anyFails : Nat → List String → Bool
  | _, [] => false
  | index, deviceClass :: rest =>
      failsIn world findOrphanedDevices index deviceClass || anyFails (index + 1) rest

/-- No class is named twice. Or some driver fails, only the first naming of a class starts drivers, and each
started driver can be stopped. -/
def Orderly (classes : List String) : Prop :=
  if anyFails world findOrphanedDevices 0 classes then
    ∀ deviceClass,
      startsFor world findOrphanedDevices deviceClass 0 classes =
        (firstStartsFor world findOrphanedDevices deviceClass 0 classes).getD [] ∧
      ∀ driver ∈ startsFor world findOrphanedDevices deviceClass 0 classes,
        driver.stopDiscoveringDevices = true
  else classes.Nodup

end Condition

section Starting
variable {world : World} {findOrphanedDevices : Bool}

theorem startsOf_append (deviceClass : String) (first second : List Effect) :
    startsOf deviceClass (first ++ second) = startsOf deviceClass first ++ startsOf deviceClass second :=
  List.filterMap_append

theorem stopsOf_append (deviceClass : String) (first second : List Effect) :
    stopsOf deviceClass (first ++ second) = stopsOf deviceClass first ++ stopsOf deviceClass second :=
  List.filterMap_append

theorem monitorsOf_append (deviceClass : String) (first second : List Effect) :
    monitorsOf deviceClass (first ++ second) =
      monitorsOf deviceClass first ++ monitorsOf deviceClass second :=
  List.filterMap_append

/-- Every effect of the second phase asks a driver to start. -/
def Effect.isStart : Effect → Bool
  | .start _ _ _ => true
  | _ => false

theorem stopsOf_starts {deviceClass : String} {effects : List Effect}
    (starts : ∀ effect ∈ effects, effect.isStart = true) : stopsOf deviceClass effects = [] := by
  unfold stopsOf
  rw [List.filterMap_eq_nil_iff]
  intro effect member
  have start := starts effect member
  cases effect with
  | start driver other started => rfl
  | _ => contradiction

theorem monitorsOf_starts {deviceClass : String} {effects : List Effect}
    (starts : ∀ effect ∈ effects, effect.isStart = true) : monitorsOf deviceClass effects = [] := by
  unfold monitorsOf
  rw [List.filterMap_eq_nil_iff]
  intro effect member
  have start := starts effect member
  cases effect with
  | start driver other started => rfl
  | _ => contradiction

/-- The loop over the drivers of a class starts the eligible ones. -/
theorem startDrivers_eq (index : Nat) (deviceClass : String) (drivers : List DeviceDriver) :
    startDrivers world index deviceClass findOrphanedDevices drivers =
      (drivers.filter fun driver =>
          asked world index findOrphanedDevices driver && world.starts index driver,
        drivers.any fun driver =>
          asked world index findOrphanedDevices driver && !world.starts index driver,
        (drivers.filter (asked world index findOrphanedDevices)).map fun driver =>
          .start driver deviceClass (world.starts index driver)) := by
  induction drivers with
  | nil => rfl
  | cons driver rest ih =>
      unfold startDrivers
      rw [ih]
      by_cases eligible : asked world index findOrphanedDevices driver = true
      · by_cases started : world.starts index driver = true
        · simp [eligible, started]
        · simp [eligible, started]
      · simp [eligible]

theorem startDriverDiscoveryForDeviceClass_eq (index : Nat) (deviceClass : String) :
    (startDriverDiscoveryForDeviceClass world index deviceClass findOrphanedDevices).1 =
        startedIn world findOrphanedDevices index deviceClass ∧
      (startDriverDiscoveryForDeviceClass world index deviceClass findOrphanedDevices).2.1 =
        failsIn world findOrphanedDevices index deviceClass := by
  unfold startDriverDiscoveryForDeviceClass
  rw [startDrivers_eq]
  exact ⟨rfl, rfl⟩

theorem startDriverDiscoveryForDeviceClass_isStart (index : Nat) (deviceClass : String) :
    ∀ effect ∈ (startDriverDiscoveryForDeviceClass world index deviceClass findOrphanedDevices).2.2,
      effect.isStart = true := by
  unfold startDriverDiscoveryForDeviceClass
  rw [startDrivers_eq]
  intro effect member
  obtain ⟨driver, _, rfl⟩ := List.mem_map.mp member
  rfl

theorem startDriverDiscoveryForDeviceClass_starts (index : Nat) (deviceClass other : String) :
    startsOf deviceClass (startDriverDiscoveryForDeviceClass world index other findOrphanedDevices).2.2 =
      if other = deviceClass then startedIn world findOrphanedDevices index other else [] := by
  unfold startDriverDiscoveryForDeviceClass startedIn
  rw [startDrivers_eq]
  generalize (world.driversByDeviceClass other).getD [] = drivers
  induction drivers with
  | nil => simp [startsOf]
  | cons driver rest ih =>
      unfold startsOf at ih ⊢
      by_cases eligible : asked world index findOrphanedDevices driver = true
      · by_cases started : world.starts index driver = true
        · by_cases same : other = deviceClass
          · simp_all
          · simp_all
        · simp_all
      · simp_all

/-- What the second phase leaves in the map and in the effects. -/
structure Started (world : World) (findOrphanedDevices : Bool) (index : Nat) (classes : List String)
    (map : List StartedDrivers) (result : List StartedDrivers × Bool × List Effect) : Prop where
  failed : result.2.1 = anyFails world findOrphanedDevices index classes
  starts : ∀ deviceClass, startsOf deviceClass result.2.2 =
    startsFor world findOrphanedDevices deviceClass index classes
  isStart : ∀ effect ∈ result.2.2, effect.isStart = true
  keyed : (map.map StartedDrivers.deviceClass).Nodup → (result.1.map StartedDrivers.deviceClass).Nodup
  found : ∀ deviceClass,
    (Cells.read StartedDrivers.deviceClass deviceClass result.1).map StartedDrivers.drivers =
      ((Cells.read StartedDrivers.deviceClass deviceClass map).map StartedDrivers.drivers).or
        (firstStartsFor world findOrphanedDevices deviceClass index classes)

theorem putStartedDrivers_found (map : List StartedDrivers) (entry : StartedDrivers) (deviceClass : String) :
    (Cells.read StartedDrivers.deviceClass deviceClass (putStartedDrivers map entry)).map
        StartedDrivers.drivers =
      ((Cells.read StartedDrivers.deviceClass deviceClass map).map StartedDrivers.drivers).or
        (if entry.deviceClass = deviceClass then some entry.drivers else none) := by
  unfold putStartedDrivers
  by_cases present : (Cells.read StartedDrivers.deviceClass entry.deviceClass map).isSome = true
  · rw [if_pos present]
    by_cases same : entry.deviceClass = deviceClass
    · rw [same] at present
      obtain ⟨old, known⟩ := Option.isSome_iff_exists.mp present
      rw [known]
      rfl
    · rw [if_neg same, Option.or_none]
  · rw [if_neg present, Cells.read_append_singleton]
    cases Cells.read StartedDrivers.deviceClass deviceClass map with
    | some old => rfl
    | none =>
        by_cases same : entry.deviceClass = deviceClass
        · simp [same]
        · simp [same]

theorem putStartedDrivers_keyed {map : List StartedDrivers} (entry : StartedDrivers)
    (keyed : (map.map StartedDrivers.deviceClass).Nodup) :
    ((putStartedDrivers map entry).map StartedDrivers.deviceClass).Nodup := by
  unfold putStartedDrivers
  split
  · exact keyed
  · rename_i absent
    apply Cells.nodup_append_fresh keyed
    exact Cells.read_eq_none.mp (by simpa using absent)

theorem startClasses_cons (index : Nat) (other : String) (rest : List String) (map : List StartedDrivers) :
    startClasses world findOrphanedDevices index (other :: rest) map =
      ((startClasses world findOrphanedDevices (index + 1) rest (putStartedDrivers map ⟨other,
          (startDriverDiscoveryForDeviceClass world index other findOrphanedDevices).1⟩)).1,
        ((startDriverDiscoveryForDeviceClass world index other findOrphanedDevices).2.1 ||
          (startClasses world findOrphanedDevices (index + 1) rest (putStartedDrivers map ⟨other,
            (startDriverDiscoveryForDeviceClass world index other findOrphanedDevices).1⟩)).2.1),
        (startDriverDiscoveryForDeviceClass world index other findOrphanedDevices).2.2 ++
          (startClasses world findOrphanedDevices (index + 1) rest (putStartedDrivers map ⟨other,
            (startDriverDiscoveryForDeviceClass world index other findOrphanedDevices).1⟩)).2.2) :=
  rfl

theorem startClasses_started (index : Nat) (classes : List String) (map : List StartedDrivers) :
    Started world findOrphanedDevices index classes map
      (startClasses world findOrphanedDevices index classes map) := by
  induction classes generalizing index map with
  | nil =>
      refine ⟨rfl, fun _ => rfl, ?_, id, ?_⟩
      · intro effect member
        contradiction
      · intro deviceClass
        rw [firstStartsFor, Option.or_none]
        rfl
  | cons other rest ih =>
      obtain ⟨drivers, failed⟩ :=
        @startDriverDiscoveryForDeviceClass_eq world findOrphanedDevices index other
      have later := ih (index + 1) (putStartedDrivers map ⟨other,
        (startDriverDiscoveryForDeviceClass world index other findOrphanedDevices).1⟩)
      rw [startClasses_cons]
      refine ⟨?_, ?_, ?_, ?_, ?_⟩
      · dsimp only
        rw [failed, later.failed]
        rfl
      · intro deviceClass
        dsimp only
        rw [startsOf_append, startDriverDiscoveryForDeviceClass_starts, later.starts]
        rfl
      · intro effect member
        rcases List.mem_append.mp member with now | after
        · exact startDriverDiscoveryForDeviceClass_isStart index other effect now
        · exact later.isStart effect after
      · intro keyed
        exact later.keyed (putStartedDrivers_keyed _ keyed)
      · intro deviceClass
        refine (later.found deviceClass).trans ?_
        rw [putStartedDrivers_found, firstStartsFor, Option.or_assoc, drivers]
        congr 1
        by_cases same : other = deviceClass
        · rw [if_pos same, if_pos same, Option.some_or]
        · rw [if_neg same, if_neg same, Option.none_or]

end Starting

section RollingBack
variable {world : World} {findOrphanedDevices : Bool}

theorem stopsOf_rollbackClass (deviceClass : String) (entry : StartedDrivers) :
    stopsOf deviceClass (rollbackClass findOrphanedDevices entry) =
      if entry.deviceClass = deviceClass then
        entry.drivers.filter fun driver => driver.stopDiscoveringDevices
      else [] := by
  unfold rollbackClass
  rw [stopsOf_append]
  unfold stopsOf
  rw [List.filterMap_map]
  by_cases same : entry.deviceClass = deviceClass
  · simp [same]
  · simp [same]

theorem startsOf_rollback (deviceClass : String) (map : List StartedDrivers) :
    startsOf deviceClass (rollbackFailedDiscovery map findOrphanedDevices) = [] := by
  unfold startsOf rollbackFailedDiscovery
  rw [List.filterMap_eq_nil_iff]
  intro effect member
  obtain ⟨entry, _, inside⟩ := List.mem_flatMap.mp member
  rcases List.mem_append.mp inside with stop | stopped
  · obtain ⟨driver, _, rfl⟩ := List.mem_map.mp stop
    rfl
  · rw [List.mem_singleton.mp stopped]

/-- The roll-back stops the drivers that the map holds. -/
theorem stopsOf_rollback {map : List StartedDrivers} (deviceClass : String)
    (keyed : (map.map StartedDrivers.deviceClass).Nodup) :
    stopsOf deviceClass (rollbackFailedDiscovery map findOrphanedDevices) =
      (((Cells.read StartedDrivers.deviceClass deviceClass map).map StartedDrivers.drivers).getD []).filter
        fun driver => driver.stopDiscoveringDevices := by
  have single : map.filter (fun entry => entry.deviceClass = deviceClass) =
      (Cells.read StartedDrivers.deviceClass deviceClass map).toList := Cells.filter_address keyed
  have kept : stopsOf deviceClass (rollbackFailedDiscovery map findOrphanedDevices) =
      (map.filter fun entry => entry.deviceClass = deviceClass).flatMap fun entry =>
        entry.drivers.filter fun driver => driver.stopDiscoveringDevices := by
    clear single keyed
    induction map with
    | nil => rfl
    | cons entry rest ih =>
        change stopsOf deviceClass (rollbackClass findOrphanedDevices entry ++
          rollbackFailedDiscovery rest findOrphanedDevices) = _
        rw [stopsOf_append, stopsOf_rollbackClass, ih]
        by_cases same : entry.deviceClass = deviceClass
        · simp [same]
        · simp [same]
  rw [kept, single]
  cases Cells.read StartedDrivers.deviceClass deviceClass map with
  | none => rfl
  | some entry => simp

/-- The starts of a class begin with those of its first position. -/
theorem startsFor_eq (deviceClass : String) (index : Nat) (classes : List String) :
    ∃ later, startsFor world findOrphanedDevices deviceClass index classes =
      (firstStartsFor world findOrphanedDevices deviceClass index classes).getD [] ++ later := by
  induction classes generalizing index with
  | nil => exact ⟨[], rfl⟩
  | cons other rest ih =>
      rw [startsFor, firstStartsFor]
      by_cases same : other = deviceClass
      · rw [if_pos same, if_pos same]
        exact ⟨_, rfl⟩
      · rw [if_neg same, if_neg same]
        exact ih (index + 1)

/-- Stops of some of the first drivers match all starts only if there are no other starts. -/
theorem count_eq_iff {first later : List DeviceDriver} {keep : DeviceDriver → Bool} :
    (∀ driver, (first ++ later).count driver = (first.filter keep).count driver) ↔
      first ++ later = first ∧ ∀ driver ∈ first ++ later, keep driver = true := by
  constructor
  · intro counts
    have lengths := (List.perm_iff_count.mpr counts).length_eq
    rw [List.length_append] at lengths
    have shorter := List.length_filter_le keep first
    have none : later = [] := List.eq_nil_of_length_eq_zero (by omega)
    subst none
    rw [List.append_nil]
    refine ⟨rfl, ?_⟩
    exact List.length_filter_eq_length_iff.mp (by simpa using lengths.symm)
  · rintro ⟨same, kept⟩ driver
    rw [same] at kept ⊢
    rw [List.filter_eq_self.mpr kept]

end RollingBack

section Monitoring
variable {world : World} {findOrphanedDevices : Bool}

/-- Only classes without an active discovery are started. -/
theorem newDeviceClassDiscoveries_fresh {active : List DiscoverDeviceClassContext} {index : Nat}
    {deviceClasses classes : List String}
    (validated : newDeviceClassDiscoveries world active findOrphanedDevices index deviceClasses =
      some classes) :
    ∀ deviceClass ∈ classes,
      Cells.read DiscoverDeviceClassContext.deviceClass deviceClass active = none := by
  induction deviceClasses generalizing index classes with
  | nil =>
      cases validated
      intro deviceClass member
      contradiction
  | cons first rest ih =>
      unfold newDeviceClassDiscoveries at validated
      split at validated
      · exact ih validated
      · rename_i absent
        dsimp only at validated
        split at validated
        · obtain ⟨others, found, rfl⟩ := Option.map_eq_some_iff.mp validated
          intro deviceClass member
          rcases List.mem_cons.mp member with rfl | later
          · simpa using absent
          · exact ih found deviceClass later
        · contradiction

theorem putActiveDiscovery_read (active : List DiscoverDeviceClassContext)
    (context : DiscoverDeviceClassContext) (deviceClass : String) :
    Cells.read DiscoverDeviceClassContext.deviceClass deviceClass (putActiveDiscovery active context) =
      (Cells.read DiscoverDeviceClassContext.deviceClass deviceClass active).or
        (if context.deviceClass = deviceClass then some context else none) := by
  unfold putActiveDiscovery
  split
  · rename_i present
    by_cases same : context.deviceClass = deviceClass
    · rw [same] at present
      obtain ⟨old, known⟩ := Option.isSome_iff_exists.mp present
      rw [known]
      rfl
    · rw [if_neg same, Option.or_none]
  · exact Cells.read_append_singleton context

/-- A discovery that was not active gets the first context of its class. -/
theorem foldl_putActiveDiscovery_read (contexts active : List DiscoverDeviceClassContext) (deviceClass : String) :
    Cells.read DiscoverDeviceClassContext.deviceClass deviceClass
        (contexts.foldl putActiveDiscovery active) =
      (Cells.read DiscoverDeviceClassContext.deviceClass deviceClass active).or
        (Cells.read DiscoverDeviceClassContext.deviceClass deviceClass contexts) := by
  induction contexts generalizing active with
  | nil => simp [Cells.read]
  | cons context rest ih =>
      rw [List.foldl_cons, ih, putActiveDiscovery_read, Option.or_assoc]
      congr 1
      unfold Cells.read
      by_cases same : context.deviceClass = deviceClass
      · rw [if_pos same, List.find?_cons_of_pos (by simpa using same), Option.some_or]
      · rw [if_neg same, List.find?_cons_of_neg (by simpa using same), Option.none_or]

theorem monitorsOf_monitors (deviceClass : String) (contexts : List DiscoverDeviceClassContext) :
    monitorsOf deviceClass (contexts.map .monitor) =
      contexts.filter fun context => context.deviceClass = deviceClass := by
  unfold monitorsOf
  rw [List.filterMap_map, ← List.filterMap_eq_filter]
  congr 1
  funext context
  by_cases same : context.deviceClass = deviceClass
  · simp [same]
  · simp [same, Option.guard]

theorem startsOf_monitors (deviceClass : String) (contexts : List DiscoverDeviceClassContext) :
    startsOf deviceClass (contexts.map .monitor) = [] := by
  unfold startsOf
  rw [List.filterMap_map, List.filterMap_eq_nil_iff]
  intro context _
  rfl

/-- The monitors of a class are as many as its positions in the list of new classes. -/
theorem filter_contexts (request : Request) (map : List StartedDrivers) (deviceClass : String)
    (classes : List String) :
    (classes.map (startDiscoveryMonitorForDeviceClass request map)).filter
        (fun context => context.deviceClass = deviceClass) =
      List.replicate (classes.count deviceClass)
        (startDiscoveryMonitorForDeviceClass request map deviceClass) := by
  rw [List.filter_map]
  have same : classes.filter ((fun context : DiscoverDeviceClassContext =>
      decide (context.deviceClass = deviceClass)) ∘ startDiscoveryMonitorForDeviceClass request map) =
      List.replicate (classes.count deviceClass) deviceClass := by
    rw [← List.filter_beq]
    apply List.filter_congr
    intro other _
    change decide (other = deviceClass) = (other == deviceClass)
    rw [beq_eq_decide]
  rw [same, List.map_replicate]

end Monitoring

section AllOrNothing
variable {world : World} {discovery : Discovery} {request : Request}
  {classes : List String} {findOrphanedDevices : Bool} {deviceClass : String}

/-- A call that starts no driver changes nothing. -/
theorem AllOrNothing.refused {after : Discovery} (same : after.activeDiscoveries = discovery.activeDiscoveries) :
    AllOrNothing discovery after false [] := by
  refine ⟨fun wrong => by contradiction, fun _ => ⟨same, ?_⟩⟩
  intro deviceClass driver
  rfl

/-- The roll-back undoes every start if and only if the classes are orderly. -/
theorem rolledBack_iff {after : Discovery} {started : Effect}
    (same : after.activeDiscoveries = discovery.activeDiscoveries)
    (silent : ∀ deviceClass, startsOf deviceClass [started] = [] ∧ stopsOf deviceClass [started] = [])
    (fails : anyFails world request.findOrphanedDevices 0 classes = true) :
    AllOrNothing discovery after false (started ::
        (startClasses world request.findOrphanedDevices 0 classes []).2.2 ++
          rollbackFailedDiscovery (startClasses world request.findOrphanedDevices 0 classes []).1
            request.findOrphanedDevices) ↔
      Orderly world request.findOrphanedDevices classes := by
  have phase := @startClasses_started world request.findOrphanedDevices 0 classes []
  generalize startClasses world request.findOrphanedDevices 0 classes [] = result at phase ⊢
  have starts (deviceClass : String) : startsOf deviceClass (started :: result.2.2 ++
      rollbackFailedDiscovery result.1 request.findOrphanedDevices) =
      startsFor world request.findOrphanedDevices deviceClass 0 classes := by
    rw [← List.singleton_append, startsOf_append, startsOf_append, (silent deviceClass).1,
      startsOf_rollback, phase.starts, List.append_nil, List.nil_append]
  have stops (deviceClass : String) : stopsOf deviceClass (started :: result.2.2 ++
      rollbackFailedDiscovery result.1 request.findOrphanedDevices) =
      ((firstStartsFor world request.findOrphanedDevices deviceClass 0 classes).getD []).filter
        fun driver => driver.stopDiscoveringDevices := by
    rw [← List.singleton_append, stopsOf_append, stopsOf_append, (silent deviceClass).2,
      stopsOf_starts phase.isStart, stopsOf_rollback deviceClass (phase.keyed List.nodup_nil),
      phase.found]
    rfl
  have matched (deviceClass : String) := @startsFor_eq world request.findOrphanedDevices deviceClass 0 classes
  unfold Orderly
  rw [if_pos fails]
  constructor
  · intro undone deviceClass
    have counts := (undone.failure rfl).2 deviceClass
    obtain ⟨later, split⟩ := matched deviceClass
    rw [starts, stops, split] at counts
    rw [split]
    exact count_eq_iff.mp counts
  · intro orderly
    refine ⟨fun wrong => by contradiction, fun _ => ⟨same, ?_⟩⟩
    intro deviceClass
    obtain ⟨later, split⟩ := matched deviceClass
    have kept := orderly deviceClass
    rw [split] at kept
    rw [starts, stops, split]
    exact count_eq_iff.mpr kept

theorem startsFor_of_not_mem {index : Nat} (absent : deviceClass ∉ classes) :
    startsFor world findOrphanedDevices deviceClass index classes = [] := by
  induction classes generalizing index with
  | nil => rfl
  | cons other rest ih =>
      rw [List.mem_cons, not_or] at absent
      rw [startsFor, if_neg (Ne.symm absent.1), ih absent.2]
      rfl

/-- A class that is named once has no later starts. -/
theorem startsFor_of_nodup {index : Nat} (once : classes.Nodup) :
    startsFor world findOrphanedDevices deviceClass index classes =
      (firstStartsFor world findOrphanedDevices deviceClass index classes).getD [] := by
  induction classes generalizing index with
  | nil => rfl
  | cons other rest ih =>
      rw [List.nodup_cons] at once
      rw [startsFor, firstStartsFor]
      by_cases same : other = deviceClass
      · subst same
        rw [if_pos rfl, if_pos rfl, startsFor_of_not_mem once.1, List.append_nil]
        rfl
      · rw [if_neg same, if_neg same]
        exact ih once.2

theorem firstStartsFor_nodup {index : Nat}
    :
    ((firstStartsFor world findOrphanedDevices deviceClass index classes).getD []).Nodup := by
  induction classes generalizing index with
  | nil => exact List.nodup_nil
  | cons other rest ih =>
      rw [firstStartsFor]
      by_cases same : other = deviceClass
      · rw [if_pos same]
        apply List.Nodup.filter
        cases known : world.driversByDeviceClass other with
        | none => exact List.nodup_nil
        | some drivers => exact world.distinct other drivers known
      · rw [if_neg same]
        exact ih

/-- Every new class has one monitor if and only if no class is named twice. -/
theorem monitored_iff {started : Effect}
    (silent : ∀ deviceClass, startsOf deviceClass [started] = [] ∧ monitorsOf deviceClass [started] = [])
    (fresh : ∀ deviceClass ∈ classes, Cells.read DiscoverDeviceClassContext.deviceClass deviceClass
      discovery.activeDiscoveries = none)
    (works : anyFails world request.findOrphanedDevices 0 classes = false) :
    AllOrNothing discovery
        { discovery with
          discoveryTimeoutSeconds := request.timeoutSeconds
          activeDiscoveries := (startDiscoveryMonitors request
            (startClasses world request.findOrphanedDevices 0 classes []).1 classes
            discovery.activeDiscoveries).1 } true
        (started :: (startClasses world request.findOrphanedDevices 0 classes []).2.2 ++
          (startDiscoveryMonitors request (startClasses world request.findOrphanedDevices 0 classes []).1
            classes discovery.activeDiscoveries).2) ↔
      Orderly world request.findOrphanedDevices classes := by
  have phase := @startClasses_started world request.findOrphanedDevices 0 classes []
  generalize startClasses world request.findOrphanedDevices 0 classes [] = result at phase ⊢
  unfold startDiscoveryMonitors
  have monitors (deviceClass : String) : monitorsOf deviceClass (started :: result.2.2 ++
      (classes.map (startDiscoveryMonitorForDeviceClass request result.1)).map .monitor) =
      List.replicate (classes.count deviceClass)
        (startDiscoveryMonitorForDeviceClass request result.1 deviceClass) := by
    rw [← List.singleton_append, monitorsOf_append, monitorsOf_append, (silent deviceClass).2,
      monitorsOf_starts phase.isStart, monitorsOf_monitors, filter_contexts]
    rfl
  have starts (deviceClass : String) : startsOf deviceClass (started :: result.2.2 ++
      (classes.map (startDiscoveryMonitorForDeviceClass request result.1)).map .monitor) =
      startsFor world request.findOrphanedDevices deviceClass 0 classes := by
    rw [← List.singleton_append, startsOf_append, startsOf_append, (silent deviceClass).1,
      startsOf_monitors, phase.starts, List.append_nil, List.nil_append]
  have owned (deviceClass : String) :
      (startDiscoveryMonitorForDeviceClass request result.1 deviceClass).startedDrivers =
        (firstStartsFor world request.findOrphanedDevices deviceClass 0 classes).getD [] := by
    change ((Cells.read StartedDrivers.deviceClass deviceClass result.1).map StartedDrivers.drivers).getD [] = _
    rw [phase.found]
    rfl
  have added {deviceClass : String} (member : deviceClass ∈ classes) :
      ∃ context, Cells.read DiscoverDeviceClassContext.deviceClass deviceClass
        ((classes.map (startDiscoveryMonitorForDeviceClass request result.1)).foldl putActiveDiscovery
          discovery.activeDiscoveries) = some context := by
    rw [foldl_putActiveDiscovery_read, fresh deviceClass member, Option.none_or,
      ← Option.isSome_iff_exists, Option.isSome_iff_ne_none]
    intro missing
    exact Cells.read_eq_none.mp missing _ (List.mem_map_of_mem member) rfl
  unfold Orderly
  rw [if_neg (by simp [works])]
  constructor
  · intro kept
    rw [List.nodup_iff_count_le_one]
    intro deviceClass
    by_cases member : deviceClass ∈ classes
    · obtain ⟨context, found⟩ := added member
      have single := (kept.success rfl deviceClass context (fresh deviceClass member) found).1
      dsimp only at single
      rw [monitors] at single
      have length := congrArg List.length single
      rw [List.length_replicate] at length
      exact length.le
    · rw [List.count_eq_zero_of_not_mem member]
      exact Nat.zero_le 1
  · intro once
    refine ⟨fun _ => ?_, fun wrong => by contradiction⟩
    intro deviceClass context absent found
    dsimp only at found ⊢
    rw [foldl_putActiveDiscovery_read, absent, Option.none_or] at found
    have member := Cells.read_mem found
    have named := Cells.read_address found
    obtain ⟨other, inside, rfl⟩ := List.mem_map.mp member
    obtain rfl : other = deviceClass := named
    rw [monitors, starts, owned, startsFor_of_nodup once,
      List.count_eq_one_of_mem once inside]
    exact ⟨rfl, rfl, firstStartsFor_nodup⟩

end AllOrNothing

/-- The start of a discovery is all or nothing if and only if the classes that pass the validation are
orderly. -/
theorem deviceServiceDiscoverStart_allOrNothing_iff (world : World) (discovery : Discovery) (request : Request) :
    AllOrNothing discovery (deviceServiceDiscoverStart world discovery request).2.1
        (deviceServiceDiscoverStart world discovery request).1
        (deviceServiceDiscoverStart world discovery request).2.2 ↔
      ∀ deviceClasses classes, request.deviceClasses = some deviceClasses →
        newDeviceClassDiscoveries world discovery.activeDiscoveries request.findOrphanedDevices 0
          deviceClasses = some classes →
        Orderly world request.findOrphanedDevices classes := by
  cases given : request.deviceClasses with
  | none =>
      unfold deviceServiceDiscoverStart
      rw [given]
      exact iff_of_true (.refused rfl) fun _ _ wrong => by contradiction
  | some deviceClasses =>
      have reduced (property : List String → Prop) :
          (∀ others classes, some deviceClasses = some others →
            newDeviceClassDiscoveries world discovery.activeDiscoveries request.findOrphanedDevices 0
              others = some classes → property classes) ↔
          ∀ classes, newDeviceClassDiscoveries world discovery.activeDiscoveries
            request.findOrphanedDevices 0 deviceClasses = some classes → property classes := by
        constructor
        · intro all classes
          exact all deviceClasses classes rfl
        · rintro all others classes same
          cases same
          exact all classes
      rw [reduced]
      unfold deviceServiceDiscoverStart
      rw [given]
      dsimp only
      cases validated : newDeviceClassDiscoveries world discovery.activeDiscoveries
          request.findOrphanedDevices 0 deviceClasses with
      | none => exact iff_of_true (.refused rfl) fun _ wrong => by contradiction
      | some classes =>
          have single (property : List String → Prop) :
              (∀ others, some classes = some others → property others) ↔ property classes := by
            simp
          rw [single]
          cases classes with
          | nil => exact iff_of_true (.refused rfl) List.nodup_nil
          | cons first rest =>
              have phase := @startClasses_started world request.findOrphanedDevices 0 (first :: rest) []
              dsimp only
              by_cases fails : anyFails world request.findOrphanedDevices 0 (first :: rest) = true
              · rw [if_pos (phase.failed.trans fails)]
                refine rolledBack_iff ?_ ?_ fails
                · rfl
                · intro deviceClass
                  exact ⟨rfl, rfl⟩
              · have works := Bool.eq_false_iff.mpr fails
                rw [if_neg (by simp [phase.failed, works])]
                refine monitored_iff ?_ (newDeviceClassDiscoveries_fresh validated) works
                intro deviceClass
                exact ⟨rfl, rfl⟩

section Sample

/-- A driver that supports every function. -/
def sampleDriver : DeviceDriver := ⟨"zigbeeLight", false, true, true, true⟩

/-- The driver of the class "light" starts, and the driver of every other class fails. -/
def sampleWorld : World where
  driversByDeviceClass := fun deviceClass =>
    if deviceClass = "light" then some [sampleDriver]
    else some [⟨"zigbeeSensor", false, true, true, true⟩]
  readyForDeviceOperation := fun _ => true
  descriptorsReady := fun _ => true
  descriptorsReadyFor := fun _ _ => true
  starts := fun _ driver => decide (driver = sampleDriver)
  distinct := by
    intro deviceClass drivers known
    split at known
    · cases known
      exact List.nodup_singleton _
    · cases known
      exact List.nodup_singleton _

end Sample

/-- The start of a discovery on these classes is all or nothing. -/
def SampleAllOrNothing (deviceClasses : List String) : Prop :=
  AllOrNothing ⟨[], 0⟩
    (deviceServiceDiscoverStart sampleWorld ⟨[], 0⟩ ⟨some deviceClasses, none, 60, false⟩).2.1
    (deviceServiceDiscoverStart sampleWorld ⟨[], 0⟩ ⟨some deviceClasses, none, 60, false⟩).1
    (deviceServiceDiscoverStart sampleWorld ⟨[], 0⟩ ⟨some deviceClasses, none, 60, false⟩).2.2

/-- A class that is named twice gets two monitors, and a roll-back stops its driver once for two starts. -/
theorem not_deviceServiceDiscoverStart_allOrNothing :
    ¬SampleAllOrNothing ["light", "light"] ∧ ¬SampleAllOrNothing ["light", "light", "sensor"] := by
  constructor
  · intro kept
    have single := (kept.success (by decide) "light"
      ⟨"light", 60, false, none, [sampleDriver]⟩ (by decide) (by decide)).1
    exact absurd single (by decide)
  · intro kept
    have counts := (kept.failure (by decide)).2 "light" sampleDriver
    exact absurd counts (by decide)

end Barton.DeviceService
