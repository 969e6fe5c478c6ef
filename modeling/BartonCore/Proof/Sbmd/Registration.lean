import BartonCore.ToMathlib.Traversals
import BartonCore.Construction.Sbmd.Registration
import BartonCore.Proof.Sbmd.Invocations

namespace Barton.Registration
open Database Endpoints Invocations Traversals
open Inheritance (resourceModeExecutable)
open PersistentData (ResultOp)
open Resources (resourceModeEmitEvents)
open UriPatterns (resourceModeWriteable)

section Modes

/-- These are the modes that a resource can declare. -/
def knownModes : List String :=
  ["read", "write", "execute", "dynamic", "emitEvents", "static", "noEvents", "lazySaveNext", "sensitive", "volatile"]

/-- A mode contributes its bits or no bits. -/
def bits (present : Bool) (mode : UInt8) : UInt8 := if present then mode else 0

/-- The access bits follow from the set of declared modes. -/
def accessBits (declares : String → Bool) : UInt8 :=
  bits (declares "read") resourceModeReadable ||| bits (declares "write") resourceModeWriteable |||
    bits (declares "execute") resourceModeExecutable |||
    bits (!declares "static") (resourceModeDynamic ||| resourceModeDynamicCapable) |||
    bits (!declares "noEvents") resourceModeEmitEvents ||| bits (declares "lazySaveNext") resourceModeLazySaveNext |||
    bits (declares "sensitive") resourceModeSensitive

/-- One more known mode declares itself. The ten modes touch different bits, in every state of the other bits. -/
theorem convertMode_accessBits (declares : String → Bool) (mode : String) :
    convertMode (accessBits declares) mode =
      if mode ∈ knownModes then some (accessBits fun other => declares other || other == mode) else none := by
  by_cases known : mode ∈ knownModes
  · rw [if_pos known]
    simp only [knownModes, List.mem_cons, List.not_mem_nil, or_false] at known
    rcases known with rfl | rfl | rfl | rfl | rfl | rfl | rfl | rfl | rfl | rfl <;>
      simp [convertMode, accessBits] <;>
      generalize declares "read" = readable, declares "write" = writeable, declares "execute" = executable,
        declares "static" = fixed, declares "noEvents" = silent, declares "lazySaveNext" = delayed,
        declares "sensitive" = secret <;>
      decide +revert +kernel
  · rw [if_neg known]
    simp only [knownModes, List.mem_cons, List.not_mem_nil, or_false, not_or] at known
    simp [convertMode, known]

theorem foldlM_convertMode (declares : String → Bool) (modes : List String) :
    modes.foldlM convertMode (accessBits declares) =
      if ∀ mode ∈ modes, mode ∈ knownModes then
        some (accessBits fun other => declares other || decide (other ∈ modes))
      else none := by
  induction modes generalizing declares with
  | nil => simp
  | cons mode rest ih =>
      rw [List.foldlM_cons, convertMode_accessBits]
      by_cases known : mode ∈ knownModes
      · rw [if_pos known]
        refine (ih _).trans ?_
        simp [known, Bool.or_assoc, beq_eq_decide]
      · simp [known]

/-- The order and the number of the modes do not matter. -/
theorem convertModesToBitmask_eq (modes : List String) :
    convertModesToBitmask modes =
      if ∀ mode ∈ modes, mode ∈ knownModes then some (accessBits (· ∈ modes)) else none := by
  refine (foldlM_convertMode (fun _ => false) modes).trans ?_
  simp

/-- An execute handler counts as the mode `execute`. -/
def accessMode (resource : SbmdResource) : Option UInt8 :=
  if ∀ mode ∈ resource.modes, mode ∈ knownModes then
    some (accessBits fun mode => decide (mode ∈ resource.modes) || (resource.execute.isSome && mode == "execute"))
  else none

theorem accessMode_eq (resource : SbmdResource) :
    accessMode resource = (convertModesToBitmask resource.modes).map fun bitmask =>
      if resource.execute.isSome then bitmask ||| resourceModeExecutable else bitmask := by
  rw [convertModesToBitmask_eq, accessMode]
  by_cases known : ∀ mode ∈ resource.modes, mode ∈ knownModes
  · rw [if_pos known, if_pos known, Option.map_some]
    cases resource.execute with
    | none => simp
    | some execute =>
        have executable := convertMode_accessBits (· ∈ resource.modes) "execute"
        rw [if_pos (by decide)] at executable
        simpa [convertMode] using executable.symm
  · rw [if_neg known, if_neg known]
    rfl

/-- A dynamic resource already has the bit that its creation adds. -/
theorem accessBits_capable (declares : String → Bool) :
    (if accessBits declares &&& resourceModeDynamic ≠ 0 then accessBits declares ||| resourceModeDynamicCapable
      else accessBits declares) = accessBits declares := by
  unfold accessBits
  generalize declares "read" = readable, declares "write" = writeable, declares "execute" = executable,
    declares "static" = fixed, declares "noEvents" = silent, declares "lazySaveNext" = delayed,
    declares "sensitive" = secret
  decide +revert +kernel

theorem accessMode_capable {resource : SbmdResource} {mode : UInt8} (known : accessMode resource = some mode) :
    (if mode &&& resourceModeDynamic ≠ 0 then mode ||| resourceModeDynamicCapable else mode) = mode := by
  unfold accessMode at known
  split at known
  · cases known
    exact accessBits_capable _
  · cases known

end Modes

section Checks

/-- A driver declares resources on endpoints. -/
abbrev Declared := SbmdEndpoint × SbmdResource

def Declared.key (entry : Declared) : String := resourceKey entry.1.id entry.2.id

def SbmdDriver.declared (driver : SbmdDriver) : List Declared :=
  driver.endpoints.flatMap fun endpoint => endpoint.resources.map fun resource => (endpoint, resource)

def Declared.Met (device : MatterDevice) (entry : Declared) : Prop :=
  Prerequisites.checkPrerequisites entry.2.toSbmdResource device = true

instance (device : MatterDevice) (entry : Declared) : Decidable (entry.Met device) :=
  inferInstanceAs (Decidable (_ = _))

/-- Some optional resource with this key does not meet its prerequisites. -/
def Skips (device : MatterDevice) (entries : List Declared) (key : String) : Prop :=
  ∃ entry ∈ entries, entry.2.optional = true ∧ ¬entry.Met device ∧ entry.key = key

instance (device : MatterDevice) (entries : List Declared) (key : String) : Decidable (Skips device entries key) :=
  inferInstanceAs (Decidable (∃ _ ∈ _, _))

/-- A check that succeeds has met the required resources and has recorded the optional ones that are not met. -/
structure Checked (device : MatterDevice) (entries : List Declared) (before after : Option (List String)) : Prop where
  required : ∀ entry ∈ entries, entry.2.optional = false → entry.Met device
  skipped : ∀ key, key ∈ after.getD [] ↔ key ∈ before.getD [] ∨ Skips device entries key

variable {device : MatterDevice} {before : Option (List String)}

theorem Checked.nil (skipped : Option (List String)) : Checked device [] skipped skipped where
  required := nofun
  skipped := by simp [Skips]

theorem Checked.append {first second : List Declared} {before middle after : Option (List String)}
    (begun : Checked device first before middle) (rest : Checked device second middle after) :
    Checked device (first ++ second) before after where
  required := by
    intro entry member
    rcases List.mem_append.mp member with early | late
    · exact begun.required entry early
    · exact rest.required entry late
  skipped := by
    intro key
    rw [rest.skipped, begun.skipped]
    simp only [Skips, List.mem_append, or_and_right, exists_or, or_assoc]

theorem checkResource_checked {endpoint : SbmdEndpoint} {resource : SbmdResource}
    (met : (checkResource device endpoint.id resource before).1 = true) :
    Checked device [(endpoint, resource)] before (checkResource device endpoint.id resource before).2 := by
  unfold checkResource at met ⊢
  by_cases checks : Prerequisites.checkPrerequisites resource.toSbmdResource device = true
  · rw [if_pos checks]
    refine ⟨?_, ?_⟩
    · intro entry member _
      rw [List.mem_singleton.mp member]
      exact checks
    · intro key
      simp [Skips, Declared.Met, checks]
  · rw [if_neg checks] at met ⊢
    by_cases optional : resource.optional = true
    · rw [if_pos optional]
      refine ⟨?_, ?_⟩
      · intro entry member required
        rw [List.mem_singleton.mp member, optional] at required
        cases required
      · intro key
        rw [Option.getD_some, List.mem_insert_iff, or_comm, eq_comm]
        simp [Skips, Declared.Met, Declared.key, checks, optional]
    · rw [if_neg optional] at met
      cases met

theorem checkResources_checked {endpoint : SbmdEndpoint} {resources : List SbmdResource}
    (met : (checkResources device endpoint.id resources before).1 = true) :
    Checked device (resources.map fun resource => (endpoint, resource)) before
      (checkResources device endpoint.id resources before).2 := by
  induction resources generalizing before with
  | nil => exact .nil before
  | cons resource rest ih =>
      rw [checkResources] at met ⊢
      by_cases first : (checkResource device endpoint.id resource before).1 = true
      · simp only [first, if_true] at met ⊢
        exact (checkResource_checked first).append (ih met)
      · simp only [first] at met
        cases met

theorem checkEndpoints_checked {endpoints : List SbmdEndpoint}
    (met : (checkEndpoints device endpoints before).1 = true) :
    Checked device (endpoints.flatMap fun endpoint => endpoint.resources.map fun resource => (endpoint, resource)) before
      (checkEndpoints device endpoints before).2 := by
  induction endpoints generalizing before with
  | nil => exact .nil before
  | cons endpoint rest ih =>
      rw [checkEndpoints] at met ⊢
      by_cases first : (checkResources device endpoint.id endpoint.resources before).1 = true
      · simp only [first, if_true] at met ⊢
        exact (checkResources_checked first).append (ih met)
      · simp only [first] at met
        cases met

end Checks

section Histories
variable {driver : SbmdDriver} {uuid other : String}

theorem addDevice_other (different : other ≠ uuid) (device : MatterDevice) (state : Devices) :
    (addDevice driver uuid device state).2.skippedOptionalResources other = state.skippedOptionalResources other := by
  unfold addDevice
  dsimp only
  split
  · split
    · split
      · exact Function.update_of_ne different _ _
      · exact Function.update_of_ne different _ _
    · exact Function.update_of_ne different _ _
  · rfl

theorem addDeviceIfRequired_other (different : other ≠ uuid) (cache : Option DeviceDataCache) (state : Devices) :
    (addDeviceIfRequired driver uuid cache state).2.skippedOptionalResources other =
      state.skippedOptionalResources other := by
  unfold addDeviceIfRequired
  cases state.devices uuid with
  | some device => rfl
  | none =>
      cases cache with
      | none => rfl
      | some cache => exact addDevice_other different _ state

theorem doConfigureDevice_other (different : other ≠ uuid) (state : Devices) :
    (doConfigureDevice driver uuid state).2.skippedOptionalResources other = state.skippedOptionalResources other := by
  unfold doConfigureDevice
  cases state.devices uuid with
  | none => rfl
  | some device =>
      dsimp only
      split
      · exact Function.update_of_ne different _ _
      · rfl

theorem configureDevice_other (different : other ≠ uuid) (connection : Connection) (state : Devices) :
    (configureDevice driver uuid connection state).2.skippedOptionalResources other =
      state.skippedOptionalResources other := by
  unfold configureDevice
  dsimp only
  split
  · exact (doConfigureDevice_other different _).trans (addDeviceIfRequired_other different _ _)
  · exact addDeviceIfRequired_other different _ _

/-- These steps check the prerequisites of the device. -/
def Step.Checks (uuid : String) : Step → Prop
  | .add other _ => other = uuid
  | .configure other _ => other = uuid
  | .synchronize other _ => other = uuid
  | .report _ _ => False
  | .remove _ => False
  | .shutdown => False

theorem step_other {uuid : String} {input : Step} (elsewhere : ¬input.Checks uuid) (state : Devices) :
    (step driver state input).skippedOptionalResources uuid = state.skippedOptionalResources uuid := by
  cases input with
  | add other device => exact addDevice_other (Ne.symm elsewhere) device state
  | configure other connection => exact configureDevice_other (Ne.symm elsewhere) connection state
  | synchronize other cache => exact addDeviceIfRequired_other (Ne.symm elsewhere) cache state
  | report | remove | shutdown => rfl

theorem run_other {uuid : String} {steps : List Step} (elsewhere : ∀ input ∈ steps, ¬input.Checks uuid)
    (state : Devices) :
    (run driver state steps).skippedOptionalResources uuid = state.skippedOptionalResources uuid := by
  induction steps generalizing state with
  | nil => rfl
  | cons input rest ih =>
      refine (ih (fun other inside => elsewhere other (List.mem_cons_of_mem _ inside)) _).trans ?_
      exact step_other (elsewhere input List.mem_cons_self) state

theorem doConfigureDevice_checked {uuid : String} {state : Devices}
    (configured : (doConfigureDevice driver uuid state).1 = true) :
    ∃ device, (doConfigureDevice driver uuid state).2.devices uuid = some device ∧
      Checked device driver.declared none ((doConfigureDevice driver uuid state).2.skippedOptionalResources uuid) := by
  unfold doConfigureDevice at configured ⊢
  cases known : state.devices uuid with
  | none =>
      rw [known] at configured
      cases configured
  | some old =>
      simp only [known] at configured ⊢
      by_cases resolved : (old.resolveEndpointMap driver.deviceTypes).1 = true
      · simp only [resolved, if_true] at configured ⊢
        refine ⟨(old.resolveEndpointMap driver.deviceTypes).2, Function.update_self _ _ _, ?_⟩
        rw [Function.update_self]
        exact checkEndpoints_checked configured
      · simp only [resolved] at configured
        cases configured

/-- A configuration that succeeds has checked all resources anew, whatever an earlier check has left. -/
theorem configureDevice_checked {uuid : String} {connection : Connection} {state : Devices}
    (configured : (configureDevice driver uuid connection state).1 = true) :
    ∃ device, (configureDevice driver uuid connection state).2.devices uuid = some device ∧
      Checked device driver.declared none
        ((configureDevice driver uuid connection state).2.skippedOptionalResources uuid) := by
  unfold configureDevice at configured ⊢
  by_cases ready : ((addDeviceIfRequired driver uuid connection.cache state).1 && connection.connected) = true
  · simp only [ready, if_true, Bool.and_eq_true] at configured ⊢
    exact doConfigureDevice_checked configured.1
  · simp only [ready] at configured
    cases configured

end Histories

section Outcomes
variable (environment : Environment) (driver : SbmdDriver) (uuid : String) (prefetched : Bool)

/-- The driver invokes the seed handlers of the resources whose modes are known. -/
def seedDeclared (world : World) (entry : Declared) : World × String :=
  if (accessMode entry.2).isSome then
    invokeSeedHandler environment driver uuid prefetched entry.1.id entry.2 world
  else (world, "")

def seededWorld (world : World) (entry : Declared) : World :=
  (seedDeclared environment driver uuid prefetched world entry).1

/-- A volatile resource and one with a read handler are not cached. -/
def resourceRecord (entry : Declared) (mode : UInt8) (seedValue : String) : DeviceResource where
  id := some entry.2.id
  uri := none
  endpointId := some entry.1.id
  deviceUuid := some uuid
  value := if seedValue = "" then none else some seedValue
  type := some entry.2.type
  mode := mode
  cachingPolicy :=
    if entry.2.read.isSome || entry.2.modes.contains "volatile" then cachingPolicyNever else cachingPolicyAlways
  dateOfLastSyncMillis := 0

/-- A resource needs a mode that is not zero. Its value comes from its seed handler. -/
def createdResource (world : World) (entry : Declared) : Option DeviceResource :=
  (accessMode entry.2).bind fun mode =>
    if mode = 0 then none
    else some (resourceRecord uuid entry mode (seedDeclared environment driver uuid prefetched world entry).2)

/-- These resources are created when the declared ones are met in order. -/
def createdResources (world : World) (entries : List Declared) : List DeviceResource :=
  outputs (seededWorld environment driver uuid prefetched) (createdResource environment driver uuid prefetched) world
    entries

/-- An endpoint gets its own resources. -/
def createdEndpoint (resources : List DeviceResource) (endpoint : SbmdEndpoint) : DeviceEndpoint where
  id := some endpoint.id
  uri := none
  profile := some endpoint.profile
  profileVersion := endpoint.profileVersion.toUInt8
  deviceUuid := some uuid
  enabled := true
  resources := resources.filter fun resource => resource.endpointId = some endpoint.id
  metadata := []

/-- The mode of a resource is known and not zero. -/
def Declared.Creatable (entry : Declared) : Prop := ∃ mode, accessMode entry.2 = some mode ∧ mode ≠ 0

end Outcomes

section Loops
variable {environment : Environment} {driver : SbmdDriver} {uuid : String} {prefetched : Bool}

theorem createdResources_endpointId {world : World} {entries : List Declared} {resource : DeviceResource}
    (member : resource ∈ createdResources environment driver uuid prefetched world entries) :
    ∃ entry ∈ entries, resource.endpointId = some entry.1.id := by
  obtain ⟨state, entry, inside, created⟩ := mem_outputs member
  refine ⟨entry, inside, ?_⟩
  obtain ⟨mode, _, rest⟩ := Option.bind_eq_some_iff.mp created
  by_cases zero : mode = 0
  · rw [if_pos zero] at rest
    cases rest
  · rw [if_neg zero] at rest
    cases rest
    rfl

/-- The endpoints stand in the order of their first resources. -/
def addEndpoint (order : List SbmdEndpoint) (endpoint : SbmdEndpoint) : List SbmdEndpoint :=
  if order.any fun other => other.id = endpoint.id then order else order ++ [endpoint]

variable (environment driver uuid prefetched) in
/-- The loops have treated these entries and have created these endpoints. -/
structure Holds (start : DeviceRecord) (world : World) (order : List SbmdEndpoint) (entries : List Declared)
    (registering : Registering) : Prop where
  device : registering.device = { start with
    endpoints := start.endpoints ++
      order.map (createdEndpoint uuid (createdResources environment driver uuid prefetched world entries)) }
  positions : ∀ id, registering.icEndpoints id =
    (order.findIdx? fun endpoint => endpoint.id = id).map (start.endpoints.length + ·)
  world : registering.world = entries.foldl (seededWorld environment driver uuid prefetched) world
  result : registering.result = true ↔ ∀ entry ∈ entries, entry.Creatable
  covered : ∀ entry ∈ entries, ∃ endpoint ∈ order, endpoint.id = entry.1.id
  distinct : (order.map SbmdEndpoint.id).Nodup

variable {start : DeviceRecord} {world : World} {order : List SbmdEndpoint} {entries : List Declared}
  {registering : Registering} {endpoint : SbmdEndpoint}

theorem holds_start (device : DeviceRecord) (world : World) :
    Holds environment driver uuid prefetched device world [] [] ⟨true, device, fun _ => none, world⟩ where
  device := by simp
  positions := fun _ => rfl
  world := rfl
  result := by simp
  covered := nofun
  distinct := List.nodup_nil

theorem addEndpoint_of_known (known : ∃ other ∈ order, other.id = endpoint.id) : addEndpoint order endpoint = order :=
  if_pos (by simpa using known)

theorem addEndpoint_of_new (fresh : ∀ other ∈ order, other.id ≠ endpoint.id) :
    addEndpoint order endpoint = order ++ [endpoint] :=
  if_neg (by simpa using fresh)

/-- The endpoint of a resource is created once, and its position is known from then on. -/
theorem Holds.provide (holds : Holds environment driver uuid prefetched start world order entries registering)
    (endpoint : SbmdEndpoint) :
    Holds environment driver uuid prefetched start world (addEndpoint order endpoint) entries
        (provideEndpoint uuid endpoint registering).1 ∧
      ∃ place other, (provideEndpoint uuid endpoint registering).2 = start.endpoints.length + place ∧
        (addEndpoint order endpoint)[place]? = some other ∧ other.id = endpoint.id := by
  have position := holds.positions endpoint.id
  unfold provideEndpoint
  cases found : order.findIdx? (fun other => other.id = endpoint.id) with
  | some place =>
      obtain ⟨inside, here, _⟩ := List.findIdx?_eq_some_iff_getElem.mp found
      rw [found, Option.map_some] at position
      simp only [position]
      rw [addEndpoint_of_known ⟨order[place], List.getElem_mem inside, by simpa using here⟩]
      exact ⟨holds, place, order[place], rfl, List.getElem?_eq_getElem inside, by simpa using here⟩
  | none =>
      have fresh : ∀ other ∈ order, other.id ≠ endpoint.id := by simpa using found
      rw [found, Option.map_none] at position
      simp only [position]
      have length : registering.device.endpoints.length = start.endpoints.length + order.length := by
        rw [holds.device, List.length_append, List.length_map]
      rw [addEndpoint_of_new fresh]
      refine ⟨⟨?_, ?_, holds.world, holds.result, ?_, ?_⟩, order.length, endpoint, length, by simp, rfl⟩
      · have empty : (createdResources environment driver uuid prefetched world entries).filter
            (fun resource => resource.endpointId = some endpoint.id) = [] := by
          rw [List.filter_eq_nil_iff]
          intro resource member same
          obtain ⟨entry, inside, mine⟩ := createdResources_endpointId member
          obtain ⟨other, listed, named⟩ := holds.covered entry inside
          refine fresh other listed (named.trans ?_)
          exact Option.some.inj (mine.symm.trans (by simpa using same))
        rw [holds.device, List.map_append, List.map_singleton, ← List.append_assoc, createdEndpoint, empty]
        rfl
      · intro id
        rw [List.findIdx?_append, List.findIdx?_singleton]
        dsimp only
        by_cases same : id = endpoint.id
        · subst same
          simp [found, length]
        · rw [Function.update_of_ne same, holds.positions, if_neg (by simpa using Ne.symm same)]
          simp
      · intro entry member
        obtain ⟨other, listed, named⟩ := holds.covered entry member
        exact ⟨other, List.mem_append_left _ listed, named⟩
      · rw [List.map_append, List.nodup_append]
        refine ⟨holds.distinct, List.nodup_singleton _, ?_⟩
        intro id old other new
        obtain ⟨known, listed, rfl⟩ := List.mem_map.mp old
        rw [List.mem_singleton.mp new]
        exact fresh known listed

theorem createdResources_concat (world : World) (entries : List Declared) (entry : Declared) :
    createdResources environment driver uuid prefetched world (entries ++ [entry]) =
      createdResources environment driver uuid prefetched world entries ++
        (createdResource environment driver uuid prefetched
          (entries.foldl (seededWorld environment driver uuid prefetched) world) entry).toList :=
  outputs_concat ..

/-- A resource that is not created makes the result false. -/
theorem Holds.refuse (holds : Holds environment driver uuid prefetched start world order entries registering)
    {entry : Declared} (covers : ∃ endpoint ∈ order, endpoint.id = entry.1.id) (refused : ¬entry.Creatable)
    (nothing : createdResource environment driver uuid prefetched registering.world entry = none) :
    Holds environment driver uuid prefetched start world order (entries ++ [entry]) { registering with
      result := false
      world := seededWorld environment driver uuid prefetched registering.world entry } where
  device := by
    rw [createdResources_concat, ← holds.world, nothing, Option.toList_none, List.append_nil]
    exact holds.device
  positions := holds.positions
  world := by rw [List.foldl_append, ← holds.world, List.foldl_cons, List.foldl_nil]
  result := by
    refine iff_of_false Bool.false_ne_true ?_
    intro all
    exact refused (all entry (by simp))
  covered := by
    intro other member
    rcases List.mem_append.mp member with old | new
    · exact holds.covered other old
    · rw [List.mem_singleton.mp new]
      exact covers
  distinct := holds.distinct

/-- A resource that is created comes after the other resources of its endpoint. -/
theorem Holds.create (holds : Holds environment driver uuid prefetched start world order entries registering)
    {entry : Declared} {place : Nat} (here : order[place]? = some endpoint)
    (named : endpoint.id = entry.1.id) (creatable : entry.Creatable) {resource : DeviceResource}
    (created : createdResource environment driver uuid prefetched registering.world entry = some resource)
    (mine : resource.endpointId = some entry.1.id) :
    Holds environment driver uuid prefetched start world order (entries ++ [entry]) { registering with
      device := { registering.device with
        endpoints := registering.device.endpoints.set (start.endpoints.length + place)
          { createdEndpoint uuid (createdResources environment driver uuid prefetched world entries) endpoint with
            resources := (createdEndpoint uuid (createdResources environment driver uuid prefetched world entries)
              endpoint).resources ++ [resource] } }
      world := seededWorld environment driver uuid prefetched registering.world entry } where
  device := by
    rw [createdResources_concat, ← holds.world, created, Option.toList_some, holds.device,
      List.set_append_right _ _ (Nat.le_add_right _ _), Nat.add_sub_cancel_left]
    dsimp only
    congr 2
    refine List.ext_getElem? ?_
    intro index
    rw [List.getElem?_set, List.getElem?_map, List.getElem?_map]
    by_cases same : place = index
    · subst same
      have inside : place < order.length := (List.getElem?_eq_some_iff.mp here).1
      rw [if_pos rfl, List.length_map, if_pos inside, here, Option.map_some]
      simp [createdEndpoint, List.filter_append, mine, named]
    · rw [if_neg same]
      refine Option.map_congr ?_
      intro other there
      have differs : other.id ≠ entry.1.id := by
        intro equal
        refine same ?_
        have first : (order.map SbmdEndpoint.id)[place]? = some entry.1.id := by rw [List.getElem?_map, here, ← named]; rfl
        have second : (order.map SbmdEndpoint.id)[index]? = some entry.1.id := by
          rw [List.getElem?_map, Option.mem_def.mp there, ← equal]
          rfl
        exact (List.getElem?_inj (List.getElem?_eq_some_iff.mp first).1 holds.distinct).mp (first.trans second.symm)
      simp [createdEndpoint, List.filter_append, mine, Ne.symm differs]
  positions := holds.positions
  world := by rw [List.foldl_append, ← holds.world, List.foldl_cons, List.foldl_nil]
  result := by
    rw [holds.result]
    simp [or_imp, forall_and, creatable]
  covered := by
    intro other member
    rcases List.mem_append.mp member with old | new
    · exact holds.covered other old
    · rw [List.mem_singleton.mp new]
      exact ⟨endpoint, List.mem_of_getElem? here, named⟩
  distinct := holds.distinct

/-- One turn of the loops treats one more resource, unless it is skipped. -/
theorem Holds.register (holds : Holds environment driver uuid prefetched start world order entries registering)
    {skipped : Option (List String)} {entry : Declared} (kept : entry.key ∉ skipped.getD []) :
    Holds environment driver uuid prefetched start world (addEndpoint order entry.1) (entries ++ [entry])
      (registerResource environment driver uuid prefetched skipped entry.1 registering entry.2) := by
  obtain ⟨endpoint, resource⟩ := entry
  obtain ⟨provided, place, other, position, here, named⟩ := holds.provide endpoint
  have covers : ∃ other ∈ addEndpoint order endpoint, other.id = endpoint.id := ⟨other, List.mem_of_getElem? here, named⟩
  have mode := accessMode_eq resource
  unfold registerResource
  rw [if_neg (by simpa [Declared.key] using kept)]
  dsimp only
  generalize provideEndpoint uuid endpoint registering = found at provided position
  obtain ⟨registering, position⟩ := found
  dsimp only at provided position ⊢
  subst position
  cases converted : convertModesToBitmask resource.modes with
  | none =>
      rw [converted, Option.map_none] at mode
      have refused := @Holds.refuse _ _ _ _ _ _ _ _ _ provided (endpoint, resource) covers
        (by rintro ⟨found, known, _⟩; rw [mode] at known; cases known) (by rw [createdResource, mode]; rfl)
      simpa only [seededWorld, seedDeclared, mode, Option.isSome_none, Bool.false_eq_true, if_false] using refused
  | some bitmask =>
      rw [converted, Option.map_some] at mode
      dsimp only
      generalize (if resource.execute.isSome then bitmask ||| resourceModeExecutable else bitmask) = resourceMode at mode ⊢
      have there : registering.device.endpoints[start.endpoints.length + place]? =
          some (createdEndpoint uuid (createdResources environment driver uuid prefetched world entries) other) := by
        rw [provided.device, List.getElem?_append_right (Nat.le_add_right _ _), Nat.add_sub_cancel_left,
          List.getElem?_map, here, Option.map_some]
      have seeded : seedDeclared environment driver uuid prefetched registering.world (endpoint, resource) =
          invokeSeedHandler environment driver uuid prefetched endpoint.id resource registering.world := by
        rw [seedDeclared, mode]
        rfl
      rw [there, Option.bind_some, createEndpointResource, createDeviceResource]
      by_cases zero : resourceMode = 0
      · rw [if_pos zero, Option.map_none]
        have refused := @Holds.refuse _ _ _ _ _ _ _ _ _ provided (endpoint, resource) covers
          (by rintro ⟨found, known, nonzero⟩; rw [mode] at known; cases known; exact nonzero zero)
          (by rw [createdResource, mode, Option.bind_some, if_pos zero])
        simpa only [seededWorld, seeded] using refused
      · rw [if_neg zero, Option.map_some]
        have created : createdResource environment driver uuid prefetched registering.world (endpoint, resource) =
            some (resourceRecord uuid (endpoint, resource) resourceMode
              (seedDeclared environment driver uuid prefetched registering.world (endpoint, resource)).2) := by
          rw [createdResource, mode, Option.bind_some, if_neg zero]
        have bits : (if resourceMode &&& resourceModeDynamic ≠ 0 then resourceMode ||| resourceModeDynamicCapable
            else resourceMode) = resourceMode := accessMode_capable mode
        have done := provided.create here named ⟨resourceMode, mode, zero⟩ created rfl
        rw [bits]
        simpa only [seededWorld, seeded, createdEndpoint, resourceRecord, named] using done

/-- The loops treat the resources that are not skipped. -/
theorem Holds.registerAll {skipped : Option (List String)} (more : List Declared)
    (holds : Holds environment driver uuid prefetched start world order entries registering) :
    Holds environment driver uuid prefetched start world
      ((more.filter fun entry => entry.key ∉ skipped.getD []).foldl (fun order entry => addEndpoint order entry.1) order)
      (entries ++ more.filter fun entry => entry.key ∉ skipped.getD [])
      (more.foldl (fun registering entry =>
        registerResource environment driver uuid prefetched skipped entry.1 registering entry.2) registering) := by
  induction more generalizing order entries registering with
  | nil => simpa using holds
  | cons entry rest ih =>
      by_cases kept : entry.key ∉ skipped.getD []
      · rw [List.filter_cons_of_pos (by simpa using kept), List.append_cons, List.foldl_cons, List.foldl_cons]
        exact ih (holds.register kept)
      · rw [List.filter_cons_of_neg (by simpa using kept), List.foldl_cons]
        have unchanged : registerResource environment driver uuid prefetched skipped entry.1 registering entry.2 =
            registering := if_pos (by simpa [Declared.key] using kept)
        rw [unchanged]
        exact ih holds

/-- The resources of an endpoint that is not there yet add it at most once. -/
theorem foldl_addEndpoint (fresh : ∀ other ∈ order, other.id ≠ endpoint.id) {resources : List SbmdResource} :
    (resources.map fun resource => (endpoint, resource)).foldl (fun order (entry : Declared) => addEndpoint order entry.1)
      order = if resources = [] then order else order ++ [endpoint] := by
  cases resources with
  | nil => rfl
  | cons resource rest =>
      rw [List.map_cons, List.foldl_cons, addEndpoint_of_new fresh, if_neg (List.cons_ne_nil _ _)]
      induction rest with
      | nil => rfl
      | cons resource rest ih =>
          rw [List.map_cons, List.foldl_cons, addEndpoint_of_known ⟨endpoint, by simp, rfl⟩]
          exact ih

/-- The endpoints with a resource that is not skipped are created in their declared order. -/
theorem createdEndpoints (kept : Declared → Bool) {endpoints : List SbmdEndpoint}
    (distinct : (endpoints.map SbmdEndpoint.id).Nodup) :
    ((endpoints.flatMap fun endpoint => endpoint.resources.map fun resource => (endpoint, resource)).filter kept).foldl
        (fun order entry => addEndpoint order entry.1) [] =
      endpoints.filter fun endpoint => endpoint.resources.any fun resource => kept (endpoint, resource) := by
  induction endpoints using List.reverseRecOn with
  | nil => rfl
  | append_singleton earlier endpoint ih =>
      rw [List.map_append, List.nodup_append] at distinct
      rw [List.flatMap_append, List.filter_append, List.foldl_append, ih distinct.1, List.flatMap_singleton,
        List.filter_map, List.filter_append, List.filter_singleton]
      have fresh : ∀ other ∈ earlier.filter fun endpoint => endpoint.resources.any fun resource =>
          kept (endpoint, resource), other.id ≠ endpoint.id := fun other member =>
        distinct.2.2 other.id (List.mem_map_of_mem (List.mem_filter.mp member).1) endpoint.id (by simp)
      rw [foldl_addEndpoint fresh]
      cases some : endpoint.resources.any fun resource => kept (endpoint, resource) with
      | false =>
          rw [if_pos, cond_false, List.append_nil]
          simpa [List.filter_eq_nil_iff] using some
      | true =>
          rw [if_neg, cond_true]
          simpa [List.filter_eq_nil_iff] using some

end Loops

section Results

/-- The driver provides the resources whose keys it does not skip. -/
def SbmdDriver.provided (driver : SbmdDriver) (device : MatterDevice) : List Declared :=
  driver.declared.filter fun entry => ¬Skips device driver.declared entry.key

/-- A device gets the provided resources on their endpoints, after what it has, and nothing else changes. -/
structure Registered (environment : Environment) (driver : SbmdDriver) (uuid : String) (prefetched : Bool)
    (device : MatterDevice) (start : DeviceRecord) (world : World) (outcome : Registering) : Prop where
  required : ∀ entry ∈ driver.declared, entry.2.optional = false → entry.Met device
  record : outcome.device = { start with
    endpoints := start.endpoints ++
      (driver.endpoints.filter fun endpoint => endpoint.resources.any fun resource =>
        ¬Skips device driver.declared (resourceKey endpoint.id resource.id)).map
        (createdEndpoint uuid (createdResources environment driver uuid prefetched world (driver.provided device))) }
  world : outcome.world = (driver.provided device).foldl (seededWorld environment driver uuid prefetched) world
  result : outcome.result = true ↔ ∀ entry ∈ driver.provided device, entry.Creatable

variable {driver : SbmdDriver}

theorem doRegisterDriverResources_registered (environment : Environment) {state : Devices} {uuid : String}
    {device : MatterDevice} (checked : Checked device driver.declared none (state.skippedOptionalResources uuid))
    {start : DeviceRecord} (named : start.uuid = some uuid) (world : World) :
    ∃ outcome, doRegisterDriverResources environment driver state start world = some outcome ∧
      Registered environment driver uuid (state.devices uuid).isSome device start world outcome := by
  have skips (key : String) : key ∈ (state.skippedOptionalResources uuid).getD [] ↔ Skips device driver.declared key := by
    rw [checked.skipped]
    simp
  have provided : (driver.declared.filter fun entry => entry.key ∉ (state.skippedOptionalResources uuid).getD []) =
      driver.provided device := by
    simp only [SbmdDriver.provided, skips]
  have begins : Holds environment driver uuid (state.devices uuid).isSome start world [] []
      ⟨true, start, fun _ => none, world⟩ := holds_start start world
  have holds := @Holds.registerAll _ _ _ _ _ _ _ _ _ (state.skippedOptionalResources uuid) driver.declared begins
  rw [provided, List.nil_append] at holds
  refine ⟨_, ?_, checked.required, ?_, holds.world, holds.result⟩
  · rw [doRegisterDriverResources, named, Option.map_some, SbmdDriver.declared, List.foldl_flatMap]
    simp only [List.foldl_map]
  · have order := createdEndpoints (fun entry => ¬Skips device driver.declared entry.key) driver.distinct
    rw [holds.device]
    congr 3

/-- After any history, a device whose configuration has succeeded gets exactly the resources that the configuration has
found to be available. -/
theorem register_configured {uuid : String} {connection : Connection} (before after : List Step)
    (configured : (configureDevice driver uuid connection (run driver .initial before)).1 = true)
    (later : ∀ input ∈ after, ¬input.Checks uuid) (environment : Environment) {start : DeviceRecord}
    (named : start.uuid = some uuid) (world : World) :
    ∃ device, (configureDevice driver uuid connection (run driver .initial before)).2.devices uuid = some device ∧
      ∃ outcome, doRegisterDriverResources environment driver
          (run driver .initial (before ++ .configure uuid connection :: after)) start world = some outcome ∧
        Registered environment driver uuid
          ((run driver .initial (before ++ .configure uuid connection :: after)).devices uuid).isSome device start world
          outcome := by
  obtain ⟨device, there, checked⟩ := configureDevice_checked configured
  refine ⟨device, there, doRegisterDriverResources_registered environment ?_ named world⟩
  have kept := @run_other driver _ _ later (configureDevice driver uuid connection (run driver .initial before)).2
  rw [run, List.foldl_append, List.foldl_cons]
  rw [← kept] at checked
  exact checked

/-- A light has a label, and it has a level only on devices with the level cluster. -/
def lightDriver : SbmdDriver where
  deviceTypes := [0x100]
  endpoints := [⟨"1", "light", 1,
    [⟨⟨[]⟩, "label", "string", ["read", "write"], false, some ⟨7, sessions⟩, none, none⟩,
      ⟨⟨["8".toList]⟩, "level", "integer", ["read", "write"], true, none, none, none⟩]⟩]
  activated := true
  distinct := by decide

/-- A lamp on endpoint 1 has the on/off cluster and no level cluster. -/
def lamp : DeviceDataCache where
  clusterStateCache := some fun endpointId =>
    if endpointId = 0 then (∅ : Registry.Table _ _).insert descriptor ⟨some [1], some [0x16]⟩
    else ((∅ : Registry.Table _ _).insert descriptor ⟨none, some [0x100]⟩).insert 6 ⟨none, none⟩

theorem register_configured_lamp :
    ∃ device, (configureDevice lightDriver "lamp" ⟨none, true, true⟩
        (run lightDriver .initial [.synchronize "lamp" (some lamp)])).2.devices "lamp" = some device ∧
      ∃ outcome, doRegisterDriverResources sessionRun lightDriver
          (run lightDriver .initial
            ([.synchronize "lamp" (some lamp)] ++ .configure "lamp" ⟨none, true, true⟩ :: [.remove "other"]))
          ⟨some "lamp", none, 0, none, none, [], [], []⟩ .initial = some outcome ∧
        Registered sessionRun lightDriver "lamp"
          ((run lightDriver .initial
            ([.synchronize "lamp" (some lamp)] ++ .configure "lamp" ⟨none, true, true⟩ :: [.remove "other"])).devices
              "lamp").isSome device ⟨some "lamp", none, 0, none, none, [], [], []⟩ .initial outcome :=
  register_configured [.synchronize "lamp" (some lamp)] [.remove "other"] (by decide +kernel)
    (by intro input member; rw [List.mem_singleton.mp member]; exact not_false) sessionRun rfl .initial

end Results
end Barton.Registration
