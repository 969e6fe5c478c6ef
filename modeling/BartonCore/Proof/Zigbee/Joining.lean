import BartonCore.Construction.Zigbee.Joining

namespace Barton.ZigbeeJoining
open Threads

section Arrivals

def Callback.isJoin : Callback → Bool
  | .deviceJoined _ => true
  | .deviceAnnounced _ _ _ => false

def Callback.announce : Callback → Option (DeviceType × PowerSource)
  | .deviceJoined _ => none
  | .deviceAnnounced _ deviceType powerSource => some (deviceType, powerSource)

/-- The callbacks of one device. -/
def ofDevice (eui64 : UInt64) (arrivals : List Callback) : List Callback :=
  arrivals.filter fun callback => callback.eui64 = eui64

/-- The device has joined in the session or has a join on record from before. -/
def HasJoined (recorded : AnnouncedDevice) (arrivals : List Callback) : Prop :=
  recorded.hasJoined = true ∨ ∃ callback ∈ arrivals, callback.isJoin = true

/-- The bits of the latest announce. -/
def lastAnnounce (recorded : AnnouncedDevice) (arrivals : List Callback) : DeviceType × PowerSource :=
  (arrivals.filterMap Callback.announce).getLastD (recorded.deviceType, recorded.powerSource)

def Known (announce : DeviceType × PowerSource) : Prop := announce.1 ≠ .unknown ∧ announce.2 ≠ .unknown

/-- At some arrival the device has joined and its latest announce has a known type and power source. -/
def BecomesReady (recorded : AnnouncedDevice) (arrivals : List Callback) : Prop :=
  ∃ first, first ≠ [] ∧ first <+: arrivals ∧ HasJoined recorded first ∧ Known (lastAnnounce recorded first)

theorem hasJoined_concat (recorded : AnnouncedDevice) (arrivals : List Callback) (callback : Callback) :
    HasJoined recorded (arrivals ++ [callback]) ↔ HasJoined recorded arrivals ∨ callback.isJoin = true := by
  simp [HasJoined, or_and_right, exists_or, or_assoc]

theorem lastAnnounce_concat (recorded : AnnouncedDevice) (arrivals : List Callback) (callback : Callback) :
    lastAnnounce recorded (arrivals ++ [callback]) = callback.announce.getD (lastAnnounce recorded arrivals) := by
  unfold lastAnnounce
  rw [List.filterMap_append]
  cases callback with
  | deviceJoined | deviceAnnounced => simp [Callback.announce]

/-- The entry of a device holds what its arrivals say. -/
theorem foldl_update (recorded : AnnouncedDevice) (arrivals : List Callback) :
    ((arrivals.foldl AnnouncedDevice.update recorded).hasJoined = true ↔ HasJoined recorded arrivals) ∧
      ((arrivals.foldl AnnouncedDevice.update recorded).deviceType,
        (arrivals.foldl AnnouncedDevice.update recorded).powerSource) = lastAnnounce recorded arrivals := by
  induction arrivals using List.reverseRecOn with
  | nil => simp [HasJoined, lastAnnounce]
  | append_singleton arrivals callback ih =>
      obtain ⟨joined, announce⟩ := ih
      rw [hasJoined_concat, lastAnnounce_concat, ← joined, ← announce, List.foldl_concat]
      cases callback with
      | deviceJoined | deviceAnnounced => simp [AnnouncedDevice.update, Callback.isJoin, Callback.announce]

theorem isComplete_iff (recorded : AnnouncedDevice) (arrivals : List Callback) :
    (arrivals.foldl AnnouncedDevice.update recorded).isComplete = true ↔
      HasJoined recorded arrivals ∧ Known (lastAnnounce recorded arrivals) := by
  obtain ⟨joined, announce⟩ := foldl_update recorded arrivals
  rw [← joined, ← announce]
  simp [AnnouncedDevice.isComplete, Known, and_comm]

/-- A further arrival makes a device ready when its entry is complete after it. -/
theorem becomesReady_concat (recorded : AnnouncedDevice) (arrivals : List Callback) (callback : Callback) :
    BecomesReady recorded (arrivals ++ [callback]) ↔ BecomesReady recorded arrivals ∨
      ((arrivals ++ [callback]).foldl AnnouncedDevice.update recorded).isComplete = true := by
  rw [isComplete_iff]
  constructor
  · rintro ⟨first, present, shorter, ready⟩
    rcases List.prefix_concat_iff.mp shorter with rfl | shorter
    · exact Or.inr ready
    · exact Or.inl ⟨first, present, shorter, ready⟩
  · rintro (⟨first, present, shorter, ready⟩ | ready)
    · exact ⟨first, present, shorter.trans (List.prefix_append _ _), ready⟩
    · exact ⟨arrivals ++ [callback], by simp, List.prefix_rfl, ready⟩

theorem not_becomesReady_nil (recorded : AnnouncedDevice) : ¬ BecomesReady recorded [] := by
  rintro ⟨first, present, shorter, _⟩
  exact present (List.prefix_nil.mp shorter)

theorem ofDevice_concat_same {eui64 : UInt64} {arrivals : List Callback} {callback : Callback}
    (same : callback.eui64 = eui64) : ofDevice eui64 (arrivals ++ [callback]) = ofDevice eui64 arrivals ++ [callback] := by
  simp [ofDevice, same]

theorem ofDevice_concat_other {eui64 : UInt64} {arrivals : List Callback} {callback : Callback}
    (other : callback.eui64 ≠ eui64) : ofDevice eui64 (arrivals ++ [callback]) = ofDevice eui64 arrivals := by
  simp [ofDevice, other]

end Arrivals

section Stages

/-- The two calls that hand a device over. -/
inductive Stage where
  | discoverDeviceDetails
  | deviceDiscovered
  deriving DecidableEq

def Effect.stage (eui64 : UInt64) : Effect → Option Stage
  | .discoverDeviceDetails other => if other = eui64 then some .discoverDeviceDetails else none
  | .deviceDiscovered details => if details.eui64 = eui64 then some .deviceDiscovered else none
  | _ => none

/-- The calls that hand one device over, in order. -/
def stages (eui64 : UInt64) (effects : List Effect) : List Stage := effects.filterMap (Effect.stage eui64)

/-- The thread is about to discover the details of the device. -/
def Thread.discovers (eui64 : UInt64) : Thread → ℤ
  | .discoverDeviceDetails other => if other = eui64 then 1 else 0
  | _ => 0

/-- The thread has marked the device as processed and has not handed it over. -/
def Thread.processes (eui64 : UInt64) : Thread → ℤ
  | .discoverDeviceDetails other => if other = eui64 then 1 else 0
  | .copyAnnounceInfo details => if details.eui64 = eui64 then 1 else 0
  | .clearJoinAnnounceInfo details => if details.eui64 = eui64 then 1 else 0
  | .deviceDiscovered details => if details.eui64 = eui64 then 1 else 0
  | _ => 0

/-- The thread is at a point that a plain callback can reach. -/
def Thread.isPlain : Thread → Bool
  | .deleteFailed _ => false
  | .deleteProcessed _ => false
  | .clearForgotten _ => false
  | _ => true

theorem discovers_nonneg (eui64 : UInt64) (thread : Thread) : 0 ≤ thread.discovers eui64 := by
  cases thread with
  | discoverDeviceDetails other =>
      unfold Thread.discovers
      split <;> omega
  | _ => exact le_refl _

theorem discovers_le_processes (eui64 : UInt64) (thread : Thread) :
    thread.discovers eui64 ≤ thread.processes eui64 := by
  cases thread with
  | copyAnnounceInfo details | clearJoinAnnounceInfo details | deviceDiscovered details =>
      show (0 : ℤ) ≤ if details.eui64 = eui64 then 1 else 0
      split <;> omega
  | _ => exact le_refl _

theorem stages_emit (shared : Shared) (eui64 : UInt64) (effect : Effect) :
    stages eui64 (shared.emit effect).effects = stages eui64 shared.effects ++ (effect.stage eui64).toList := by
  unfold stages Shared.emit
  rw [List.filterMap_append]
  cases found : effect.stage eui64 with
  | none => rw [List.filterMap_cons_none found]; rfl
  | some stage => rw [List.filterMap_cons_some found]; rfl

end Stages

section View

/-- This is what the shared state says about one device. -/
structure View where
  stages : List Stage
  arrivals : List Callback
  processed : Bool
  entry : AnnouncedDevice

/-- The entry of a device, or the new entry that the first callback makes. -/
def EventHandler.entry (handler : EventHandler) (eui64 : UInt64) : AnnouncedDevice :=
  (handler.announcedDevices eui64).getD .new

def Shared.view (shared : Shared) (eui64 : UInt64) : View where
  stages := stages eui64 shared.effects
  arrivals := ofDevice eui64 shared.arrivals
  processed := shared.handler.devicesProcessed.any fun processed => processed eui64
  entry := shared.handler.entry eui64

/-- What a plain move does for one device. -/
inductive Moves (eui64 : UInt64) : View → Thread → View → Thread → Prop where
  | quiet {view : View} {thread moved : Thread} (discovers : moved.discovers eui64 = thread.discovers eui64)
      (processes : moved.processes eui64 = thread.processes eui64) (before : thread ≠ .processNewDevice eui64)
      (after : moved ≠ .processNewDevice eui64) : Moves eui64 view thread view moved
  | save {view : View} (callback : Callback) : Moves eui64 view (.saveJoinAnnounceInfo callback)
      { view with arrivals := view.arrivals ++ [callback], entry := view.entry.update callback }
      (if (view.entry.update callback).isComplete then .processNewDevice eui64 else .returned)
  | skip {view : View} (processed : view.processed = true) :
      Moves eui64 view (.processNewDevice eui64) view .returned
  | mark {view : View} (fresh : view.processed = false) :
      Moves eui64 view (.processNewDevice eui64) { view with processed := true } (.discoverDeviceDetails eui64)
  | details {view : View} : Moves eui64 view (.discoverDeviceDetails eui64)
      { view with stages := view.stages ++ [.discoverDeviceDetails] } (.copyAnnounceInfo ⟨eui64, .unknown, .unknown⟩)
  | clear {view : View} {details : DeviceDetails} (same : details.eui64 = eui64) :
      Moves eui64 view (.clearJoinAnnounceInfo details) { view with entry := .new } (.deviceDiscovered details)
  | handOver {view : View} {details : DeviceDetails} (same : details.eui64 = eui64) :
      Moves eui64 view (.deviceDiscovered details) { view with stages := view.stages ++ [.deviceDiscovered] } .returned

end View

/-- The device is neither rejected nor failed, the gateway is not in recovery mode, the discovery of details succeeds,
and a device is unknown until it has been handed over. -/
def plainAnswers (current : Configuration Shared Thread) (input : Nat × Answers) : Bool :=
  !input.2.repairing && !input.2.previouslyRejected && !input.2.previouslyFailedToPair && input.2.details &&
    (!input.2.known || match current.threads[input.1]? with
      | some (.created callback) => (stages callback.eui64 current.shared.effects).contains .deviceDiscovered
      | _ => true)

section Moves
variable {shared next : Shared} {thread moved : Thread} {answers : Answers}

theorem saveJoinAnnounceInfo_entry (handler : EventHandler) (callback : Callback) :
    (saveJoinAnnounceInfo handler callback).2.entry callback.eui64 =
        (handler.entry callback.eui64).update callback ∧
      (saveJoinAnnounceInfo handler callback).1 = ((handler.entry callback.eui64).update callback).isComplete := by
  simp [saveJoinAnnounceInfo, EventHandler.entry]

theorem saveJoinAnnounceInfo_other (handler : EventHandler) {callback : Callback} {eui64 : UInt64}
    (other : callback.eui64 ≠ eui64) : (saveJoinAnnounceInfo handler callback).2.entry eui64 = handler.entry eui64 := by
  simp [saveJoinAnnounceInfo, EventHandler.entry, other.symm]

theorem clearJoinAnnounceInfo_entry (handler : EventHandler) (cleared eui64 : UInt64) :
    (clearJoinAnnounceInfo handler cleared).entry eui64 =
      if eui64 = cleared then .new else handler.entry eui64 := by
  by_cases same : eui64 = cleared
  · simp [clearJoinAnnounceInfo, EventHandler.entry, same]
  · simp [clearJoinAnnounceInfo, EventHandler.entry, same]

theorem copyAnnounceInfo_eui64 (handler : EventHandler) (details : DeviceDetails) :
    (copyAnnounceInfo handler details).eui64 = details.eui64 := by
  unfold copyAnnounceInfo
  split <;> rfl

/-- A callback that is not preceded by a failure is ignored, passed on or saved. -/
theorem askDeviceService_quiet (eui64 : UInt64) (callback : Callback) (paired : answers.previouslyFailedToPair = false) :
    let moved := askDeviceService callback answers
    moved.discovers eui64 = 0 ∧ moved.processes eui64 = 0 ∧ moved ≠ .processNewDevice eui64 ∧
      moved.isPlain = true := by
  unfold askDeviceService
  rw [paired]
  cases callback with
  | deviceJoined other =>
      dsimp only
      split_ifs <;> first | exact ⟨rfl, rfl, nofun, rfl⟩ | contradiction
  | deviceAnnounced other deviceType powerSource =>
      dsimp only
      split_ifs <;> exact ⟨rfl, rfl, nofun, rfl⟩

/-- A plain thread stays plain during the session, and its move is one of the listed ones. -/
theorem move_moves (eui64 : UInt64) (session : shared.handler.devicesProcessed.isSome = true)
    (plain : thread.isPlain = true) (paired : answers.previouslyFailedToPair = false)
    (details : answers.details = true) (taken : move shared thread answers = some (next, moved)) :
    Moves eui64 (shared.view eui64) thread (next.view eui64) moved ∧
      next.handler.devicesProcessed.isSome = true ∧ moved.isPlain = true := by
  cases thread with
  | created callback =>
      cases taken
      obtain ⟨discovers, processes, waiting, plain⟩ := askDeviceService_quiet eui64 callback paired
      exact ⟨.quiet discovers processes nofun waiting, session, plain⟩
  | saveJoinAnnounceInfo callback =>
      cases taken
      refine ⟨?_, session, by split <;> rfl⟩
      by_cases same : callback.eui64 = eui64
      · subst same
        obtain ⟨entry, complete⟩ := saveJoinAnnounceInfo_entry shared.handler callback
        have view : Shared.view ⟨(saveJoinAnnounceInfo shared.handler callback).2,
            shared.arrivals ++ [callback], shared.effects⟩ callback.eui64 =
            { shared.view callback.eui64 with
              arrivals := (shared.view callback.eui64).arrivals ++ [callback]
              entry := (shared.view callback.eui64).entry.update callback } := by
          simp only [Shared.view, entry, ofDevice_concat_same]
          rfl
        rw [view, complete]
        exact .save callback
      · have view : Shared.view ⟨(saveJoinAnnounceInfo shared.handler callback).2,
            shared.arrivals ++ [callback], shared.effects⟩ eui64 = shared.view eui64 := by
          simp only [Shared.view, saveJoinAnnounceInfo_other _ same, ofDevice_concat_other same]
          rfl
        rw [view]
        apply Moves.quiet
        · split <;> rfl
        · split <;> rfl
        · exact nofun
        · split
          · exact fun equal => same (Thread.processNewDevice.inj equal)
          · exact nofun
  | processNewDevice other =>
      obtain ⟨processed, running⟩ := Option.isSome_iff_exists.mp session
      cases found : processed other with
      | true =>
          have skipped : markProcessed shared.handler other = (false, shared.handler) := by
            simp [markProcessed, running, found]
          simp only [move, skipped] at taken
          cases taken
          refine ⟨?_, session, rfl⟩
          by_cases same : other = eui64
          · subst same
            apply Moves.skip
            simp [Shared.view, running, found]
          · exact .quiet rfl rfl (fun equal => same (Thread.processNewDevice.inj equal)) nofun
      | false =>
          have marked : markProcessed shared.handler other = (true, { shared.handler with
              devicesProcessed := some (Function.update processed other true) }) := by
            simp [markProcessed, running, found]
          simp only [move, marked] at taken
          cases taken
          refine ⟨?_, rfl, rfl⟩
          by_cases same : other = eui64
          · subst same
            have fresh : (shared.view other).processed = false := by simp [Shared.view, running, found]
            have view : Shared.view ⟨⟨shared.handler.announcedDevices,
                some (Function.update processed other true)⟩, shared.arrivals, shared.effects⟩ other =
                { shared.view other with processed := true } := by
              simp [Shared.view, EventHandler.entry]
            rw [view]
            exact .mark fresh
          · have view : Shared.view ⟨⟨shared.handler.announcedDevices,
                some (Function.update processed other true)⟩, shared.arrivals, shared.effects⟩ eui64 =
                shared.view eui64 := by
              simp [Shared.view, EventHandler.entry, running, Function.update_of_ne (Ne.symm same)]
            rw [view]
            refine .quiet ?_ ?_ (fun equal => same (Thread.processNewDevice.inj equal)) nofun
            · simp [Thread.discovers, same]
            · simp [Thread.processes, same]
  | discoverDeviceDetails other =>
      simp only [move, details] at taken
      cases taken
      refine ⟨?_, session, rfl⟩
      have view : (shared.emit (.discoverDeviceDetails other)).view eui64 = { shared.view eui64 with
          stages := (shared.view eui64).stages ++
            (Effect.stage eui64 (.discoverDeviceDetails other)).toList } := by
        simp only [Shared.view, stages_emit]
        rfl
      rw [view]
      by_cases same : other = eui64
      · subst same
        simp only [Effect.stage, if_pos]
        exact .details
      · simp only [Effect.stage, if_neg same, Option.toList_none, List.append_nil]
        refine .quiet ?_ ?_ nofun nofun
        · simp [Thread.discovers, same]
        · rfl
  | copyAnnounceInfo info =>
      cases taken
      refine ⟨.quiet rfl ?_ nofun nofun, session, rfl⟩
      simp only [Thread.processes, copyAnnounceInfo_eui64]
  | clearJoinAnnounceInfo info =>
      cases taken
      refine ⟨?_, session, rfl⟩
      by_cases same : info.eui64 = eui64
      · have view : Shared.view ⟨clearJoinAnnounceInfo shared.handler info.eui64, shared.arrivals, shared.effects⟩
            eui64 = { shared.view eui64 with entry := .new } := by
          simp only [Shared.view, clearJoinAnnounceInfo_entry, if_pos same.symm]
          rfl
        rw [view]
        exact .clear same
      · have view : Shared.view ⟨clearJoinAnnounceInfo shared.handler info.eui64, shared.arrivals, shared.effects⟩
            eui64 = shared.view eui64 := by
          simp only [Shared.view, clearJoinAnnounceInfo_entry, if_neg (Ne.symm same)]
          rfl
        rw [view]
        exact .quiet rfl rfl nofun nofun
  | deviceDiscovered info =>
      cases taken
      refine ⟨?_, session, rfl⟩
      have view : (shared.emit (.deviceDiscovered info)).view eui64 = { shared.view eui64 with
          stages := (shared.view eui64).stages ++ (Effect.stage eui64 (.deviceDiscovered info)).toList } := by
        simp only [Shared.view, stages_emit]
        rfl
      rw [view]
      by_cases same : info.eui64 = eui64
      · simp only [Effect.stage, if_pos same]
        exact .handOver same
      · simp only [Effect.stage, if_neg same, Option.toList_none, List.append_nil]
        refine .quiet rfl ?_ nofun nofun
        simp [Thread.processes, same]
  | requestDeviceLeave other =>
      cases taken
      have view : (shared.emit (.requestDeviceLeave other)).view eui64 = shared.view eui64 := by
        simp only [Shared.view, stages_emit]
        simp [Effect.stage, Shared.emit]
      rw [view]
      exact ⟨.quiet rfl rfl nofun nofun, session, rfl⟩
  | deviceAnnounced other deviceType powerSource =>
      cases taken
      have view : (shared.emit (.deviceAnnounced other deviceType powerSource)).view eui64 = shared.view eui64 := by
        simp only [Shared.view, stages_emit]
        simp [Effect.stage, Shared.emit]
      rw [view]
      exact ⟨.quiet rfl rfl nofun nofun, session, rfl⟩
  | deleteFailed | deleteProcessed | clearForgotten => cases plain
  | returned => cases taken

end Moves

section Tracking

def markOf (processed : Bool) : ℤ := if processed then 1 else 0

theorem markOf_le (processed : Bool) : markOf processed ≤ 1 := by
  cases processed <;> decide

/-- The calls for a device and the threads that work on it together make up one processing. -/
structure Tracked (recorded : AnnouncedDevice) (view : View) (discovers processes : ℤ) (waiting : Prop) : Prop where
  discovers : (view.stages.count .discoverDeviceDetails : ℤ) + discovers = markOf view.processed
  processes : (view.stages.count .deviceDiscovered : ℤ) + processes = markOf view.processed
  order : view.stages <+: [.discoverDeviceDetails, .deviceDiscovered]
  ready : BecomesReady recorded view.arrivals ↔ view.processed = true ∨ waiting
  entry : ¬ BecomesReady recorded view.arrivals → view.entry = view.arrivals.foldl AnnouncedDevice.update recorded

/-- The list of the calls is determined by its length. -/
theorem stages_cases {stages : List Stage} (order : stages <+: [.discoverDeviceDetails, .deviceDiscovered]) :
    stages = [] ∨ stages = [.discoverDeviceDetails] ∨ stages = [.discoverDeviceDetails, .deviceDiscovered] := by
  rcases stages with _ | ⟨first, _ | ⟨second, _ | ⟨third, rest⟩⟩⟩
  · exact Or.inl rfl
  · obtain ⟨rfl, _⟩ := List.cons_prefix_cons.mp order
    exact Or.inr (Or.inl rfl)
  · obtain ⟨rfl, later⟩ := List.cons_prefix_cons.mp order
    obtain ⟨rfl, _⟩ := List.cons_prefix_cons.mp later
    exact Or.inr (Or.inr rfl)
  · have length := order.length_le
    simp at length

variable {recorded : AnnouncedDevice} {eui64 : UInt64} {view next : View} {thread moved : Thread}
  {discovers processes discovers' processes' : ℤ} {waiting waiting' others : Prop}

/-- A further arrival is tracked by the entry as long as the device is not ready. -/
theorem Tracked.save (tracked : Tracked recorded view discovers processes waiting) (callback : Callback) :
    Tracked recorded
      { view with arrivals := view.arrivals ++ [callback], entry := view.entry.update callback }
      discovers processes (waiting ∨ (view.entry.update callback).isComplete = true) := by
  have updated (unready : ¬ BecomesReady recorded view.arrivals) :
      view.entry.update callback = (view.arrivals ++ [callback]).foldl AnnouncedDevice.update recorded := by
    rw [List.foldl_concat, tracked.entry unready]
  refine ⟨tracked.discovers, tracked.processes, tracked.order, ?_, ?_⟩
  · rw [becomesReady_concat]
    by_cases early : BecomesReady recorded view.arrivals
    · refine iff_of_true (Or.inl early) ?_
      exact (tracked.ready.mp early).imp_right Or.inl
    · have fresh := not_or.mp (mt tracked.ready.mpr early)
      rw [← updated early]
      simp [early, fresh.1, fresh.2]
  · intro unready
    exact updated fun early => unready ((becomesReady_concat _ _ _).mpr (Or.inl early))

/-- The move of one thread keeps the track of a device. -/
theorem Tracked.step (tracked : Tracked recorded view discovers processes waiting)
    (moves : Moves eui64 view thread next moved)
    (sumDiscovers : discovers' + thread.discovers eui64 = discovers + moved.discovers eui64)
    (sumProcesses : processes' + thread.processes eui64 = processes + moved.processes eui64)
    (restDiscovers : thread.discovers eui64 ≤ discovers)
    (restProcesses : discovers - thread.discovers eui64 ≤ processes - thread.processes eui64)
    (waits : waiting ↔ thread = .processNewDevice eui64 ∨ others)
    (waits' : waiting' ↔ moved = .processNewDevice eui64 ∨ others) :
    Tracked recorded next discovers' processes' waiting' := by
  have oneDiscovers := tracked.discovers
  have oneProcesses := tracked.processes
  have single := markOf_le view.processed
  cases moves with
  | quiet sameDiscovers sameProcesses first second =>
      have same : waiting' ↔ waiting := by rw [waits, waits', or_iff_right first, or_iff_right second]
      have equalDiscovers : discovers' = discovers := by omega
      have equalProcesses : processes' = processes := by omega
      rw [equalDiscovers, equalProcesses, propext same]
      exact tracked
  | save callback =>
      have saved := tracked.save callback
      have same : waiting' ↔ waiting ∨ (view.entry.update callback).isComplete = true := by
        rw [waits, waits']
        by_cases complete : (view.entry.update callback).isComplete = true
        · simp [complete]
        · simp [complete]
      have quiet : Thread.discovers eui64
          (if (view.entry.update callback).isComplete then .processNewDevice eui64 else .returned) = 0 ∧
          Thread.processes eui64
            (if (view.entry.update callback).isComplete then .processNewDevice eui64 else .returned) = 0 := by
        split <;> exact ⟨rfl, rfl⟩
      rw [quiet.1] at sumDiscovers
      rw [quiet.2] at sumProcesses
      simp only [Thread.discovers, Thread.processes, add_zero] at sumDiscovers sumProcesses
      rw [sumDiscovers, sumProcesses, propext same]
      exact saved
  | skip processed =>
      simp only [Thread.discovers, Thread.processes, add_zero] at sumDiscovers sumProcesses
      have ready := tracked.ready.mpr (Or.inl processed)
      rw [sumDiscovers, sumProcesses]
      exact ⟨oneDiscovers, oneProcesses, tracked.order, iff_of_true ready (Or.inl processed), tracked.entry⟩
  | mark fresh =>
      simp only [Thread.discovers, Thread.processes, if_true, add_zero] at sumDiscovers sumProcesses
      have ready := tracked.ready.mpr (Or.inr (waits.mpr (Or.inl rfl)))
      have unmarked : markOf view.processed = 0 := by rw [fresh]; rfl
      have marked : markOf true = 1 := rfl
      refine ⟨?_, ?_, tracked.order, iff_of_true ready (Or.inl rfl), fun unready => absurd ready unready⟩
      · dsimp only
        omega
      · dsimp only
        omega
  | details =>
      simp only [Thread.discovers, Thread.processes, if_true, add_zero]
        at sumDiscovers sumProcesses restDiscovers restProcesses
      have same : waiting' ↔ waiting := by
        rw [waits, waits']
        simp
      have none : view.stages = [] := by
        rcases stages_cases tracked.order with none | one | both
        · exact none
        · rw [one, List.count_singleton_self] at oneDiscovers
          omega
        · rw [both, show List.count Stage.discoverDeviceDetails [.discoverDeviceDetails, .deviceDiscovered] = 1 from
            rfl] at oneDiscovers
          omega
      rw [none, List.count_nil] at oneDiscovers oneProcesses
      rw [propext same]
      refine ⟨?_, ?_, ?_, tracked.ready, tracked.entry⟩
      · dsimp only
        rw [none, List.nil_append, List.count_singleton_self]
        omega
      · dsimp only
        rw [none, List.nil_append, show List.count Stage.deviceDiscovered [.discoverDeviceDetails] = 0 from rfl]
        omega
      · dsimp only
        rw [none]
        exact ⟨[.deviceDiscovered], rfl⟩
  | clear same =>
      simp only [Thread.discovers, Thread.processes, if_pos same, add_zero, sub_zero]
        at sumDiscovers sumProcesses restDiscovers restProcesses
      have equalProcesses : processes' = processes := by omega
      have processed : view.processed = true := by
        by_contra fresh
        have unmarked : markOf view.processed = 0 := if_neg fresh
        omega
      have ready := tracked.ready.mpr (Or.inl processed)
      rw [sumDiscovers, equalProcesses]
      exact ⟨oneDiscovers, oneProcesses, tracked.order, iff_of_true ready (Or.inl processed),
        fun unready => absurd ready unready⟩
  | handOver same =>
      simp only [Thread.discovers, Thread.processes, if_pos same, add_zero, sub_zero]
        at sumDiscovers sumProcesses restDiscovers restProcesses
      have same : waiting' ↔ waiting := by
        rw [waits, waits']
        simp
      have one : view.stages = [.discoverDeviceDetails] := by
        rcases stages_cases tracked.order with none | one | both
        · rw [none, List.count_nil] at oneDiscovers oneProcesses
          omega
        · exact one
        · rw [both, show List.count Stage.deviceDiscovered [.discoverDeviceDetails, .deviceDiscovered] = 1 from
            rfl] at oneProcesses
          omega
      rw [one] at oneDiscovers oneProcesses
      have twice : view.stages ++ [.deviceDiscovered] = [.discoverDeviceDetails, .deviceDiscovered] := by
        rw [one]
        rfl
      rw [propext same]
      refine ⟨?_, ?_, ?_, tracked.ready, tracked.entry⟩
      · dsimp only
        rw [twice, sumDiscovers]
        exact oneDiscovers
      · dsimp only
        rw [twice]
        rw [show List.count Stage.deviceDiscovered [.discoverDeviceDetails] = 0 from rfl] at oneProcesses
        rw [show List.count Stage.deviceDiscovered [.discoverDeviceDetails, .deviceDiscovered] = 1 from rfl]
        omega
      · dsimp only
        rw [twice]

end Tracking

section Runs

/-- The track of one device over the threads of the session. -/
structure Followed (recorded : AnnouncedDevice) (callbacks : List Callback) (eui64 : UInt64)
    (current : Configuration Shared Thread) : Prop where
  session : current.shared.handler.devicesProcessed.isSome = true
  plain : ∀ thread ∈ current.threads, thread.isPlain = true
  tracked : Tracked recorded (current.shared.view eui64) (current.threads.map (Thread.discovers eui64)).sum
    (current.threads.map (Thread.processes eui64)).sum (.processNewDevice eui64 ∈ current.threads)
  arrived : ∀ callback ∈ callbacks, callback.eui64 = eui64 → callback ∈ current.shared.arrivals ∨
    .deviceDiscovered ∈ stages eui64 current.shared.effects ∨
      .created callback ∈ current.threads ∨ .saveJoinAnnounceInfo callback ∈ current.threads

/-- The threads beside one thread discover no more than they process. -/
theorem sum_rest (eui64 : UInt64) (before after : List Thread) (thread : Thread) :
    let discovers := ((before ++ thread :: after).map (Thread.discovers eui64)).sum
    let processes := ((before ++ thread :: after).map (Thread.processes eui64)).sum
    thread.discovers eui64 ≤ discovers ∧
      discovers - thread.discovers eui64 ≤ processes - thread.processes eui64 := by
  have nonneg (threads : List Thread) : 0 ≤ (threads.map (Thread.discovers eui64)).sum := by
    apply List.sum_nonneg
    intro share member
    obtain ⟨other, _, rfl⟩ := List.mem_map.mp member
    exact discovers_nonneg eui64 other
  have less (threads : List Thread) :
      (threads.map (Thread.discovers eui64)).sum ≤ (threads.map (Thread.processes eui64)).sum :=
    List.sum_le_sum fun other _ => discovers_le_processes eui64 other
  have first := nonneg before
  have second := nonneg after
  have third := less before
  have fourth := less after
  simp only [List.map_append, List.map_cons, List.sum_append, List.sum_cons]
  constructor <;> omega

/-- A move only adds to the arrivals and to the calls. -/
theorem move_grows {shared next : Shared} {thread moved : Thread} {answers : Answers}
    (taken : move shared thread answers = some (next, moved)) :
    shared.arrivals <+: next.arrivals ∧ shared.effects <+: next.effects := by
  cases thread with
  | returned => cases taken
  | saveJoinAnnounceInfo callback =>
      cases taken
      exact ⟨List.prefix_append _ _, List.prefix_rfl⟩
  | discoverDeviceDetails _ | deviceDiscovered _ | requestDeviceLeave _ | deviceAnnounced _ _ _ =>
      cases taken
      exact ⟨List.prefix_rfl, List.prefix_append _ _⟩
  | _ =>
      cases taken
      exact ⟨List.prefix_rfl, List.prefix_rfl⟩

variable {recorded : AnnouncedDevice} {callbacks : List Callback} {eui64 : UInt64}

theorem followed_session (before : EventHandler) (callbacks : List Callback) (eui64 : UInt64) :
    Followed (before.entry eui64) callbacks eui64 (session before callbacks) := by
  have absent (thread : Thread) (different : ∀ callback, thread ≠ .created callback) :
      thread ∉ callbacks.map Thread.created := by
    intro member
    obtain ⟨callback, _, same⟩ := List.mem_map.mp member
    exact different callback same.symm
  have silent (share : Thread → ℤ) (none : ∀ callback, share (.created callback) = 0) :
      ((callbacks.map Thread.created).map share).sum = 0 := by
    apply List.sum_eq_zero
    intro value member
    obtain ⟨thread, inside, rfl⟩ := List.mem_map.mp member
    obtain ⟨callback, _, rfl⟩ := List.mem_map.mp inside
    exact none callback
  refine ⟨rfl, ?_, ?_, ?_⟩
  · intro thread member
    obtain ⟨callback, _, rfl⟩ := List.mem_map.mp member
    rfl
  · have discovers := silent (Thread.discovers eui64) fun _ => rfl
    have processes := silent (Thread.processes eui64) fun _ => rfl
    unfold session
    dsimp only
    rw [discovers, processes]
    refine ⟨rfl, rfl, List.nil_prefix, iff_of_false (not_becomesReady_nil _) ?_, fun _ => rfl⟩
    rintro (marked | waiting)
    · cases marked
    · exact absent (.processNewDevice eui64) nofun waiting
  · intro callback member _
    exact Or.inr (Or.inr (Or.inl (List.mem_map_of_mem member)))

/-- A callback that has not arrived is held by its thread until it is saved or its device has been handed over. -/
theorem arrived_step {shared next : Shared} {before after : List Thread} {thread moved : Thread} {answers : Answers}
    {callback : Callback} (plain : answers.repairing = false ∧ answers.previouslyRejected = false ∧
      answers.previouslyFailedToPair = false)
    (known : answers.known = true → thread = .created callback →
      .deviceDiscovered ∈ stages callback.eui64 shared.effects)
    (arrived : callback ∈ shared.arrivals ∨ .deviceDiscovered ∈ stages callback.eui64 shared.effects ∨
      .created callback ∈ before ++ thread :: after ∨ .saveJoinAnnounceInfo callback ∈ before ++ thread :: after)
    (taken : move shared thread answers = some (next, moved)) :
    callback ∈ next.arrivals ∨ .deviceDiscovered ∈ stages callback.eui64 next.effects ∨
      .created callback ∈ before ++ moved :: after ∨ .saveJoinAnnounceInfo callback ∈ before ++ moved :: after := by
  obtain ⟨arrivals, effects⟩ := move_grows taken
  have kept : .deviceDiscovered ∈ stages callback.eui64 shared.effects →
      .deviceDiscovered ∈ stages callback.eui64 next.effects :=
    fun member => (effects.filterMap _).subset member
  rcases arrived with saved | handed | created | saving
  · exact Or.inl (arrivals.subset saved)
  · exact Or.inr (Or.inl (kept handed))
  · rcases mem_middle.mp created with rfl | other
    · cases answer : answers.known with
      | true => exact Or.inr (Or.inl (kept (known answer rfl)))
      | false =>
          have asked : askDeviceService callback answers = .saveJoinAnnounceInfo callback := by
            cases callback <;> simp [askDeviceService, answer, plain]
          simp only [move, asked] at taken
          cases taken
          exact Or.inr (Or.inr (Or.inr (mem_middle.mpr (Or.inl rfl))))
    · exact Or.inr (Or.inr (Or.inl (mem_middle.mpr (Or.inr other))))
  · rcases mem_middle.mp saving with rfl | other
    · cases taken
      exact Or.inl (List.mem_append_right _ (List.mem_singleton_self _))
    · exact Or.inr (Or.inr (Or.inr (mem_middle.mpr (Or.inr other))))

theorem Followed.step {current next : Configuration Shared Thread} {input : Nat × Answers}
    (followed : Followed recorded callbacks eui64 current) (answers : plainAnswers current input = true)
    (stepped : Threads.step move current input = some next) : Followed recorded callbacks eui64 next := by
  obtain ⟨before, thread, after, shared, moved, split, found, taken, rfl⟩ := step_at stepped
  unfold plainAnswers at answers
  rw [found] at answers
  simp only [Bool.and_eq_true, Bool.not_eq_true', Bool.or_eq_true] at answers
  obtain ⟨⟨⟨⟨repairing, rejected⟩, failed⟩, details⟩, known⟩ := answers
  obtain ⟨session, plain, tracked, arrived⟩ := followed
  rw [split] at plain tracked arrived
  obtain ⟨moves, running, still⟩ := move_moves eui64 session (plain thread (by simp)) failed details taken
  obtain ⟨restDiscovers, restProcesses⟩ := sum_rest eui64 before after thread
  refine ⟨running, ?_, ?_, ?_⟩
  · intro other member
    rcases mem_middle.mp member with rfl | member
    · exact still
    · exact plain other (mem_middle.mpr (Or.inr member))
  · exact tracked.step moves (sum_replace _ _ _ _ _) (sum_replace _ _ _ _ _) restDiscovers restProcesses
      mem_middle mem_middle
  · intro callback member same
    have held := arrived callback member same
    rw [← same] at held ⊢
    refine arrived_step ⟨repairing, rejected, failed⟩ ?_ held taken
    intro answer created
    rw [answer, created] at known
    rcases known with unknown | handed
    · cases unknown
    · exact List.contains_iff_mem.mp handed

/-- A join and an announce with known type and power source have arrived. -/
def BothArrived (recorded : AnnouncedDevice) (arrivals : List Callback) : Prop :=
  HasJoined recorded arrivals ∧
    ∃ announce ∈ (recorded.deviceType, recorded.powerSource) :: arrivals.filterMap Callback.announce, Known announce

theorem BecomesReady.bothArrived {arrivals : List Callback} (ready : BecomesReady recorded arrivals) :
    BothArrived recorded arrivals := by
  obtain ⟨first, _, ⟨rest, rfl⟩, joined, known⟩ := ready
  constructor
  · exact joined.imp_right fun ⟨callback, member, join⟩ => ⟨callback, List.mem_append_left _ member, join⟩
  · refine ⟨_, ?_, known⟩
    unfold lastAnnounce
    rw [List.getLastD_eq_getLast?]
    cases last : (first.filterMap Callback.announce).getLast? with
    | none => exact List.mem_cons_self
    | some announce =>
        rw [List.filterMap_append]
        exact List.mem_cons_of_mem _ (List.mem_append_left _ (List.mem_of_getLast? last))

/-- The device is handed over at most once and only after both callbacks. When all callbacks have returned, it has been
handed over if both were called. -/
structure ProcessedOnce (recorded : AnnouncedDevice) (callbacks : List Callback) (eui64 : UInt64)
    (current : Configuration Shared Thread) : Prop where
  order : stages eui64 current.shared.effects <+: [.discoverDeviceDetails, .deviceDiscovered]
  both : stages eui64 current.shared.effects ≠ [] → BothArrived recorded (ofDevice eui64 current.shared.arrivals)
  once : (∀ thread ∈ current.threads, thread = .returned) → BothArrived recorded (ofDevice eui64 callbacks) →
    stages eui64 current.shared.effects = [.discoverDeviceDetails, .deviceDiscovered]

/-- A device is ready when it is marked as processed, and it has been handed over when all callbacks have returned. -/
theorem Followed.stages_iff {current : Configuration Shared Thread}
    (followed : Followed recorded callbacks eui64 current)
    (returned : ∀ thread ∈ current.threads, thread = .returned) :
    stages eui64 current.shared.effects = [.discoverDeviceDetails, .deviceDiscovered] ↔
      BecomesReady recorded (ofDevice eui64 current.shared.arrivals) := by
  have idle : (current.threads.map (Thread.processes eui64)).sum = 0 := by
    apply List.sum_eq_zero
    intro share member
    obtain ⟨thread, inside, rfl⟩ := List.mem_map.mp member
    rw [returned thread inside]
    rfl
  have processes := followed.tracked.processes
  rw [idle, add_zero] at processes
  have ready := followed.tracked.ready
  have silent : Thread.processNewDevice eui64 ∉ current.threads := fun waiting => nomatch returned _ waiting
  rw [or_iff_left silent] at ready
  show (current.shared.view eui64).stages = _ ↔ BecomesReady recorded (current.shared.view eui64).arrivals
  rw [ready]
  cases processed : (current.shared.view eui64).processed with
  | false =>
      rw [processed] at processes
      have none : (current.shared.view eui64).stages.count .deviceDiscovered = 0 := by
        have zero : markOf false = 0 := rfl
        omega
      refine iff_of_false ?_ Bool.false_ne_true
      intro both
      rw [both] at none
      exact absurd none (by decide)
  | true =>
      rw [processed] at processes
      refine iff_of_true ?_ rfl
      rcases stages_cases followed.tracked.order with none | one | both
      · rw [none] at processes
        exact absurd processes (by decide)
      · rw [one] at processes
        exact absurd processes (by decide)
      · exact both

/-- A device is handed over only when it is ready. -/
theorem Followed.ready {current : Configuration Shared Thread}
    (followed : Followed recorded callbacks eui64 current) (handed : stages eui64 current.shared.effects ≠ []) :
    BecomesReady recorded (ofDevice eui64 current.shared.arrivals) := by
  apply followed.tracked.ready.mpr
  left
  by_contra fresh
  have discovers := followed.tracked.discovers
  have nonneg : 0 ≤ (current.threads.map (Thread.discovers eui64)).sum := by
    apply List.sum_nonneg
    intro share member
    obtain ⟨thread, _, rfl⟩ := List.mem_map.mp member
    exact discovers_nonneg eui64 thread
  have unmarked : markOf (current.shared.view eui64).processed = 0 := if_neg fresh
  have none : (current.shared.view eui64).stages.count .discoverDeviceDetails = 0 := by omega
  rcases stages_cases followed.tracked.order with empty | one | both
  · exact handed empty
  · rw [one] at none
    exact absurd none (by decide)
  · rw [both] at none
    exact absurd none (by decide)

/-- In every session a device is processed once exactly when at some arrival it has joined while its latest announce has
a known type and power source. A device that is not handed over has had all its callbacks saved. -/
theorem run_processedOnce {before : EventHandler} {callbacks : List Callback} {schedule : List (Nat × Answers)}
    {final : Configuration Shared Thread}
    (plain : Runs.Guarded (Threads.step move) (fun current input => plainAnswers current input = true)
      (session before callbacks) schedule)
    (reached : run before callbacks schedule = some final) (eui64 : UInt64) :
    (ProcessedOnce (before.entry eui64) callbacks eui64 final ↔
      ((∀ thread ∈ final.threads, thread = .returned) →
        BothArrived (before.entry eui64) (ofDevice eui64 callbacks) →
        BecomesReady (before.entry eui64) (ofDevice eui64 final.shared.arrivals))) ∧
      ((∀ thread ∈ final.threads, thread = .returned) → stages eui64 final.shared.effects = [] →
        ∀ callback ∈ ofDevice eui64 callbacks, callback ∈ ofDevice eui64 final.shared.arrivals) := by
  have followed : Followed (before.entry eui64) callbacks eui64 final :=
    Runs.Guarded.invariant _ _ (fun _ _ _ holds answers stepped => holds.step answers stepped) plain
      (followed_session before callbacks eui64) reached
  constructor
  · constructor
    · intro processed returned both
      exact (followed.stages_iff returned).mp (processed.once returned both)
    · intro ready
      refine ⟨followed.tracked.order, fun handed => (followed.ready handed).bothArrived, ?_⟩
      intro returned both
      exact (followed.stages_iff returned).mpr (ready returned both)
  · intro returned untouched callback member
    obtain ⟨called, same⟩ := List.mem_filter.mp member
    have device : callback.eui64 = eui64 := of_decide_eq_true same
    refine List.mem_filter.mpr ⟨?_, same⟩
    rcases followed.arrived callback called device with saved | handed | created | saving
    · exact saved
    · rw [untouched] at handed
      cases handed
    · cases returned _ created
    · cases returned _ saving

end Runs

section Sample

/-- These answers are given for a device that is unknown and whose details are discovered. -/
def plain : Answers := ⟨false, false, false, false, true⟩

/-- Nothing is on record before the session. -/
def emptyHandler : EventHandler := ⟨fun _ => none, none⟩

/-- The device 1 is announced, and two joins of it arrive. -/
def sampleCallbacks : List Callback :=
  [.deviceAnnounced 1 .endDevice .battery, .deviceJoined 1, .deviceJoined 1]

theorem run_processedOnce_joinedTwice :
    ∃ final, run emptyHandler sampleCallbacks
        ([0, 1, 1, 0, 2, 2, 0, 2, 0, 0, 0, 0].map fun index => (index, plain)) = some final ∧
      (∀ thread ∈ final.threads, thread = .returned) ∧ ProcessedOnce .new sampleCallbacks 1 final := by
  have computed : (run emptyHandler sampleCallbacks
      ([0, 1, 1, 0, 2, 2, 0, 2, 0, 0, 0, 0].map fun index => (index, plain))).map
      (fun final => (final.threads, final.shared.arrivals)) =
        some ([.returned, .returned, .returned],
          [.deviceJoined 1, .deviceAnnounced 1 .endDevice .battery, .deviceJoined 1]) := by decide +kernel
  obtain ⟨final, reached, same⟩ := Option.map_eq_some_iff.mp computed
  obtain ⟨threads, arrivals⟩ := Prod.mk.inj same
  refine ⟨final, reached, by rw [threads]; decide, ?_⟩
  refine ((run_processedOnce (by decide +kernel) reached 1).1).mpr ?_
  intro _ _
  rw [arrivals]
  refine ⟨[.deviceJoined 1, .deviceAnnounced 1 .endDevice .battery], by decide, ⟨[.deviceJoined 1], by decide⟩, ?_, ?_⟩
  · exact Or.inr ⟨.deviceJoined 1, by decide, by decide⟩
  · exact ⟨by decide, by decide⟩

/-- An announce with unknown type overwrites the known one before the join arrives, so the device is never processed. -/
theorem not_run_processedOnce :
    Runs.Guarded (Threads.step move) (fun current input => plainAnswers current input = true)
      (session emptyHandler
        [.deviceAnnounced 1 .endDevice .battery, .deviceAnnounced 1 .unknown .unknown, .deviceJoined 1])
      ([0, 0, 1, 1, 2, 2].map fun index => (index, plain)) ∧
    ∃ final, run emptyHandler
        [.deviceAnnounced 1 .endDevice .battery, .deviceAnnounced 1 .unknown .unknown, .deviceJoined 1]
        ([0, 0, 1, 1, 2, 2].map fun index => (index, plain)) = some final ∧
      ¬ ProcessedOnce .new
        [.deviceAnnounced 1 .endDevice .battery, .deviceAnnounced 1 .unknown .unknown, .deviceJoined 1] 1 final := by
  have computed : (run emptyHandler
      [.deviceAnnounced 1 .endDevice .battery, .deviceAnnounced 1 .unknown .unknown, .deviceJoined 1]
      ([0, 0, 1, 1, 2, 2].map fun index => (index, plain))).map
      (fun final => (final.threads, final.shared.effects)) =
        some ([.returned, .returned, .returned], []) := by decide +kernel
  obtain ⟨final, reached, same⟩ := Option.map_eq_some_iff.mp computed
  obtain ⟨threads, effects⟩ := Prod.mk.inj same
  refine ⟨by decide +kernel, final, reached, ?_⟩
  intro processed
  have handed := processed.once (by rw [threads]; decide) ⟨?_, ?_⟩
  · rw [effects] at handed
    exact absurd handed (by decide)
  · exact Or.inr ⟨.deviceJoined 1, by decide, by decide⟩
  · exact ⟨(.endDevice, .battery), by decide, by decide, by decide⟩

end Sample

end Barton.ZigbeeJoining
