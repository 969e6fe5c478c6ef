import BartonCore.Construction.Zigbee.EventTracker
import Mathlib.Data.List.ReduceOption

namespace Barton.EventTracker
open Threads (Configuration)
open Windows (newest push repetitions since)

section Histories

abbrev Log := List (Access × Answer)

/-- A life of the collections begins with their creation. -/
def live (current : Option Log) (entry : Access × Answer) : Option Log :=
  match entry.1 with
  | .initEventTracker _ _ => some []
  | .shutDownEventTracker => none
  | _ => current.map fun log => log ++ [entry]

/-- The accesses of the current life. -/
def life (log : Log) : Option Log := log.foldl live none

/-- The events of a device in order. A reset of its delay is no event. -/
def entryOf (deviceId : String) (entry : Access × Answer) : Option (Option StatEvent) :=
  match entry.1 with
  | .locateAndAddEventToCollection type other => if other = deviceId then some (some type) else none
  | .resetSensorDelayCounters other => if other = deviceId then some none else none
  | _ => none

def history (deviceId : String) (log : Log) : List (Option StatEvent) := log.filterMap (entryOf deviceId)

/-- A history without an event is unknown. -/
def occurred (entries : List (Option StatEvent)) : Option (List (Option StatEvent)) :=
  if entries.reduceOption = [] then none else some entries

/-- A device is known after its first event in the current life. -/
def known (log : Log) (deviceId : String) : Option (List (Option StatEvent)) :=
  ((life log).map (history deviceId)).bind occurred

@[simp] def StatEvent.report : StatEvent → Option DeviceAttributeItem
  | .attributeReport item => some item
  | _ => none

@[simp] def StatEvent.rejoin : StatEvent → Option DeviceRejoinItem
  | .detailedRejoin item => some item
  | _ => none

@[simp] def StatEvent.timeStamp : StatEvent → Option String
  | .checkIn timeStamp => some timeStamp
  | _ => none

@[simp] def StatEvent.strength : StatEvent → Option String
  | .magneticStrengthReport valueString => some valueString
  | _ => none

@[simp] def StatEvent.seqNum : StatEvent → Option UInt8
  | .duplicateSeqNum newSeqNum => some newSeqNum
  | _ => none

@[simp] def StatEvent.delay : StatEvent → Option UInt16
  | .iasNotifySensorDelay delayQS => some delayQS
  | _ => none

@[simp] def StatEvent.isRejoin : StatEvent → Bool
  | .basicRejoinCheckIn _ => true
  | _ => false

/-- The counters of a device follow from its history. -/
def counters (entries : List (Option StatEvent)) : DeviceEventCounterItem :=
  let events := entries.reduceOption
  { totalRejoinEvents := UInt32.ofNat (events.countP StatEvent.isRejoin)
    totalSecureRejoinEvents := UInt32.ofNat (events.count (.basicRejoinCheckIn true))
    totalUnSecureRejoinEvents := UInt32.ofNat (events.count (.basicRejoinCheckIn false))
    totalApsAckFailureEvents := UInt32.ofNat (events.count .apsAckFailure)
    totalDuplicateSeqNumEvents := UInt32.ofNat (repetitions (events.filterMap StatEvent.seqNum))
    cumulativeSensorDelayQS := UInt32.ofNat (((since Option.isNone entries).reduceOption.filterMap
      StatEvent.delay).map UInt16.toNat).sum }

/-- The holder of a device follows from its history. -/
def digest (entries : List (Option StatEvent)) : DeviceStatHolder :=
  let events := entries.reduceOption
  { attributeReportList := newest 8 (events.filterMap StatEvent.report)
    detailRejoinList := newest 5 (events.filterMap StatEvent.rejoin)
    checkInList := newest 5 (events.filterMap StatEvent.timeStamp)
    magneticStrength := (events.filterMap StatEvent.strength).getLast?
    eventCounters := counters entries
    previousSeqNum := ((events.filterMap StatEvent.seqNum).getLast?.map UInt8.toUInt32).getD 0xffffffff }

end Histories

section Digests
variable (entries : List (Option StatEvent))

/-- The previous sequence number is the default or the last one. -/
theorem equals_previous (newSeqNum : UInt8) (last : Option UInt8) :
    newSeqNum.toUInt32 = (last.map UInt8.toUInt32).getD 0xffffffff ↔ last = some newSeqNum := by
  cases last with
  | none =>
      have small : newSeqNum.toUInt32 ≠ 0xffffffff := by
        intro same
        have value := congrArg UInt32.toNat same
        have bound := newSeqNum.toNat_lt
        simp at value
        omega
      simpa using small
  | some previous =>
      rw [Option.map_some, Option.getD_some, Option.some.injEq, UInt8.toUInt32_inj, eq_comm]

/-- The digest of a longer history adds the event to the holder. -/
theorem digest_event (event : StatEvent) : digest (entries ++ [some event]) = (addEvent (digest entries) event).2 := by
  have events : (entries ++ [some event]).reduceOption = entries.reduceOption ++ [event] := by
    rw [List.reduceOption_append]
    rfl
  have recent : (since Option.isNone (entries ++ [some event])).reduceOption =
      (since Option.isNone entries).reduceOption ++ [event] := by
    rw [Windows.since_append rfl, List.reduceOption_append]
    rfl
  have pushes {Item : Type} (bound : Nat) (positive : 0 < bound) (items : List Item) (item : Item) :=
    (Windows.push_newest positive items item).symm
  unfold digest counters
  rw [events, recent]
  cases event with
  | duplicateSeqNum newSeqNum =>
      have same := equals_previous newSeqNum (entries.reduceOption.filterMap StatEvent.seqNum).getLast?
      have counted := Windows.repetitions_append (entries.reduceOption.filterMap StatEvent.seqNum) newSeqNum
      dsimp only [addEvent, addEventCounterInfoToDeviceStatHolder]
      by_cases repeated : (entries.reduceOption.filterMap StatEvent.seqNum).getLast? = some newSeqNum
      · rw [if_pos repeated] at counted
        rw [if_pos (same.mpr repeated)]
        simp [List.filterMap_cons, counted, repeated]
      · rw [if_neg repeated] at counted
        rw [if_neg (mt same.mp repeated)]
        simp [List.filterMap_cons, counted]
  | basicRejoinCheckIn isSecure =>
      cases isSecure <;> simp [addEvent, addEventCounterInfoToDeviceStatHolder, List.filterMap_cons]
  | _ =>
      simp [addEvent, addEventCounterInfoToDeviceStatHolder, addEventInfoToDeviceStatHolderList, List.filterMap_cons,
        pushes, maxNumberOfAttributeReports, maxNumberOfRejoins, maxNumberOfCheckIns]

theorem digest_reset : digest (entries ++ [none]) = { digest entries with
    eventCounters := { (digest entries).eventCounters with cumulativeSensorDelayQS := 0 } } := by
  have events : (entries ++ [none]).reduceOption = entries.reduceOption := by
    rw [List.reduceOption_append]
    exact List.append_nil _
  have recent : since Option.isNone (entries ++ [none]) = ([] : List (Option StatEvent)) := Windows.since_reset rfl _
  unfold digest counters
  rw [events, recent]
  rfl

/-- Without an event the holder is the new one. -/
theorem digest_empty (none : entries.reduceOption = []) : digest entries = createDeviceStatHolder := by
  have recent : (since Option.isNone entries).reduceOption = [] := by
    have inside : (since Option.isNone entries).Sublist entries := (List.rtakeWhile_suffix _ _).sublist
    exact List.sublist_nil.mp (none ▸ inside.filterMap id)
  unfold digest counters
  rw [none, recent]
  rfl

end Digests

section Invariants

def isCollectUpgradeSuccesses (entry : Access × Answer) : Bool := entry.1 = .collectUpgradeSuccesses

def isCollectUpgradeFailures (entry : Access × Answer) : Bool := entry.1 = .collectUpgradeFailures

def upgradeFailure (entry : Access × Answer) : Option DeviceUpgFailureItem :=
  match entry.1 with
  | .addUpgradeFailure item => some item
  | _ => none

def scanOf (entry : Access × Answer) : Option ChannelEnergyScanDataItem :=
  match entry.1 with
  | .storeScan item => some item
  | _ => none

/-- These successes are not collected yet. -/
def pendingSuccesses (log : Log) : Nat :=
  (since isCollectUpgradeSuccesses log).countP fun entry => entry.1 = .addUpgradeSuccess

/-- These failures of a life are not collected yet. -/
def pendingFailures (log : Log) : List DeviceUpgFailureItem :=
  (since isCollectUpgradeFailures log).filterMap upgradeFailure

/-- The scans of a life are stored one after the other. -/
def storedScans (scans : List ChannelEnergyScanDataItem) : List ChannelEnergyScanDataItem :=
  scans.foldl (fun collection item => storeScan item collection) []

/-- The collections follow from the accesses. -/
structure Agrees (shared : Shared) : Prop where
  alive : shared.tracker.deviceCollection.isSome = (life shared.log).isSome
  holders : ∀ deviceId, shared.tracker.holder deviceId = (known shared.log deviceId).map digest
  successes : shared.tracker.numberOfDeviceUpgSuccess = Int32.ofNat (pendingSuccesses shared.log)
  failures : shared.tracker.deviceUpgradeFailures = (life shared.log).map pendingFailures
  scans : shared.tracker.channelCollection = (life shared.log).map fun log => storedScans (log.filterMap scanOf)

@[simp] theorem life_append (log : Log) (entry : Access × Answer) : life (log ++ [entry]) = live (life log) entry := by
  rw [life, List.foldl_append]
  rfl

theorem history_append (deviceId : String) (log : Log) (entry : Access × Answer) :
    history deviceId (log ++ [entry]) = history deviceId log ++ (entryOf deviceId entry).toList := by
  rw [history, List.filterMap_append]
  rfl

theorem pendingFailures_append (log : Log) (entry : Access × Answer) : pendingFailures (log ++ [entry]) =
    if isCollectUpgradeFailures entry then [] else pendingFailures log ++ (upgradeFailure entry).toList := by
  unfold pendingFailures
  split
  · next collects => rw [Windows.since_reset collects, List.filterMap_nil]
  · next kept =>
      rw [Windows.since_append (Bool.not_eq_true _ ▸ kept), List.filterMap_append]
      rfl

theorem storedScans_append (log : Log) (entry : Access × Answer) : storedScans ((log ++ [entry]).filterMap scanOf) =
    ((scanOf entry).map fun item => storeScan item (storedScans (log.filterMap scanOf))).getD
      (storedScans (log.filterMap scanOf)) := by
  rw [List.filterMap_append]
  cases stored : scanOf entry with
  | none => simp [stored]
  | some item => simp [storedScans, stored]

/-- An unknown device gets a new holder. -/
theorem holder_known (entries : List (Option StatEvent)) :
    ((occurred entries).map digest).getD createDeviceStatHolder = digest entries := by
  rw [occurred]
  split
  · next unknown => rw [digest_empty entries unknown, Option.map_none, Option.getD_none]
  · rw [Option.map_some, Option.getD_some]

variable (tracker : Tracker)

/-- An event changes only the holder of its device. -/
theorem locateAndAdd_spec (type : StatEvent) (deviceId : String) :
    ∃ deviceCollection, (locateAndAddEventToCollection tracker type deviceId).2 =
      { tracker with deviceCollection := deviceCollection } ∧
      deviceCollection.isSome = tracker.deviceCollection.isSome ∧
      ∀ other, (deviceCollection.bind fun collection => collection.lookup other) =
        if other = deviceId then tracker.deviceCollection.map fun _ =>
          (addEvent ((tracker.holder deviceId).getD createDeviceStatHolder) type).2
        else tracker.holder other := by
  unfold locateAndAddEventToCollection Tracker.holder
  obtain ⟨successes, failures, scans, collection, reports, channels⟩ := tracker
  cases collection with
  | none => exact ⟨none, rfl, rfl, fun other => by split <;> rfl⟩
  | some deviceCollection =>
      refine ⟨_, rfl, rfl, fun other => ?_⟩
      dsimp only [Option.bind_some, Option.map_some]
      split
      · next same => rw [same, AList.lookup_insert]
      · next different => rw [AList.lookup_insert_ne different]

/-- A reset changes only the delay of its device. -/
def withoutDelay (holder : DeviceStatHolder) : DeviceStatHolder :=
  { holder with eventCounters := { holder.eventCounters with cumulativeSensorDelayQS := 0 } }

theorem resetSensorDelayCounters_spec (deviceId : String) :
    ∃ deviceCollection, (resetSensorDelayCounters tracker deviceId).2 =
      { tracker with deviceCollection := deviceCollection } ∧
      deviceCollection.isSome = tracker.deviceCollection.isSome ∧
      ∀ other, (deviceCollection.bind fun collection => collection.lookup other) =
        if other = deviceId then (tracker.holder deviceId).map withoutDelay else tracker.holder other := by
  unfold resetSensorDelayCounters Tracker.holder
  obtain ⟨successes, failures, scans, collection, reports, channels⟩ := tracker
  cases collection with
  | none => exact ⟨none, rfl, rfl, fun other => by split <;> rfl⟩
  | some deviceCollection =>
      dsimp only [Option.bind_some]
      cases found : deviceCollection.lookup deviceId with
      | none =>
          refine ⟨some deviceCollection, rfl, rfl, fun other => ?_⟩
          split
          · next same => rw [Option.bind_some, same, found, Option.map_none]
          · rfl
      | some holder =>
          refine ⟨_, rfl, rfl, fun other => ?_⟩
          rw [Option.bind_some, Option.map_some]
          split
          · next same =>
              rw [same, AList.lookup_insert]
              rfl
          · next different => rw [AList.lookup_insert_ne different]

/-- These accesses are to the holder of a device. -/
def Access.OnDevice : Access → Prop
  | .locateAndAddEventToCollection _ _ | .resetSensorDelayCounters _ => True
  | _ => False

theorem perform_onDevice (access : Access) (device : access.OnDevice) :
    ∃ deviceCollection, (tracker.perform access).2 = { tracker with deviceCollection := deviceCollection } ∧
      deviceCollection.isSome = tracker.deviceCollection.isSome := by
  cases access with
  | locateAndAddEventToCollection type deviceId =>
      obtain ⟨deviceCollection, changed, same, -⟩ := locateAndAdd_spec tracker type deviceId
      exact ⟨deviceCollection, changed, same⟩
  | resetSensorDelayCounters deviceId =>
      obtain ⟨deviceCollection, changed, same, -⟩ := resetSensorDelayCounters_spec tracker deviceId
      exact ⟨deviceCollection, changed, same⟩
  | _ => cases device

variable {tracker : Tracker} {log : Log} (agrees : Agrees ⟨tracker, log⟩) (access : Access)
include agrees

theorem perform_successes : (tracker.perform access).2.numberOfDeviceUpgSuccess =
    Int32.ofNat (pendingSuccesses (log ++ [(access, (tracker.perform access).1)])) := by
  have before := agrees.successes
  dsimp only at before
  by_cases collects : access = .collectUpgradeSuccesses
  · subst collects
    rw [pendingSuccesses, Windows.since_reset rfl]
    rfl
  · have kept : isCollectUpgradeSuccesses (access, (tracker.perform access).1) = false := decide_eq_false collects
    rw [pendingSuccesses, Windows.since_append kept, List.countP_append, List.countP_singleton]
    rw [pendingSuccesses] at before
    rw [Int32.ofNat_add, ← before]
    have onDevice := perform_onDevice tracker access
    cases access with
    | collectUpgradeSuccesses => exact absurd rfl collects
    | locateAndAddEventToCollection | resetSensorDelayCounters =>
        obtain ⟨deviceCollection, changed, -⟩ := onDevice trivial
        rw [changed]
        exact (Int32.add_zero _).symm
    | addUpgradeSuccess => rfl
    | _ => exact (Int32.add_zero _).symm

theorem perform_failures : (tracker.perform access).2.deviceUpgradeFailures =
    (life (log ++ [(access, (tracker.perform access).1)])).map pendingFailures := by
  have before := agrees.failures
  dsimp only at before
  rw [life_append]
  have onDevice := perform_onDevice tracker access
  cases access with
  | initEventTracker | shutDownEventTracker => rfl
  | locateAndAddEventToCollection | resetSensorDelayCounters =>
      obtain ⟨deviceCollection, changed, -⟩ := onDevice trivial
      rw [changed]
      simp [before, live, Function.comp_def, pendingFailures_append, isCollectUpgradeFailures, upgradeFailure]
  | _ =>
      simp [before, Tracker.perform, live, Function.comp_def, pendingFailures_append, isCollectUpgradeFailures,
        upgradeFailure]

theorem perform_scans : (tracker.perform access).2.channelCollection =
    (life (log ++ [(access, (tracker.perform access).1)])).map fun log => storedScans (log.filterMap scanOf) := by
  have before := agrees.scans
  dsimp only at before
  rw [life_append]
  have onDevice := perform_onDevice tracker access
  cases access with
  | initEventTracker | shutDownEventTracker => rfl
  | locateAndAddEventToCollection | resetSensorDelayCounters =>
      obtain ⟨deviceCollection, changed, -⟩ := onDevice trivial
      rw [changed]
      simp [before, live, Function.comp_def, storedScans_append, scanOf, -List.filterMap_append]
  | _ => simp [before, Tracker.perform, live, Function.comp_def, storedScans_append, scanOf, -List.filterMap_append]

theorem perform_alive : (tracker.perform access).2.deviceCollection.isSome =
    (life (log ++ [(access, (tracker.perform access).1)])).isSome := by
  have before := agrees.alive
  dsimp only at before
  rw [life_append]
  have onDevice := perform_onDevice tracker access
  cases access with
  | initEventTracker | shutDownEventTracker => rfl
  | locateAndAddEventToCollection | resetSensorDelayCounters =>
      obtain ⟨deviceCollection, changed, same⟩ := onDevice trivial
      rw [changed]
      simp [same, before, live]
  | _ => simp [before, Tracker.perform, live]

theorem perform_holders (deviceId : String) : (tracker.perform access).2.holder deviceId =
    (known (log ++ [(access, (tracker.perform access).1)]) deviceId).map digest := by
  have before := agrees.holders deviceId
  have alive := agrees.alive
  dsimp only at before alive
  unfold known at before ⊢
  rw [life_append]
  cases access with
  | initEventTracker | shutDownEventTracker => rfl
  | locateAndAddEventToCollection type other =>
      obtain ⟨deviceCollection, changed, -, lookups⟩ := locateAndAdd_spec tracker type other
      rw [Tracker.perform, changed]
      refine (lookups deviceId).trans ?_
      by_cases same : deviceId = other
      · subst same
        rw [if_pos rfl, before]
        cases alive' : life log with
        | none =>
            rw [alive', Option.isSome_none, Option.isSome_eq_false_iff, Option.isNone_iff_eq_none] at alive
            rw [alive]
            rfl
        | some lived =>
            rw [alive', Option.isSome_some, Option.isSome_iff_exists] at alive
            obtain ⟨collection, present⟩ := alive
            rw [present, Option.map_some, Option.map_some, Option.bind_some, holder_known]
            simp [live, history_append, entryOf, occurred, digest_event, List.reduceOption_append]
      · rw [if_neg same, before]
        simp [live, Function.comp_def, history_append, entryOf, Ne.symm same]
  | resetSensorDelayCounters other =>
      obtain ⟨deviceCollection, changed, -, lookups⟩ := resetSensorDelayCounters_spec tracker other
      rw [Tracker.perform, changed]
      refine (lookups deviceId).trans ?_
      by_cases same : deviceId = other
      · subst same
        rw [if_pos rfl, before]
        cases life log with
        | none => rfl
        | some lived =>
            have kept : (history deviceId lived ++ [none]).reduceOption = (history deviceId lived).reduceOption := by
              rw [List.reduceOption_append]
              exact List.append_nil _
            by_cases unknown : (history deviceId lived).reduceOption = []
            · simp [live, history_append, entryOf, occurred, kept, unknown]
            · simp [live, history_append, entryOf, occurred, kept, unknown, digest_reset, withoutDelay]
      · rw [if_neg same, before]
        simp [live, Function.comp_def, history_append, entryOf, Ne.symm same]
  | _ => simp_all [Tracker.perform, Tracker.holder, live, Function.comp_def, history_append, entryOf]

theorem agrees_perform :
    Agrees ⟨(tracker.perform access).2, log ++ [(access, (tracker.perform access).1)]⟩ where
  alive := perform_alive agrees access
  holders := perform_holders agrees access
  successes := perform_successes agrees access
  failures := perform_failures agrees access
  scans := perform_scans agrees access

end Invariants

section Runs
variable {threads : List (List Access)} {schedule : List (Nat × Unit)} {final : Configuration Shared (List Access)}

/-- One access follows the other. -/
theorem run_invariant {property : Shared → Prop} (initial : property .initial)
    (kept : ∀ tracker log access, property ⟨tracker, log⟩ →
      property ⟨(tracker.perform access).2, log ++ [(access, (tracker.perform access).1)]⟩)
    (reached : run threads schedule = some final) : property final.shared := by
  refine Runs.invariant (Threads.step move) (fun current => property current.shared) ?_ initial reached
  intro current input next holds stepped
  obtain ⟨before, thread, after, shared, moved, split, position, taken, rfl⟩ := Threads.step_split stepped
  cases thread with
  | nil => cases taken
  | cons access rest =>
      cases taken
      exact kept current.shared.tracker current.shared.log access holds

theorem agrees_initial : Agrees .initial := ⟨rfl, fun _ => rfl, rfl, rfl, rfl⟩

theorem agrees_run (reached : run threads schedule = some final) : Agrees final.shared :=
  run_invariant agrees_initial (fun _ _ access agrees => agrees_perform agrees access) reached

end Runs

section Collections
variable {threads : List (List Access)} {schedule : List (Nat × Unit)} {final : Configuration Shared (List Access)}

/-- This is the result that a collecting function has after the accesses. -/
def collected (log : Log) : Access → Option Answer
  | .collectAttributeReports deviceId => some (.attributeReports ((known log deviceId).map fun entries =>
      newest 8 (entries.reduceOption.filterMap StatEvent.report)))
  | .collectRejoins deviceId => some (.rejoins ((known log deviceId).map fun entries =>
      newest 5 (entries.reduceOption.filterMap StatEvent.rejoin)))
  | .collectCheckIns deviceId => some (.checkIns ((known log deviceId).map fun entries =>
      newest 5 (entries.reduceOption.filterMap StatEvent.timeStamp)))
  | .collectMagneticStrength deviceId => some (.magneticStrength ((known log deviceId).bind fun entries =>
      (entries.reduceOption.filterMap StatEvent.strength).getLast?))
  | .collectEventCounters deviceId => some (.eventCounters (((known log deviceId).map counters).getD noEvents))
  | .collectUpgradeSuccesses => some (.upgradeSuccesses (Int32.ofNat (pendingSuccesses log)))
  | .collectUpgradeFailures => some (.upgradeFailures ((life log).map pendingFailures))
  | _ => none

/-- Every collected result follows from the accesses before it. -/
def Exact (log : Log) : Prop :=
  ∀ before access answer after, log = before ++ (access, answer) :: after →
    ∀ expected ∈ collected before access, answer = expected

theorem perform_collected {tracker : Tracker} {log : Log} (agrees : Agrees ⟨tracker, log⟩) (access : Access) :
    ∀ expected ∈ collected log access, (tracker.perform access).1 = expected := by
  intro expected wanted
  have holders := agrees.holders
  have successes := agrees.successes
  have failures := agrees.failures
  dsimp only at holders successes failures
  cases access <;> cases wanted
  case collectAttributeReports deviceId =>
      rw [Tracker.perform, holders, Option.map_map]
      rfl
  case collectRejoins deviceId =>
      rw [Tracker.perform, holders, Option.map_map]
      rfl
  case collectCheckIns deviceId =>
      rw [Tracker.perform, holders, Option.map_map]
      rfl
  case collectMagneticStrength deviceId =>
      rw [Tracker.perform, holders, Option.bind_map]
      rfl
  case collectEventCounters deviceId =>
      rw [Tracker.perform, holders, Option.map_map]
      rfl
  case collectUpgradeSuccesses => rw [Tracker.perform, successes]
  case collectUpgradeFailures => rw [Tracker.perform, failures]

theorem exact_append {log : Log} (sound : Exact log) {access : Access} {answer : Answer}
    (last : ∀ expected ∈ collected log access, answer = expected) : Exact (log ++ [(access, answer)]) := by
  intro before other result after split
  rcases List.eq_nil_or_concat after with rfl | ⟨rest, final, rfl⟩
  · obtain ⟨rfl, same⟩ := List.append_inj' split rfl
    cases same
    exact last
  · rw [List.concat_eq_append, ← List.cons_append, ← List.append_assoc] at split
    exact sound before other result rest (List.append_inj' split rfl).1

/-- In every run of threads, each collecting function returns the newest events of the device since the start, its
counters, or the upgrades since the last collection. -/
theorem collections_exact (reached : run threads schedule = some final) : Exact final.shared.log := by
  have initial : Agrees .initial ∧ Exact Shared.initial.log := by
    refine ⟨agrees_initial, ?_⟩
    intro before access answer after split
    exact absurd split.symm (by simp [Shared.initial])
  have kept (tracker : Tracker) (log : Log) (access : Access) (both : Agrees ⟨tracker, log⟩ ∧ Exact log) :
      Agrees ⟨(tracker.perform access).2, log ++ [(access, (tracker.perform access).1)]⟩ ∧
        Exact (log ++ [(access, (tracker.perform access).1)]) :=
    ⟨agrees_perform both.1 access, exact_append both.2 (perform_collected both.1 access)⟩
  exact (@run_invariant _ _ _ (fun shared => Agrees shared ∧ Exact shared.log) initial kept reached).2

/-- A rejoin and its collection by another thread. -/
def sampleThreads : List (List Access) :=
  [[.initEventTracker true false], zigbeeEventTrackerAddRejoinEvent 7 1 true,
    zigbeeEventTrackerCollectRejoinEventsForDevice "0000000000000001"]

/-- The collection begins before the rejoin and ends after it. -/
def sampleSchedule : List (Nat × Unit) := [(0, ()), (2, ()), (1, ()), (1, ()), (1, ()), (2, ())]

theorem collections_exact_sample :
    ∃ final, run sampleThreads sampleSchedule = some final ∧ Exact final.shared.log := by
  obtain ⟨final, reached⟩ :=
    Option.isSome_iff_exists.mp (show (run sampleThreads sampleSchedule).isSome = true by rfl)
  exact ⟨final, reached, collections_exact reached⟩

end Collections

section Upgrades
variable {threads : List (List Access)} {schedule : List (Nat × Unit)} {final : Configuration Shared (List Access)}

def collectedSuccesses (entry : Access × Answer) : ℤ :=
  match entry with
  | (.collectUpgradeSuccesses, .upgradeSuccesses number) => number.toInt
  | _ => 0

def collectedFailures (entry : Access × Answer) : List DeviceUpgFailureItem :=
  match entry with
  | (.collectUpgradeFailures, .upgradeFailures items) => items.getD []
  | _ => []

/-- These successes were reported. -/
def reportedSuccesses (log : Log) : Nat := log.countP fun entry => entry.1 = .addUpgradeSuccess

/-- Every upgrade is collected once or still waits, and the counter of the successes has the range of an `int`. -/
structure Conserved (shared : Shared) : Prop where
  successes : reportedSuccesses shared.log < 2 ^ 31 →
    (shared.log.map collectedSuccesses).sum + shared.tracker.numberOfDeviceUpgSuccess.toInt =
      reportedSuccesses shared.log
  failures : ∀ lived, life shared.log = some lived →
    lived.flatMap collectedFailures ++ shared.tracker.deviceUpgradeFailures.getD [] = lived.filterMap upgradeFailure

/-- A life grows by every access that does not begin or end one. -/
theorem live_some {current : Option Log} {entry : Access × Answer} {lived : Log}
    (alive : live current entry = some lived) :
    (∃ reports channels, entry.1 = .initEventTracker reports channels ∧ lived = []) ∨
      ∃ before, current = some before ∧ lived = before ++ [entry] := by
  obtain ⟨access, answer⟩ := entry
  cases access with
  | initEventTracker reports channels =>
      cases alive
      exact .inl ⟨reports, channels, rfl, rfl⟩
  | shutDownEventTracker => cases alive
  | _ =>
      obtain ⟨before, same, rfl⟩ := Option.map_eq_some_iff.mp alive
      exact .inr ⟨before, same, rfl⟩

variable {tracker : Tracker} {log : Log}

theorem reportedSuccesses_append (log : Log) (entry : Access × Answer) : reportedSuccesses (log ++ [entry]) =
    reportedSuccesses log + if entry.1 = .addUpgradeSuccess then 1 else 0 := by
  rw [reportedSuccesses, List.countP_append, List.countP_singleton]
  congr 1
  simp only [decide_eq_true_eq]

theorem pendingSuccesses_le (log : Log) : pendingSuccesses log ≤ reportedSuccesses log :=
  (List.rtakeWhile_suffix _ log).sublist.countP_le

theorem conserved_successes (agrees : Agrees ⟨tracker, log⟩) (conserved : Conserved ⟨tracker, log⟩) (access : Access)
    (small : reportedSuccesses (log ++ [(access, (tracker.perform access).1)]) < 2 ^ 31) :
    ((log ++ [(access, (tracker.perform access).1)]).map collectedSuccesses).sum +
      (tracker.perform access).2.numberOfDeviceUpgSuccess.toInt =
        reportedSuccesses (log ++ [(access, (tracker.perform access).1)]) := by
  rw [reportedSuccesses_append] at small ⊢
  have before := conserved.successes ((Nat.le_add_right _ _).trans_lt small)
  dsimp only at before
  rw [List.map_append, List.sum_append, List.map_singleton, List.sum_singleton]
  push_cast
  rw [← before, add_assoc, add_assoc]
  congr 1
  have onDevice := perform_onDevice tracker access
  cases access with
  | locateAndAddEventToCollection | resetSensorDelayCounters =>
      obtain ⟨deviceCollection, changed, -⟩ := onDevice trivial
      rw [changed]
      exact add_comm _ _
  | addUpgradeSuccess =>
      -- the counter has not reached its limit
      have waiting : tracker.numberOfDeviceUpgSuccess = Int32.ofNat (pendingSuccesses log) := agrees.successes
      have bound := pendingSuccesses_le log
      rw [if_pos rfl] at small
      change 0 + (tracker.numberOfDeviceUpgSuccess + Int32.ofNat 1).toInt = tracker.numberOfDeviceUpgSuccess.toInt + 1
      rw [waiting, zero_add, ← Int32.ofNat_add, Int32.toInt_ofNat_of_lt (by omega),
        Int32.toInt_ofNat_of_lt (by omega)]
      rfl
  | collectUpgradeSuccesses => rfl
  | _ => exact add_comm _ _

theorem conserved_failures (agrees : Agrees ⟨tracker, log⟩) (conserved : Conserved ⟨tracker, log⟩) (access : Access)
    {lived : Log} (alive : life (log ++ [(access, (tracker.perform access).1)]) = some lived) :
    lived.flatMap collectedFailures ++ (tracker.perform access).2.deviceUpgradeFailures.getD [] =
      lived.filterMap upgradeFailure := by
  rw [life_append] at alive
  rcases live_some alive with ⟨reports, channels, rfl, rfl⟩ | ⟨earlier, started, rfl⟩
  · rfl
  · have before := conserved.failures earlier started
    have waiting := agrees.failures
    dsimp only at before waiting
    rw [started, Option.map_some] at waiting
    rw [waiting, Option.getD_some] at before
    rw [List.flatMap_append, List.flatMap_singleton, List.filterMap_append, ← before, List.append_assoc,
      List.append_assoc]
    congr 1
    have onDevice := perform_onDevice tracker access
    cases access with
    | initEventTracker reports channels =>
        have nonempty := Option.some.inj alive
        simp at nonempty
    | shutDownEventTracker => cases alive
    | locateAndAddEventToCollection | resetSensorDelayCounters =>
        obtain ⟨deviceCollection, changed, -⟩ := onDevice trivial
        rw [changed]
        simp [waiting, collectedFailures, upgradeFailure]
    | _ => simp [waiting, Tracker.perform, collectedFailures, upgradeFailure]

/-- In every run of threads, each successful upgrade is counted in one collection or still waits, and so does each
failed upgrade since the start. -/
theorem upgrades_conserved (reached : run threads schedule = some final) : Conserved final.shared := by
  have initial : Agrees .initial ∧ Conserved .initial := by
    refine ⟨agrees_initial, fun _ => rfl, ?_⟩
    intro lived alive
    cases alive
  have kept (tracker : Tracker) (log : Log) (access : Access) (both : Agrees ⟨tracker, log⟩ ∧ Conserved ⟨tracker, log⟩) :
      Agrees ⟨(tracker.perform access).2, log ++ [(access, (tracker.perform access).1)]⟩ ∧
        Conserved ⟨(tracker.perform access).2, log ++ [(access, (tracker.perform access).1)]⟩ :=
    ⟨agrees_perform both.1 access, conserved_successes both.1 both.2 access,
      fun lived alive => conserved_failures both.1 both.2 access alive⟩
  exact (@run_invariant _ _ _ (fun shared => Agrees shared ∧ Conserved shared) initial kept reached).2

/-- Two upgrades fail before and after a collection. -/
def upgradeThreads : List (List Access) :=
  [[.initEventTracker true false], zigbeeEventTrackerAddDeviceFirmwareUpgradeFailureEvent 7 1,
    zigbeeEventTrackerAddDeviceFirmwareUpgradeFailureEvent 8 2,
    zigbeeEventTrackerCollectFirmwareUpgradeFailureEvents]

def upgradeSchedule : List (Nat × Unit) := [(0, ()), (1, ()), (3, ()), (2, ()), (1, ()), (3, ()), (2, ())]

theorem upgrades_conserved_sample :
    ∃ final, run upgradeThreads upgradeSchedule = some final ∧ Conserved final.shared := by
  obtain ⟨final, reached⟩ :=
    Option.isSome_iff_exists.mp (show (run upgradeThreads upgradeSchedule).isSome = true by rfl)
  exact ⟨final, reached, upgrades_conserved reached⟩

end Upgrades

section Scans
variable {threads : List (List Access)} {schedule : List (Nat × Unit)} {final : Configuration Shared (List Access)}

/-- A complete round scans every channel. -/
def roundItems (scan : UInt8 → EnergyScan) : List ChannelEnergyScanDataItem :=
  channels.map fun channel => ⟨channel, (scan channel).1, (scan channel).2.1, (scan channel).2.2⟩

abbrev channelIndex (item : ChannelEnergyScanDataItem) : Nat := item.channel.toNat

theorem length_roundItems (scan : UInt8 → EnergyScan) : (roundItems scan).length = 15 := rfl

/-- The channels of a round are read at the indices from 11. -/
theorem roundItems_follow (scan : UInt8 → EnergyScan) :
    (roundItems scan).map channelIndex = List.range' 11 (roundItems scan).length := by
  rw [roundItems, List.map_map]
  rfl

/-- The first round is added at the end. Each later one replaces the items from the eleventh index. -/
theorem storedScans_rounds (first last : UInt8 → EnergyScan) (middle : List (UInt8 → EnergyScan)) :
    storedScans ((first :: middle ++ [last]).flatMap roundItems) = (roundItems first).take 11 ++ roundItems last := by
  have start : Windows.placeAll channelIndex [] (roundItems first) = roundItems first :=
    Windows.placeAll_outside (Nat.zero_le 11) (roundItems_follow first)
  have next (items : List ChannelEnergyScanDataItem) (scan : UInt8 → EnergyScan) (room : 11 ≤ items.length)
      (short : items.length ≤ 26) :
      Windows.placeAll channelIndex items (roundItems scan) = items.take 11 ++ roundItems scan := by
    rw [Windows.placeAll_inside room (roundItems_follow scan), length_roundItems, List.drop_of_length_le short,
      List.append_nil]
  have later (rounds : List (UInt8 → EnergyScan)) (items : List ChannelEnergyScanDataItem) (room : 11 ≤ items.length)
      (short : items.length ≤ 26) : Windows.placeAll channelIndex items ((rounds ++ [last]).flatMap roundItems) =
        items.take 11 ++ roundItems last := by
    induction rounds generalizing items with
    | nil => rw [List.nil_append, List.flatMap_singleton, next items last room short]
    | cons scan rest ih =>
        have length : (items.take 11 ++ roundItems scan).length = 26 := by
          rw [List.length_append, List.length_take, length_roundItems, Nat.min_eq_left room]
        rw [List.cons_append, List.flatMap_cons, Windows.placeAll, List.foldl_append, ← Windows.placeAll,
          ← Windows.placeAll, next items scan room short, ih _ (by omega) (by omega), List.take_append,
          List.take_take, List.length_take, Nat.min_eq_left room]
        simp
  change Windows.placeAll channelIndex [] _ = _
  rw [List.cons_append, List.flatMap_cons, Windows.placeAll, List.foldl_append, ← Windows.placeAll, ← Windows.placeAll,
    start, later middle _ (by rw [length_roundItems]; decide) (by rw [length_roundItems]; decide)]

/-- The index of a scan is below 26. -/
theorem length_storeScan {item : ChannelEnergyScanDataItem} (known : item.channel ∈ channels)
    {collection : List ChannelEnergyScanDataItem} (bounded : collection.length ≤ 26) :
    (storeScan item collection).length ≤ 26 := by
  have index : item.channel.toNat < 26 := by
    obtain ⟨number, range, same⟩ := List.mem_map.mp known
    rw [List.mem_range'_1] at range
    rw [← same, UInt8.toNat_ofNat']
    omega
  rw [storeScan]
  split
  · rwa [List.length_set]
  · next missing =>
      rw [List.length_append, List.length_singleton]
      omega

/-- An access stores only a scan of the channels. -/
def ScansChannel (access : Access) : Prop := ∀ item, access = .storeScan item → item.channel ∈ channels

/-- A function stores only scans of the channels. -/
theorem Function.scans {thread : List Access} (function : Function thread) :
    ∀ access ∈ thread, ScansChannel access := by
  intro access member item same
  subst same
  cases function with
  | channelEnergyDataCollecting scan =>
      obtain ⟨channel, known, stores⟩ := List.mem_flatMap.mp member
      rcases List.mem_cons.mp stores with other | stored
      · cases other
      · obtain ⟨result, -, same⟩ := Option.map_eq_some_iff.mp (Option.mem_toList.mp stored)
        cases same
        exact known
  | addAttributeReportEvent deviceClass time report => simp [zigbeeEventTrackerAddAttributeReportEvent] at member
  | addClusterCommandEvent deviceClass time command => simp [zigbeeEventTrackerAddClusterCommandEvent] at member
  | turnChannelCollecting on => cases on <;> simp at member
  | addRejoinEvent time eui64 wasSecure => simp [zigbeeEventTrackerAddRejoinEvent] at member
  | addMagneticStrengthReport deviceUuid valueString => simp [zigbeeEventTrackerAddMagneticStrengthReport] at member
  | addApsAckFailureEvent eui64 => simp [zigbeeEventTrackerAddApsAckFailureEvent] at member
  | addUpgradeSuccessEvent => simp [zigbeeEventTrackerAddDeviceFirmwareUpgradeSuccessEvent] at member
  | addUpgradeFailureEvent time eui64 => simp [zigbeeEventTrackerAddDeviceFirmwareUpgradeFailureEvent] at member
  | collectChannelEnergyScans => simp [zigbeeEventTrackerCollectChannelEnergyScanStats] at member
  | resetSensorDelayCounters deviceId => simp [zigbeeEventTrackerResetSensorDelayCountersForDevice] at member
  | _ => rcases List.mem_cons.mp member with other | other <;> simp_all

/-- The threads store only scans of the channels, and the list of the scans is short. -/
structure Bounded (current : Configuration Shared (List Access)) : Prop where
  threads : ∀ thread ∈ current.threads, ∀ access ∈ thread, ScansChannel access
  short : ∀ collection ∈ current.shared.tracker.channelCollection, collection.length ≤ 26

theorem perform_short {tracker : Tracker} (short : ∀ collection ∈ tracker.channelCollection, collection.length ≤ 26)
    {access : Access} (known : ScansChannel access) :
    ∀ collection ∈ (tracker.perform access).2.channelCollection, collection.length ≤ 26 := by
  have onDevice := perform_onDevice tracker access
  cases access with
  | locateAndAddEventToCollection | resetSensorDelayCounters =>
      obtain ⟨deviceCollection, changed, -⟩ := onDevice trivial
      rw [changed]
      exact short
  | storeScan item =>
      intro collection stores
      obtain ⟨items, before, rfl⟩ := Option.map_eq_some_iff.mp stores
      exact length_storeScan (known item rfl) (short items before)
  | initEventTracker reports channels =>
      intro collection fresh
      cases fresh
      exact Nat.zero_le _
  | shutDownEventTracker =>
      intro collection missing
      cases missing
  | _ => exact short

theorem bounded_step {current next : Configuration Shared (List Access)} {input : Nat × Unit} (bounded : Bounded current)
    (stepped : Threads.step move current input = some next) : Bounded next := by
  obtain ⟨before, thread, after, shared, moved, split, position, taken, rfl⟩ := Threads.step_split stepped
  have member : thread ∈ current.threads := by simp [split]
  cases thread with
  | nil => cases taken
  | cons access rest =>
      have known := bounded.threads _ member
      cases taken
      refine ⟨?_, perform_short bounded.short (known access List.mem_cons_self)⟩
      intro other inside access later
      rcases Threads.mem_middle.mp inside with rfl | old
      · split_ifs at later with goes
        · exact known access (List.mem_cons_of_mem _ later)
        · cases later
      · refine bounded.threads other ?_ access later
        rw [split]
        exact Threads.mem_middle.mpr (.inr old)

/-- In every run of the functions, the list of the scans holds at most 26 items. After two or more complete rounds, it
still begins with the first scans of the channels from 11 to 21 and ends with the last round. -/
theorem channels_stale (functions : ∀ thread ∈ threads, Function thread) (reached : run threads schedule = some final)
    {collection : List ChannelEnergyScanDataItem} (collects : final.shared.tracker.channelCollection = some collection) :
    collection.length ≤ 26 ∧ ∀ lived first middle last, life final.shared.log = some lived →
      lived.filterMap scanOf = (first :: middle ++ [last]).flatMap roundItems →
        collection = (roundItems first).take 11 ++ roundItems last := by
  have initial : Bounded ⟨.initial, threads⟩ :=
    ⟨fun thread member => (functions thread member).scans, fun _ missing => by cases missing⟩
  have bounded : Bounded final :=
    Runs.invariant (Threads.step move) Bounded (fun _ _ _ before stepped => bounded_step before stepped) initial reached
  refine ⟨bounded.short collection collects, ?_⟩
  intro lived first middle last alive rounds
  have scans := (agrees_run reached).scans
  rw [alive, Option.map_some, rounds, storedScans_rounds, collects] at scans
  exact Option.some.inj scans

/-- Three rounds are complete, and each has another maximum. -/
def scanThreads : List (List Access) :=
  [.initEventTracker true true] :: [1, 2, 3].map fun maximum =>
    channelEnergyDataCollectingCallback fun _ => some (maximum, 0, 0)

def scanSchedule : List (Nat × Unit) :=
  (0, ()) :: [1, 2, 3].flatMap fun thread => List.replicate 30 (thread, ())

def sampleScan (maximum : Int8) (_ : UInt8) : EnergyScan := (maximum, 0, 0)

theorem channels_stale_sample :
    ∃ final collection, run scanThreads scanSchedule = some final ∧
      final.shared.tracker.channelCollection = some collection ∧ collection.length ≤ 26 ∧
      collection = (roundItems (sampleScan 1)).take 11 ++ roundItems (sampleScan 3) := by
  obtain ⟨final, reached⟩ := Option.isSome_iff_exists.mp (show (run scanThreads scanSchedule).isSome = true by rfl)
  have collects : ((run scanThreads scanSchedule).bind fun final =>
      final.shared.tracker.channelCollection).isSome = true := by rfl
  have scans : ((run scanThreads scanSchedule).bind fun final =>
      (life final.shared.log).map fun lived => lived.filterMap scanOf) =
        some ((sampleScan 1 :: [sampleScan 2] ++ [sampleScan 3]).flatMap roundItems) := by rfl
  rw [reached, Option.bind_some] at collects scans
  obtain ⟨collection, collects⟩ := Option.isSome_iff_exists.mp collects
  obtain ⟨lived, alive, rounds⟩ := Option.map_eq_some_iff.mp scans
  have functions : ∀ thread ∈ scanThreads, Function thread := by
    intro thread member
    rcases List.mem_cons.mp member with rfl | scanning
    · exact .initEventTracker true true
    · obtain ⟨maximum, -, rfl⟩ := List.mem_map.mp scanning
      exact .channelEnergyDataCollecting _
  obtain ⟨short, stale⟩ := channels_stale functions reached collects
  exact ⟨final, collection, reached, collects, short, stale lived _ _ _ alive rounds⟩

end Scans
end Barton.EventTracker
