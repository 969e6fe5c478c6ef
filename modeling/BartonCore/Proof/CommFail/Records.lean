import BartonCore.Construction.CommFail.Records
import BartonCore.Proof.CommFail.Effects

namespace Barton.CommFail

/-- Every entry of the table leads to the record of its uuid. -/
def Matches (heap : Nat → Option MonitoredDeviceInfo) (entries : List (String × Nat))
    (infos : List MonitoredDeviceInfo) : Prop :=
  List.Forall₂ (fun entry info => entry.1 = info.uuid ∧ heap entry.2 = some info) entries infos

section Matches
variable {heap : Nat → Option MonitoredDeviceInfo} {entries : List (String × Nat)} {infos : List MonitoredDeviceInfo}

/-- A change of the heap away from the table changes nothing. -/
theorem Matches.frame (matched : Matches heap entries infos) {address : Nat}
    (away : ∀ entry ∈ entries, entry.2 ≠ address) (value : Option MonitoredDeviceInfo) :
    Matches (Function.update heap address value) entries infos := by
  induction matched with
  | nil => exact .nil
  | cons head _ ih =>
      refine .cons ⟨head.1, ?_⟩ (ih fun entry member => away entry (List.mem_cons_of_mem _ member))
      rw [Function.update_of_ne (away _ List.mem_cons_self)]
      exact head.2

theorem Matches.keys (matched : Matches heap entries infos) :
    entries.map Prod.fst = infos.map MonitoredDeviceInfo.uuid := by
  induction matched with
  | nil => rfl
  | cons head _ ih => rw [List.map_cons, List.map_cons, head.1, ih]

/-- A lookup in the table reads the record of the uuid. -/
theorem Matches.read (matched : Matches heap entries infos) (uuid : String) :
    Cells.read Prod.fst uuid entries = none ∧ Cells.read MonitoredDeviceInfo.uuid uuid infos = none ∨
      ∃ entry info, Cells.read Prod.fst uuid entries = some entry ∧ heap entry.2 = some info ∧
        Cells.read MonitoredDeviceInfo.uuid uuid infos = some info := by
  unfold Cells.read
  induction matched with
  | nil => exact .inl ⟨rfl, rfl⟩
  | @cons entry info _ _ head _ ih =>
      rw [List.find?_cons, List.find?_cons, ← head.1]
      by_cases same : entry.1 = uuid
      · exact .inr ⟨entry, info, by simp [same], head.2, by simp [same]⟩
      · have different : (entry.1 == uuid) = false := by simpa using same
        rwa [different]

/-- A write through one entry of the table changes the record of its uuid. -/
theorem Matches.write (matched : Matches heap entries infos) (apart : (entries.map Prod.snd).Nodup)
    (distinct : (infos.map MonitoredDeviceInfo.uuid).Nodup) {entry : String × Nat} {info : MonitoredDeviceInfo}
    (member : entry ∈ entries) (stored : heap entry.2 = some info) {change : MonitoredDeviceInfo → MonitoredDeviceInfo}
    (same : ∀ info, (change info).uuid = info.uuid) :
    Matches (Function.update heap entry.2 (some (change info))) entries
      (Cells.write MonitoredDeviceInfo.uuid entry.1 change infos) := by
  unfold Cells.write
  induction matched with
  | nil => exact absurd member List.not_mem_nil
  | @cons first record rest records head tail ih =>
      rw [List.map_cons, List.nodup_cons] at apart distinct
      rw [List.map_cons]
      rcases List.mem_cons.mp member with here | later
      · subst here
        rw [if_pos head.1.symm]
        cases head.2.symm.trans stored
        have others : Matches (Function.update heap entry.2 (some (change info))) rest records :=
          Matches.frame tail (fun other inside equal => apart.1 (List.mem_map.mpr ⟨other, inside, equal⟩)) _
        have gone : ∀ other ∈ records, other.uuid ≠ entry.1 := fun other inside equal =>
          distinct.1 (List.mem_map.mpr ⟨other, inside, equal.trans head.1⟩)
        have unwritten := Cells.write_of_absent change gone
        unfold Cells.write at unwritten
        rw [unwritten]
        exact .cons ⟨head.1.trans (same info).symm, Function.update_self ..⟩ others
      · have elsewhere : record.uuid ≠ entry.1 := by
          intro equal
          have keys : entry.1 ∈ rest.map Prod.fst := List.mem_map_of_mem later
          rw [Matches.keys tail, ← equal] at keys
          exact distinct.1 keys
        have address : first.2 ≠ entry.2 := fun equal => apart.1 (equal ▸ List.mem_map_of_mem later)
        rw [if_neg elsewhere]
        refine .cons ⟨head.1, ?_⟩ (ih apart.2 distinct.2 later)
        rw [Function.update_of_ne address]
        exact head.2

/-- A removed entry takes its record along. -/
theorem Matches.delete (matched : Matches heap entries infos) (apart : (entries.map Prod.snd).Nodup)
    (distinct : (infos.map MonitoredDeviceInfo.uuid).Nodup) {entry : String × Nat} (member : entry ∈ entries) :
    Matches (Function.update heap entry.2 none) (Cells.delete Prod.fst entry.1 entries)
      (Cells.delete MonitoredDeviceInfo.uuid entry.1 infos) := by
  unfold Cells.delete
  induction matched with
  | nil => exact absurd member List.not_mem_nil
  | @cons first record rest records head tail ih =>
      have keys := Matches.keys tail
      rw [List.map_cons, List.nodup_cons] at apart distinct
      rcases List.mem_cons.mp member with here | later
      · subst here
        have absent : ∀ other ∈ rest, other.1 ≠ entry.1 := by
          intro other inside equal
          have known : other.1 ∈ rest.map Prod.fst := List.mem_map_of_mem inside
          rw [keys, equal, head.1] at known
          exact distinct.1 known
        have gone : ∀ other ∈ records, other.uuid ≠ entry.1 := fun other inside equal =>
          distinct.1 (List.mem_map.mpr ⟨other, inside, equal.trans head.1⟩)
        have left := Cells.delete_of_absent absent
        have right := Cells.delete_of_absent gone
        unfold Cells.delete at left right
        rw [List.filter_cons_of_neg (by simp), List.filter_cons_of_neg (by simp [head.1]), left, right]
        exact Matches.frame tail (fun other inside equal => apart.1 (List.mem_map.mpr ⟨other, inside, equal⟩)) _
      · have elsewhere : record.uuid ≠ entry.1 := by
          intro equal
          have known : entry.1 ∈ rest.map Prod.fst := List.mem_map_of_mem later
          rw [keys, ← equal] at known
          exact distinct.1 known
        have address : first.2 ≠ entry.2 := fun equal => apart.1 (equal ▸ List.mem_map_of_mem later)
        rw [List.filter_cons_of_pos (by simpa [head.1] using elsewhere),
          List.filter_cons_of_pos (by simpa using elsewhere)]
        refine .cons ⟨head.1, ?_⟩ (ih apart.2 distinct.2 later)
        rw [Function.update_of_ne address]
        exact head.2

/-- The loop of the watchdog thread changes every record once. -/
theorem Matches.check (matched : Matches heap entries infos) (apart : (entries.map Prod.snd).Nodup) (fast : Bool)
    (now : UInt64) :
    ∃ after, Records.checkEntries fast now heap entries = some after ∧
      Matches after entries (infos.map (checkDevice fast now)) ∧
      ∀ address, (∀ entry ∈ entries, entry.2 ≠ address) → after address = heap address := by
  induction entries generalizing heap infos with
  | nil =>
      cases matched
      exact ⟨heap, rfl, .nil, fun _ _ => rfl⟩
  | cons entry rest ih =>
      rcases matched with _ | ⟨head, tail⟩
      rename_i info records
      rw [List.map_cons, List.nodup_cons] at apart
      have others : Matches (Function.update heap entry.2 (some (checkDevice fast now info))) rest records :=
        Matches.frame tail (fun other inside equal => apart.1 (List.mem_map.mpr ⟨other, inside, equal⟩)) _
      obtain ⟨after, checked, kept, away⟩ := ih others apart.2
      refine ⟨after, ?_, .cons ⟨head.1, ?_⟩ kept, ?_⟩
      · rw [Records.checkEntries, head.2]
        exact checked
      · rw [away entry.2 fun other inside equal => apart.1 (List.mem_map.mpr ⟨other, inside, equal⟩)]
        exact Function.update_self ..
      · intro address outside
        rw [away address fun other inside => outside other (List.mem_cons_of_mem _ inside),
          Function.update_of_ne (outside entry List.mem_cons_self).symm]

end Matches

/-- The records read as a watchdog. -/
structure Reads (records : Records) (watchdog : Watchdog) : Prop where
  running : records.running = watchdog.running
  fast : records.fastCommFailTimer = watchdog.fastCommFailTimer
  matched : Matches records.heap records.monitoredDevices watchdog.monitoredDevices
  apart : (records.monitoredDevices.map Prod.snd).Nodup
  allocated : ∀ entry ∈ records.monitoredDevices, entry.2 < records.fresh
  distinct : (watchdog.monitoredDevices.map MonitoredDeviceInfo.uuid).Nodup

section Reads
variable {records : Records} {watchdog : Watchdog} {info : MonitoredDeviceInfo} {uuid : String} {now : UInt64}

theorem Reads.initial (fast : Bool) : Reads (Records.initial fast) (.initial fast) :=
  ⟨rfl, rfl, .nil, List.nodup_nil, fun _ member => absurd member List.not_mem_nil, List.nodup_nil⟩

/-- An update of the info behind a uuid depends on this info alone. -/
theorem updateInfo_congr (distinct : (watchdog.monitoredDevices.map MonitoredDeviceInfo.uuid).Nodup)
    (found : watchdog.info uuid = some info)
    {first second : MonitoredDeviceInfo → MonitoredDeviceInfo} (same : first info = second info) :
    watchdog.updateInfo uuid first = watchdog.updateInfo uuid second := by
  obtain ⟨before, after, split, others⟩ := Cells.read_split distinct found
  have named : info.uuid = uuid := Cells.read_address found
  unfold Watchdog.updateInfo
  rw [split, Cells.write_split first named others, Cells.write_split second named others, same]

theorem updateInfo_id (distinct : (watchdog.monitoredDevices.map MonitoredDeviceInfo.uuid).Nodup)
    (found : watchdog.info uuid = some info)
    {change : MonitoredDeviceInfo → MonitoredDeviceInfo} (same : change info = info) :
    watchdog.updateInfo uuid change = watchdog := by
  have unchanged : watchdog.updateInfo uuid change = watchdog.updateInfo uuid id := updateInfo_congr distinct found same
  rw [unchanged]
  unfold Watchdog.updateInfo
  rw [Cells.write_id id fun _ _ _ => rfl]

/-- The lookup of the table agrees with the lookup of the watchdog. -/
theorem Reads.lookup (reads : Reads records watchdog) (uuid : String) :
    records.lookup uuid = none ∧ watchdog.info uuid = none ∨
      ∃ entry info, entry ∈ records.monitoredDevices ∧ entry.1 = uuid ∧ records.lookup uuid = some entry.2 ∧
        records.heap entry.2 = some info ∧ watchdog.info uuid = some info := by
  unfold Records.lookup
  rcases reads.matched.read uuid with ⟨absent, missing⟩ | ⟨entry, info, found, stored, known⟩
  · rw [absent]
    exact .inl ⟨rfl, missing⟩
  · rw [found]
    exact .inr ⟨entry, info, Cells.read_mem found, Cells.read_address found, rfl, stored, known⟩

/-- A change through a pointer is an update of the info. -/
theorem Reads.changeInfo (reads : Reads records watchdog) (device : Option String)
    {change : MonitoredDeviceInfo → MonitoredDeviceInfo} (same : ∀ info, (change info).uuid = info.uuid) :
    ∃ next, records.changeInfo device change = some next ∧
      Reads next (match device.bind watchdog.info with
        | none => watchdog
        | some info => watchdog.updateInfo info.uuid change) := by
  unfold Records.changeInfo
  cases device with
  | none => exact ⟨records, rfl, reads⟩
  | some uuid =>
      rw [Option.bind_some, Option.bind_some]
      rcases reads.lookup uuid with ⟨absent, missing⟩ | ⟨entry, info, member, named, found, stored, known⟩
      · rw [absent, missing]
        exact ⟨records, rfl, reads⟩
      · have uuids : info.uuid = entry.1 := (Cells.read_address known).trans named.symm
        rw [found, known]
        dsimp only
        rw [stored, uuids]
        refine ⟨_, rfl, reads.running, reads.fast,
          reads.matched.write reads.apart reads.distinct member stored same, reads.apart, reads.allocated, ?_⟩
        change (Cells.write _ _ _ _ |>.map _).Nodup
        rw [Cells.map_write _ _ fun info _ _ => same info]
        exact reads.distinct

theorem Reads.remove (reads : Reads records watchdog) (uuid : String) :
    ∃ next, records.remove uuid = some next ∧ Reads next (stopMonitoringDevice watchdog uuid) := by
  unfold Records.remove
  rcases reads.lookup uuid with ⟨absent, missing⟩ | ⟨entry, info, member, rfl, found, stored, known⟩
  · rw [absent]
    refine ⟨records, rfl, ?_⟩
    unfold stopMonitoringDevice
    rw [Cells.delete_of_absent (Cells.read_eq_none.mp missing)]
    exact reads
  · rw [found]
    dsimp only
    unfold Records.destroy
    rw [stored]
    refine ⟨_, rfl, reads.running, reads.fast, reads.matched.delete reads.apart reads.distinct member, ?_, ?_, ?_⟩
    · exact reads.apart.sublist (List.filter_sublist.map _)
    · exact fun other inside => reads.allocated other (Cells.mem_of_mem_delete inside)
    · exact reads.distinct.sublist (List.filter_sublist.map _)

theorem Reads.checkDevices (reads : Reads records watchdog) (now : UInt64) :
    ∃ next, records.perform now .check = some next ∧ Reads next (checkDevices watchdog now).1 := by
  obtain ⟨after, checked, matched, _⟩ := reads.matched.check reads.apart records.fastCommFailTimer now
  unfold Records.perform
  dsimp only
  rw [checked]
  refine ⟨_, rfl, reads.running, reads.fast, reads.fast ▸ matched, reads.apart, reads.allocated, ?_⟩
  change (List.map _ (List.map _ _)).Nodup
  rw [List.map_map]
  exact reads.distinct

/-- A device that is not monitored gets a record. -/
theorem Reads.monitorDevice (reads : Reads records watchdog) {device : Option String} {seconds : UInt32}
    {inCommFail : Bool} {after : Watchdog}
    (monitored : monitorDevice watchdog now device seconds inCommFail = some after) :
    ∃ next, records.monitorDevice now device seconds inCommFail = some next ∧ Reads next after := by
  unfold CommFail.monitorDevice at monitored
  unfold Records.monitorDevice
  cases device with
  | none =>
      cases monitored
      exact ⟨records, rfl, reads⟩
  | some uuid =>
      dsimp only at monitored ⊢
      rw [reads.running]
      split at monitored
      · next refused =>
        cases monitored
        rw [if_pos refused]
        exact ⟨records, rfl, reads⟩
      · next allowed =>
        rw [if_neg allowed]
        split at monitored
        · contradiction
        · next missing =>
          cases monitored
          rcases reads.lookup uuid with ⟨absent, unknown⟩ | ⟨_, _, _, _, _, _, known⟩
          · unfold Records.insert
            rw [show (records.allocate _).lookup uuid = records.lookup uuid from rfl, absent]
            refine ⟨_, rfl, reads.running, reads.fast, ?_, ?_, ?_, ?_⟩
            · refine List.rel_append (Matches.frame reads.matched
                (fun entry member => Nat.ne_of_lt (reads.allocated entry member)) _) (.cons ⟨rfl, ?_⟩ .nil)
              exact Function.update_self ..
            · refine Cells.nodup_append_fresh reads.apart ?_
              exact fun entry member => Nat.ne_of_lt (reads.allocated entry member)
            · intro entry member
              rcases List.mem_append.mp member with old | new
              · exact Nat.lt_succ_of_lt (reads.allocated entry old)
              · rw [List.mem_singleton.mp new]
                exact Nat.lt_succ_self _
            · exact Cells.nodup_append_fresh reads.distinct (Cells.read_eq_none.mp unknown)
          · rw [known] at missing
            exact absurd rfl missing

/-- Every action on the records is the action of the watchdog. -/
theorem Reads.perform (reads : Reads records watchdog) {action : Action} {after : Watchdog}
    (performed : perform watchdog now action = some after) :
    ∃ next, records.perform now action = some next ∧ Reads next after := by
  cases action with
  | monitor device seconds inCommFail => exact reads.monitorDevice performed
  | stopMonitoring uuid =>
      cases performed
      exact reads.remove uuid
  | pet device =>
      cases performed
      rw [petDevice_eq]
      exact reads.changeInfo device fun _ => rfl
  | force device =>
      cases performed
      have same : ∀ info, (forceInfo info).uuid = info.uuid := fun _ => rfl
      obtain ⟨next, changed, kept⟩ := reads.changeInfo device same
      refine ⟨next, changed, ?_⟩
      rw [forceDeviceInCommFail_eq]
      cases found : device.bind watchdog.info with
      | none =>
          rw [found] at kept
          exact kept
      | some info =>
          rw [found] at kept
          dsimp only at kept ⊢
          by_cases failed : info.inCommFail = true
          · obtain ⟨uuid, _, known⟩ := Option.bind_eq_some_iff.mp found
            rw [if_pos failed]
            rwa [Cells.read_address known, updateInfo_id reads.distinct known (forceInfo_of_failed failed)] at kept
          · rwa [if_neg failed]
  | setTimeRemainingFromLPM device seconds =>
      cases performed
      unfold Records.perform setTimeRemainingForDeviceFromLPM
      dsimp only
      by_cases negative : seconds < 0
      · rw [if_pos negative, if_pos negative]
        exact ⟨records, rfl, reads⟩
      · rw [if_neg negative, if_neg negative]
        have same (info : MonitoredDeviceInfo) : (setRemainingInfo now seconds info).uuid = info.uuid := by
          unfold setRemainingInfo
          split
          · rfl
          · rfl
        obtain ⟨next, changed, kept⟩ := reads.changeInfo device same
        refine ⟨next, changed, ?_⟩
        cases found : device.bind watchdog.info with
        | none =>
            rw [found] at kept
            exact kept
        | some info =>
            rw [found] at kept
            dsimp only at kept ⊢
            obtain ⟨uuid, _, known⟩ := Option.bind_eq_some_iff.mp found
            rw [Cells.read_address known] at kept ⊢
            by_cases failed : info.inCommFail = true
            · have ignored : setRemainingInfo now seconds info = info := if_pos failed
              rw [if_pos failed]
              rwa [updateInfo_id reads.distinct known ignored] at kept
            · have granted : watchdog.updateInfo uuid (setRemainingInfo now seconds) =
                  watchdog.updateInfo uuid fun info => (setMillisUntilCommFail now info (seconds * 1000).toUInt32).2 :=
                updateInfo_congr reads.distinct known (if_neg failed)
              rw [if_neg failed]
              rwa [granted] at kept
  | check =>
      cases performed
      exact reads.checkDevices now

/-- The record of a device that is monitored again is destroyed while the table leads to it. -/
theorem Reads.monitorAgain (reads : Reads records watchdog) {seconds : UInt32}
    {inCommFail : Bool} (positive : seconds ≠ 0) (running : watchdog.running = true)
    (known : watchdog.info uuid = some info) :
    ∃ next address, records.monitorDevice now (some uuid) seconds inCommFail = some next ∧
      next.lookup uuid = some address ∧ next.heap address = none := by
  unfold Records.monitorDevice
  dsimp only
  rw [if_neg (by simp [positive, reads.running, running])]
  rcases reads.lookup uuid with ⟨_, unknown⟩ | ⟨entry, old, member, rfl, found, stored, _⟩
  · exact absurd (known.symm.trans unknown) (Option.some_ne_none _)
  have earlier := reads.allocated entry member
  unfold Records.insert
  rw [show (records.allocate _).lookup entry.1 = records.lookup entry.1 from rfl, found]
  dsimp only
  unfold Records.destroy Records.allocate
  dsimp only
  rw [Function.update_of_ne (Nat.ne_of_lt earlier), stored]
  simp only [Option.map_some, Option.bind_some, Bool.false_eq_true, if_false]
  rw [Function.update_of_ne (Nat.ne_of_gt earlier), Function.update_self]
  refine ⟨_, records.fresh, rfl, ?_, Function.update_self ..⟩
  unfold Records.lookup at found ⊢
  obtain ⟨cell, read, _⟩ := Option.map_eq_some_iff.mp found
  have named : cell.1 = entry.1 := Cells.read_address read
  dsimp only
  have written : Cells.read Prod.fst entry.1
      (Cells.write Prod.fst entry.1 (fun _ => (entry.1, records.fresh)) records.monitoredDevices) =
      some (entry.1, records.fresh) := by
    unfold Cells.read at read ⊢
    unfold Cells.write
    rw [List.find?_map]
    rw [show ((fun cell : String × Nat => cell.1 == entry.1) ∘ fun cell =>
        if cell.1 = entry.1 then (entry.1, records.fresh) else cell) = fun cell => cell.1 == entry.1 by
      funext cell
      by_cases same : cell.1 = entry.1
      · simp [same]
      · simp [same]]
    rw [read, Option.map_some, if_pos named]
  rw [written]
  rfl

end Reads

/-- These are the devices that are monitored after an action, with the timeouts of their latest monitor calls. -/
def latest (monitored : String → Option UInt32) : Action → String → Option UInt32
  | .monitor (some uuid) seconds _ =>
      if seconds = 0 then monitored else Function.update monitored uuid (some seconds)
  | .stopMonitoring uuid => Function.update monitored uuid none
  | _ => monitored

/-- The table has exactly one record for each monitored device, and it is alive and has the latest timeout. -/
structure Exact (monitored : String → Option UInt32) (records : Records) : Prop where
  unique : (records.monitoredDevices.map Prod.fst).Nodup
  absent : ∀ uuid, monitored uuid = none → records.lookup uuid = none
  present : ∀ uuid seconds, monitored uuid = some seconds → ∃ address info, records.lookup uuid = some address ∧
    records.heap address = some info ∧ info.uuid = uuid ∧ info.commFailTimeoutSeconds = seconds

/-- Every action of a run succeeds, and the table is exact before and after it. -/
def StaysExact (monitored : String → Option UInt32) (records : Records) : List (UInt64 × Action) → Prop
  | [] => Exact monitored records
  | input :: rest => Exact monitored records ∧ ∃ next, records.perform input.1 input.2 = some next ∧
      StaysExact (latest monitored input.2) next rest

/-- No device is monitored again before its monitoring stops. A timeout of zero is refused. -/
def MonitorsOnce (monitored : String → Option UInt32) : List (UInt64 × Action) → Prop
  | [] => True
  | input :: rest =>
      (∀ uuid seconds inCommFail, input.2 = .monitor (some uuid) seconds inCommFail → seconds ≠ 0 →
        monitored uuid = none) ∧ MonitorsOnce (latest monitored input.2) rest

/-- The watchdog has the monitored devices with their timeouts. -/
structure Follows (monitored : String → Option UInt32) (watchdog : Watchdog) : Prop where
  running : watchdog.running = true
  timeouts : ∀ uuid, (watchdog.info uuid).map MonitoredDeviceInfo.commFailTimeoutSeconds = monitored uuid

section Runs
variable {monitored : String → Option UInt32} {records : Records} {watchdog : Watchdog}

theorem Follows.initial (fast : Bool) : Follows (fun _ => none) (.initial fast) := ⟨rfl, fun _ => rfl⟩

theorem Reads.exact (reads : Reads records watchdog) (follows : Follows monitored watchdog) :
    Exact monitored records := by
  refine ⟨?_, ?_, ?_⟩
  · rw [reads.matched.keys]
    exact reads.distinct
  · intro uuid absent
    rcases reads.lookup uuid with ⟨unknown, _⟩ | ⟨_, info, _, _, _, _, known⟩
    · exact unknown
    · have timeout := follows.timeouts uuid
      rw [known, absent] at timeout
      exact absurd timeout (Option.some_ne_none _)
  · intro uuid seconds present
    have timeout := follows.timeouts uuid
    rw [present] at timeout
    rcases reads.lookup uuid with ⟨_, unknown⟩ | ⟨entry, info, _, _, found, stored, known⟩
    · rw [unknown] at timeout
      exact absurd timeout.symm (Option.some_ne_none _)
    · rw [known] at timeout
      exact ⟨entry.2, info, found, stored, Cells.read_address known, Option.some.inj timeout⟩

/-- An update that keeps the timeout keeps every timeout. -/
theorem timeouts_ite (update : MonitoredDeviceInfo → MonitoredDeviceInfo)
    (same : ∀ info, (update info).commFailTimeoutSeconds = info.commFailTimeoutSeconds) (condition : Prop)
    [Decidable condition] (info : Option MonitoredDeviceInfo) :
    (if condition then info.map update else info).map MonitoredDeviceInfo.commFailTimeoutSeconds =
      info.map MonitoredDeviceInfo.commFailTimeoutSeconds := by
  split
  · rw [Option.map_map]
    congr 1
    exact funext same
  · rfl

theorem Follows.perform {now : UInt64} {action : Action} {after : Watchdog} (follows : Follows monitored watchdog)
    (performed : perform watchdog now action = some after) : Follows (latest monitored action) after := by
  cases action with
  | monitor device seconds inCommFail =>
      have running : after.running = watchdog.running := by
        change monitorDevice _ _ _ _ _ = some after at performed
        unfold monitorDevice at performed
        split at performed
        · cases performed
          rfl
        · split at performed
          · cases performed
            rfl
          · split at performed
            · contradiction
            · cases performed
              rfl
      refine ⟨running.trans follows.running, fun uuid => ?_⟩
      rw [info_monitorDevice _ _ uuid performed]
      have old := follows.timeouts uuid
      cases device with
      | none =>
          rw [if_neg (by simp)]
          exact old
      | some other =>
          unfold latest
          dsimp only
          by_cases zero : seconds = 0
          · rw [if_pos zero, if_neg (by simp [zero])]
            exact old
          · rw [if_neg zero]
            by_cases same : uuid = other
            · rw [same, Function.update_self, if_pos ⟨rfl, zero, follows.running⟩]
              rfl
            · rw [Function.update_of_ne same, if_neg (by simp [Ne.symm same])]
              exact old
  | stopMonitoring other =>
      cases performed
      refine ⟨follows.running, fun uuid => ?_⟩
      unfold latest
      dsimp only
      by_cases same : uuid = other
      · rw [same, Function.update_self]
        exact congrArg (Option.map _) Cells.read_delete
      · rw [Function.update_of_ne same]
        exact (congrArg (Option.map _) (Cells.read_delete_of_ne same)).trans (follows.timeouts uuid)
  | pet device =>
      cases performed
      refine ⟨?_, fun uuid => ?_⟩
      · rw [petDevice_eq]
        split
        · exact follows.running
        · exact follows.running
      · rw [info_petDevice]
        exact (timeouts_ite (petInfo now) (fun _ => rfl) (device = some uuid) _).trans (follows.timeouts uuid)
  | force device =>
      cases performed
      refine ⟨?_, fun uuid => ?_⟩
      · rw [forceDeviceInCommFail_eq]
        split
        · exact follows.running
        · split
          · exact follows.running
          · exact follows.running
      · rw [info_forceDeviceInCommFail]
        exact (timeouts_ite forceInfo (fun _ => rfl) (device = some uuid) _).trans (follows.timeouts uuid)
  | setTimeRemainingFromLPM device seconds =>
      cases performed
      by_cases negative : seconds < 0
      · rw [setTimeRemainingForDeviceFromLPM, if_pos negative]
        exact follows
      · refine ⟨?_, fun uuid => ?_⟩
        · unfold setTimeRemainingForDeviceFromLPM
          rw [if_neg negative]
          split
          · exact follows.running
          · split
            · exact follows.running
            · exact follows.running
        · rw [info_setTimeRemainingForDeviceFromLPM _ _ _ _ negative, timeouts_ite]
          · exact follows.timeouts uuid
          · intro info
            unfold setRemainingInfo
            split
            · rfl
            · rfl
  | check =>
      cases performed
      refine ⟨follows.running, fun uuid => ?_⟩
      rw [info_checkDevices, Option.map_map]
      exact follows.timeouts uuid

/-- The watchdog performs every action except a monitor call for a device that is monitored. -/
theorem Follows.performs (follows : Follows monitored watchdog) (now : UInt64) {action : Action}
    (once : ∀ uuid seconds inCommFail, action = .monitor (some uuid) seconds inCommFail → seconds ≠ 0 →
      monitored uuid = none) : ∃ after, CommFail.perform watchdog now action = some after := by
  cases action with
  | monitor device seconds inCommFail =>
      change ∃ after, monitorDevice _ _ _ _ _ = some after
      unfold monitorDevice
      cases device with
      | none => exact ⟨_, rfl⟩
      | some uuid =>
          dsimp only
          split
          · exact ⟨_, rfl⟩
          · next allowed =>
            have unknown := follows.timeouts uuid
            rw [once uuid seconds inCommFail rfl (not_or.mp allowed).1, Option.map_eq_none_iff] at unknown
            rw [unknown, if_neg (by simp)]
            exact ⟨_, rfl⟩
  | _ => exact ⟨_, rfl⟩

/-- The table stays exact in every run exactly when no device is monitored again. -/
theorem Reads.staysExact_iff (reads : Reads records watchdog) (follows : Follows monitored watchdog)
    (inputs : List (UInt64 × Action)) : StaysExact monitored records inputs ↔ MonitorsOnce monitored inputs := by
  induction inputs generalizing records watchdog monitored with
  | nil => exact ⟨fun _ => trivial, fun _ => reads.exact follows⟩
  | cons input rest ih =>
      obtain ⟨now, action⟩ := input
      constructor
      · rintro ⟨_, next, performed, later⟩
        have once : ∀ uuid seconds inCommFail, action = .monitor (some uuid) seconds inCommFail → seconds ≠ 0 →
            monitored uuid = none := by
          intro uuid seconds inCommFail same positive
          by_contra known
          subst same
          have timeout := follows.timeouts uuid
          cases found : watchdog.info uuid with
          | none =>
              rw [found] at timeout
              exact known timeout.symm
          | some info =>
              obtain ⟨other, address, again, leads, destroyed⟩ :=
                reads.monitorAgain positive follows.running found
              cases performed.symm.trans again
              have exact : Exact (latest monitored (.monitor (some uuid) seconds inCommFail)) next := by
                cases rest with
                | nil => exact later
                | cons _ _ => exact later.1
              obtain ⟨alive, record, leadsTo, stored, _⟩ := exact.present uuid seconds (by
                rw [latest, if_neg positive, Function.update_self])
              cases leads.symm.trans leadsTo
              exact absurd (stored.symm.trans destroyed) (Option.some_ne_none _)
        obtain ⟨after, steps⟩ := follows.performs now once
        obtain ⟨same, again, kept⟩ := reads.perform steps
        cases performed.symm.trans again
        exact ⟨once, (ih kept (follows.perform steps)).mp later⟩
      · rintro ⟨once, later⟩
        obtain ⟨after, steps⟩ := follows.performs now once
        obtain ⟨next, performed, kept⟩ := reads.perform steps
        exact ⟨reads.exact follows, next, performed, (ih kept (follows.perform steps)).mpr later⟩

end Runs

/-- From the initialization on, the table stays exact exactly when no device is monitored again. -/
theorem run_staysExact_iff (fast : Bool) (inputs : List (UInt64 × Action)) :
    StaysExact (fun _ => none) (Records.initial fast) inputs ↔ MonitorsOnce (fun _ => none) inputs :=
  (Reads.initial fast).staysExact_iff (Follows.initial fast) inputs

/-- A device is monitored twice, with another timeout. -/
theorem not_staysExact :
    ¬StaysExact (fun _ => none) (Records.initial false)
      [(0, .monitor (some "a") 60 false), (1, .monitor (some "a") 120 false)] := by
  rw [(Reads.initial false).staysExact_iff (Follows.initial false)]
  intro once
  have fresh := once.2.1 "a" 120 false rfl (by decide)
  simp [latest] at fresh

end Barton.CommFail
