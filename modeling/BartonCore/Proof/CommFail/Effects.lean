import BartonCore.Construction.CommFail.Watchdog

namespace Barton.CommFail
variable (watchdog : Watchdog) (now : UInt64) (uuid : String)

/-- An update changes the info of its device and no other info. -/
theorem Watchdog.info_updateInfo (other : String) {update : MonitoredDeviceInfo → MonitoredDeviceInfo}
    (same : ∀ info, (update info).uuid = info.uuid) :
    (watchdog.updateInfo other update).info uuid =
      if other = uuid then (watchdog.info uuid).map update else watchdog.info uuid := by
  by_cases equal : other = uuid
  · rw [if_pos equal, ← equal]
    exact Cells.read_write update same
  · rw [if_neg equal]
    exact Cells.read_write_of_ne update same (Ne.symm equal)

/-- An operation on one device does not change the info of another device. -/
theorem info_of_device {device : Option String} {change : MonitoredDeviceInfo → Watchdog}
    {update : MonitoredDeviceInfo → MonitoredDeviceInfo}
    (changes : ∀ info, watchdog.info info.uuid = some info → (change info).info uuid =
      if info.uuid = uuid then (watchdog.info uuid).map update else watchdog.info uuid) :
    (match device.bind watchdog.info with
      | none => watchdog
      | some info => change info).info uuid =
      if device = some uuid then (watchdog.info uuid).map update else watchdog.info uuid := by
  cases device with
  | none => rfl
  | some other =>
      rw [Option.bind_some]
      cases known : watchdog.info other with
      | none =>
          by_cases same : other = uuid
          · subst same
            simp [known]
          · simp [same]
      | some info =>
          obtain rfl : info.uuid = other := Cells.read_address known
          simpa using changes info known

theorem petDevice_eq (device : Option String) :
    (petDevice watchdog now device).1 =
      match device.bind watchdog.info with
      | none => watchdog
      | some info => watchdog.updateInfo info.uuid (petInfo now) := by
  unfold petDevice
  cases device.bind watchdog.info with
  | none => rfl
  | some info => rfl

theorem info_petDevice (device : Option String) :
    (petDevice watchdog now device).1.info uuid =
      if device = some uuid then (watchdog.info uuid).map (petInfo now) else watchdog.info uuid := by
  rw [petDevice_eq]
  exact info_of_device watchdog uuid fun info _ =>
    watchdog.info_updateInfo uuid info.uuid fun _ => rfl

/-- A forced device is in comm fail. -/
def forceInfo (info : MonitoredDeviceInfo) : MonitoredDeviceInfo := { info with inCommFail := true }

theorem forceInfo_of_failed {info : MonitoredDeviceInfo} (failed : info.inCommFail = true) :
    forceInfo info = info := by
  cases info
  cases failed
  rfl

theorem forceDeviceInCommFail_eq (device : Option String) :
    (forceDeviceInCommFail watchdog device).1 =
      match device.bind watchdog.info with
      | none => watchdog
      | some info => if info.inCommFail then watchdog else watchdog.updateInfo info.uuid forceInfo := by
  unfold forceDeviceInCommFail
  cases device.bind watchdog.info with
  | none => rfl
  | some info =>
      dsimp only
      split
      · rfl
      · rfl

theorem info_forceDeviceInCommFail (device : Option String) :
    (forceDeviceInCommFail watchdog device).1.info uuid =
      if device = some uuid then (watchdog.info uuid).map forceInfo else watchdog.info uuid := by
  rw [forceDeviceInCommFail_eq]
  refine info_of_device watchdog uuid ?_
  intro info known
  by_cases failed : info.inCommFail = true
  · rw [if_pos failed]
    by_cases same : info.uuid = uuid
    · rw [if_pos same, ← same, known, Option.map_some, forceInfo_of_failed failed]
    · rw [if_neg same]
  · rw [if_neg failed]
    exact watchdog.info_updateInfo uuid info.uuid fun _ => rfl

/-- A device in comm fail ignores the time that remains after a low power mode. -/
def setRemainingInfo (seconds : Int32) (info : MonitoredDeviceInfo) : MonitoredDeviceInfo :=
  if info.inCommFail then info else (setMillisUntilCommFail now info (seconds * 1000).toUInt32).2

theorem info_setTimeRemainingForDeviceFromLPM (device : Option String) {seconds : Int32}
    (nonnegative : ¬seconds < 0) :
    (setTimeRemainingForDeviceFromLPM watchdog now device seconds).info uuid =
      if device = some uuid then (watchdog.info uuid).map (setRemainingInfo now seconds)
      else watchdog.info uuid := by
  unfold setTimeRemainingForDeviceFromLPM
  rw [if_neg nonnegative]
  refine info_of_device watchdog uuid ?_
  intro info known
  by_cases failed : info.inCommFail = true
  · rw [if_pos failed]
    by_cases same : info.uuid = uuid
    · rw [if_pos same, ← same, known, Option.map_some, setRemainingInfo, if_pos failed]
    · rw [if_neg same]
  · rw [if_neg failed, watchdog.info_updateInfo uuid info.uuid (by intro _; rfl)]
    by_cases same : info.uuid = uuid
    · rw [if_pos same, if_pos same, ← same, known, Option.map_some, Option.map_some, setRemainingInfo,
        if_neg failed]
    · rw [if_neg same, if_neg same]

theorem info_checkDevices :
    (checkDevices watchdog now).1.info uuid =
      (watchdog.info uuid).map (checkDevice watchdog.fastCommFailTimer now) :=
  Cells.read_map _ fun _ => rfl

/-- A device that was not monitored gets a new info. -/
theorem info_monitorDevice {next : Watchdog} {device : Option String} {seconds : UInt32}
    {inCommFail : Bool} (monitored : monitorDevice watchdog now device seconds inCommFail = some next) :
    next.info uuid =
      if device = some uuid ∧ seconds ≠ 0 ∧ watchdog.running = true then
        some (setMillisUntilCommFail now ⟨uuid, seconds, 0, 0, inCommFail⟩ (seconds * 1000)).2
      else watchdog.info uuid := by
  unfold monitorDevice at monitored
  cases device with
  | none =>
      cases monitored
      rw [if_neg fun both => by simp at both]
  | some other =>
      dsimp only at monitored
      split at monitored
      · rename_i refused
        cases monitored
        rw [if_neg]
        rintro ⟨_, positive, running⟩
        simp [positive, running] at refused
      · rename_i allowed
        split at monitored
        · contradiction
        · rename_i absent
          cases monitored
          obtain ⟨positive, running⟩ := not_or.mp allowed
          change Cells.read _ uuid (_ ++ [_]) = _
          rw [Cells.read_append_singleton]
          change (watchdog.info uuid).or (if other = uuid then some _ else none) = _
          by_cases same : other = uuid
          · subst same
            rw [if_pos rfl, if_pos ⟨rfl, positive, by simpa using running⟩]
            have missing : watchdog.info other = none := by simpa using absent
            rw [missing, Option.none_or]
          · rw [if_neg same, if_neg (by simp [same]), Option.or_none]

end Barton.CommFail
