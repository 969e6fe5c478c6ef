import BartonCore.Proof.CommFail.Effects

namespace Barton.CommFail

section Arithmetic
variable {info : MonitoredDeviceInfo} {now : UInt64}

/-- Without a wrap of the clock, the remaining time is a truncated difference. -/
theorem getMillisUntilCommFail_toNat (ordered : info.commFailRemainingLastSyncMillis ≤ now) :
    (getMillisUntilCommFail now info).toNat = info.commFailTimeRemainingMillis.toNat -
      (now.toNat - info.commFailRemainingLastSyncMillis.toNat) := by
  have elapsed := UInt64.toNat_sub_of_le now info.commFailRemainingLastSyncMillis ordered
  have small := info.commFailTimeRemainingMillis.toNat_lt
  unfold getMillisUntilCommFail
  by_cases early : now - info.commFailRemainingLastSyncMillis < info.commFailTimeRemainingMillis.toUInt64
  · have shorter := UInt64.lt_iff_toNat_lt.mp early
    rw [elapsed, UInt32.toNat_toUInt64] at shorter
    rw [if_pos early, UInt64.toNat_toUInt32, UInt64.toNat_sub_of_le _ _ (UInt64.le_of_lt early), elapsed,
      UInt32.toNat_toUInt64]
    omega
  · have longer := UInt64.le_iff_toNat_le.mp (UInt64.not_lt.mp early)
    rw [elapsed, UInt32.toNat_toUInt64] at longer
    rw [if_neg early]
    change 0 = _
    omega

theorem seconds_mod (seconds : UInt32) : (seconds * 1000).toNat = seconds.toNat * 1000 % 2 ^ 32 := UInt32.toNat_mul ..

theorem secondsFromLPM_mod {seconds : Int32} (nonnegative : ¬seconds < 0) :
    (seconds * 1000).toUInt32.toNat = seconds.toInt.toNat * 1000 % 2 ^ 32 := by
  have same : seconds.toUInt32.toNat = seconds.toInt.toNat :=
    Int32.toNat_toUInt32_of_le (Int32.not_lt.mp nonnegative)
  rw [Int32.toUInt32_mul, ← same]
  exact seconds_mod seconds.toUInt32

end Arithmetic

/-- A step grants a device this many milliseconds until comm fail. -/
def grants (watchdog : Watchdog) (uuid : String) : Action → Option Nat
  | .monitor (some other) seconds _ =>
      if other = uuid ∧ seconds ≠ 0 ∧ watchdog.running = true then some (seconds.toNat * 1000) else none
  | .pet (some other) =>
      if other = uuid then
        (watchdog.info uuid).map fun info => info.commFailTimeoutSeconds.toNat * 1000
      else none
  | .setTimeRemainingFromLPM (some other) seconds =>
      if other = uuid ∧ ¬seconds < 0 then
        (watchdog.info uuid).bind fun info =>
          if info.inCommFail then none else some (seconds.toInt.toNat * 1000)
      else none
  | _ => none

/-- The deadline after one more step. -/
def renewed (uuid : String) (state : Clocked) (last : Option Nat) (input : UInt64 × Action) : Option Nat :=
  ((grants state.watchdog uuid input.2).map (input.1.toNat + ·)).or last

/-- The deadline is the time of the last grant and its duration. -/
def deadline (uuid : String) (state : Clocked) (last : Option Nat) : List (UInt64 × Action) → Option Nat
  | [] => last
  | input :: rest =>
      match step state input with
      | none => last
      | some next => deadline uuid next (renewed uuid state last input) rest

/-- A granted duration is at most 2147483 seconds. -/
def Action.bounded : Action → Bool
  | .monitor _ seconds _ => decide (seconds.toNat ≤ 2147483)
  | .setTimeRemainingFromLPM _ seconds => decide (seconds.toInt ≤ 2147483)
  | _ => true

def Action.checks : Action → Bool
  | .check => true
  | _ => false

/-- The two time fields of a device say when it enters comm fail. -/
structure Timed (clock : UInt64) (last : Option Nat) (info : MonitoredDeviceInfo) : Prop where
  timeout : info.commFailTimeoutSeconds.toNat ≤ 2147483
  synced : info.commFailRemainingLastSyncMillis ≤ clock
  healthy : info.inCommFail = false → last = some
    (info.commFailRemainingLastSyncMillis.toNat + info.commFailTimeRemainingMillis.toNat)

theorem Timed.later {clock now : UInt64} {last : Option Nat} {info : MonitoredDeviceInfo}
    (timed : Timed clock last info) (later : ¬now < clock) : Timed now last info :=
  ⟨timed.timeout, UInt64.le_trans timed.synced (UInt64.not_lt.mp later), timed.healthy⟩

/-- A check keeps the deadline of every device that stays out of comm fail. -/
theorem Timed.check {clock now : UInt64} {last : Option Nat} {info : MonitoredDeviceInfo}
    (timed : Timed clock last info) (later : ¬now < clock) :
    Timed now last (checkDevice false now info) := by
  have ordered := (timed.later later).synced
  have remaining := getMillisUntilCommFail_toNat ordered
  refine ⟨timed.timeout, UInt64.le_refl now, ?_⟩
  intro healthy
  change (info.inCommFail || getMillisUntilCommFail now info == 0) = false at healthy
  rw [Bool.or_eq_false_iff, beq_eq_false_iff_ne] at healthy
  have positive : (getMillisUntilCommFail now info).toNat ≠ 0 := fun zero =>
    healthy.2 (UInt32.toNat_inj.mp zero)
  rw [timed.healthy healthy.1]
  change some _ = some (now.toNat + (getMillisUntilCommFail now info).toNat)
  have order := UInt64.le_iff_toNat_le.mp ordered
  congr 1
  omega

/-- A device out of comm fail enters it at a check if and only if its deadline has come. -/
theorem Timed.enters_iff {clock now : UInt64} {last : Option Nat} {info : MonitoredDeviceInfo}
    (timed : Timed clock last info) (later : ¬now < clock) (healthy : info.inCommFail = false) :
    ∃ deadline, last = some deadline ∧
      ((checkDevice false now info).inCommFail = true ↔ deadline ≤ now.toNat) := by
  have ordered := (timed.later later).synced
  have remaining := getMillisUntilCommFail_toNat ordered
  have order := UInt64.le_iff_toNat_le.mp ordered
  refine ⟨_, timed.healthy healthy, ?_⟩
  change (info.inCommFail || getMillisUntilCommFail now info == 0) = true ↔ _
  rw [healthy, Bool.false_or, beq_iff_eq, ← UInt32.toNat_inj, remaining]
  change _ - _ = 0 ↔ _
  omega

/-- A grant sets the deadline of its device. -/
theorem Timed.granted {clock : UInt64} {info : MonitoredDeviceInfo} {duration : Nat}
    (timeout : info.commFailTimeoutSeconds.toNat ≤ 2147483)
    (synced : info.commFailRemainingLastSyncMillis = clock)
    (millis : info.commFailTimeRemainingMillis.toNat = duration) :
    Timed clock (some (clock.toNat + duration)) info := by
  subst synced millis
  exact ⟨timeout, UInt64.le_refl _, fun _ => rfl⟩

/-- The fields of a device agree with the last grant. -/
structure Lawful (uuid : String) (state : Clocked) (last : Option Nat) : Prop where
  slow : state.watchdog.fastCommFailTimer = false
  timed : ∀ info, state.watchdog.info uuid = some info → Timed state.clock last info

theorem renewed_of_grant {uuid : String} {state : Clocked} {last : Option Nat} {now : UInt64}
    {action : Action} {duration : Nat} (grant : grants state.watchdog uuid action = some duration) :
    renewed uuid state last (now, action) = some (now.toNat + duration) := by
  unfold renewed
  rw [grant, Option.map_some, Option.some_or]

theorem renewed_of_none {uuid : String} {state : Clocked} {last : Option Nat} {now : UInt64}
    {action : Action} (none : grants state.watchdog uuid action = none) :
    renewed uuid state last (now, action) = last := by
  unfold renewed
  rw [none, Option.map_none, Option.none_or]

section Steps
variable {uuid : String} {state : Clocked} {last : Option Nat} {now : UInt64}

/-- A step takes place at its own time, which is not before the clock. -/
theorem step_cases {next : Clocked} {input : UInt64 × Action} (stepped : step state input = some next) :
    next.clock = input.1 ∧ state.clock ≤ input.1 ∧ perform state.watchdog input.1 input.2 = some next.watchdog := by
  unfold CommFail.step at stepped
  split at stepped
  · contradiction
  · next later =>
    obtain ⟨watchdog, performed, rfl⟩ := Option.map_eq_some_iff.mp stepped
    exact ⟨rfl, UInt64.not_lt.mp later, performed⟩

/-- A granted duration is whole seconds, and bounded calls on bounded devices grant bounded durations. -/
theorem grants_seconds {watchdog : Watchdog} {action : Action} {duration : Nat}
    (granted : grants watchdog uuid action = some duration) :
    ∃ seconds, duration = seconds * 1000 ∧ (action.bounded = true →
      (∀ info, watchdog.info uuid = some info → info.commFailTimeoutSeconds.toNat ≤ 2147483) →
        seconds ≤ 2147483) := by
  unfold grants at granted
  split at granted
  · rename_i seconds _
    split at granted
    · cases granted
      exact ⟨seconds.toNat, rfl, fun bounded _ => of_decide_eq_true bounded⟩
    · contradiction
  · split at granted
    · obtain ⟨info, known, rfl⟩ := Option.map_eq_some_iff.mp granted
      exact ⟨_, rfl, fun _ small => small info known⟩
    · contradiction
  · rename_i seconds
    split at granted
    · obtain ⟨info, _, given⟩ := Option.bind_eq_some_iff.mp granted
      split at given
      · contradiction
      · cases given
        refine ⟨seconds.toInt.toNat, rfl, fun bounded _ => ?_⟩
        have small : seconds.toInt ≤ 2147483 := of_decide_eq_true bounded
        omega
    · contradiction
  · contradiction

/-- A step stores the granted duration modulo 2^32, or it checks the device, or it keeps the times. The timeout
stays, or it is the granted duration. -/
theorem perform_cases {watchdog changed : Watchdog} {action : Action} {info : MonitoredDeviceInfo}
    (performed : perform watchdog now action = some changed) (found : changed.info uuid = some info) :
    (∃ duration, grants watchdog uuid action = some duration ∧ info.commFailRemainingLastSyncMillis = now ∧
        info.commFailTimeRemainingMillis.toNat = duration % 2 ^ 32 ∧
        (info.commFailTimeoutSeconds.toNat * 1000 = duration ∨ ∃ old, watchdog.info uuid = some old ∧
          info.commFailTimeoutSeconds = old.commFailTimeoutSeconds)) ∨
      grants watchdog uuid action = none ∧ ∃ old, watchdog.info uuid = some old ∧
        (action.checks = true ∧ info = checkDevice watchdog.fastCommFailTimer now old ∨
          action.checks = false ∧ (info = old ∨ info = forceInfo old)) := by
  cases action with
  | monitor device seconds inCommFail =>
      rw [info_monitorDevice _ _ uuid performed] at found
      by_cases granted : device = some uuid ∧ seconds ≠ 0 ∧ watchdog.running = true
      · rw [if_pos granted] at found
        cases found
        obtain ⟨rfl, positive⟩ := granted
        exact .inl ⟨_, if_pos ⟨rfl, positive⟩, rfl, seconds_mod seconds, .inl rfl⟩
      · rw [if_neg granted] at found
        refine .inr ⟨?_, info, found, .inr ⟨rfl, .inl rfl⟩⟩
        cases device with
        | none => rfl
        | some other => exact if_neg (by simpa using granted)
  | stopMonitoring device =>
      cases performed
      by_cases same : device = uuid
      · subst same
        exact absurd (Cells.read_delete.symm.trans found).symm (Option.some_ne_none _)
      · exact .inr ⟨rfl, info, (Cells.read_delete_of_ne (Ne.symm same)).symm.trans found, .inr ⟨rfl, .inl rfl⟩⟩
  | pet device =>
      cases performed
      rw [info_petDevice] at found
      by_cases same : device = some uuid
      · rw [if_pos same] at found
        obtain ⟨old, known, rfl⟩ := Option.map_eq_some_iff.mp found
        refine .inl ⟨old.commFailTimeoutSeconds.toNat * 1000, ?_, rfl, seconds_mod _, .inl rfl⟩
        rw [same, grants, if_pos rfl, known, Option.map_some]
      · rw [if_neg same] at found
        refine .inr ⟨?_, info, found, .inr ⟨rfl, .inl rfl⟩⟩
        cases device with
        | none => rfl
        | some other => exact if_neg (by simpa using same)
  | force device =>
      cases performed
      rw [info_forceDeviceInCommFail] at found
      split at found
      · obtain ⟨old, known, rfl⟩ := Option.map_eq_some_iff.mp found
        exact .inr ⟨rfl, old, known, .inr ⟨rfl, .inr rfl⟩⟩
      · exact .inr ⟨rfl, info, found, .inr ⟨rfl, .inl rfl⟩⟩
  | setTimeRemainingFromLPM device seconds =>
      cases performed
      by_cases negative : seconds < 0
      · rw [setTimeRemainingForDeviceFromLPM, if_pos negative] at found
        refine .inr ⟨?_, info, found, .inr ⟨rfl, .inl rfl⟩⟩
        cases device with
        | none => rfl
        | some other => exact if_neg (by simp [negative])
      · rw [info_setTimeRemainingForDeviceFromLPM _ _ _ _ negative] at found
        by_cases same : device = some uuid
        · rw [if_pos same] at found
          obtain ⟨old, known, rfl⟩ := Option.map_eq_some_iff.mp found
          have granted : grants watchdog uuid (.setTimeRemainingFromLPM device seconds) =
              if old.inCommFail then none else some (seconds.toInt.toNat * 1000) := by
            rw [same, grants, if_pos ⟨rfl, negative⟩, known, Option.bind_some]
          unfold setRemainingInfo
          by_cases failed : old.inCommFail = true
          · rw [if_pos failed] at granted ⊢
            exact .inr ⟨granted, old, known, .inr ⟨rfl, .inl rfl⟩⟩
          · rw [if_neg failed] at granted ⊢
            exact .inl ⟨_, granted, rfl, secondsFromLPM_mod negative, .inr ⟨old, known, rfl⟩⟩
        · rw [if_neg same] at found
          refine .inr ⟨?_, info, found, .inr ⟨rfl, .inl rfl⟩⟩
          cases device with
          | none => rfl
          | some other => exact if_neg (by simpa [negative] using same)
  | check =>
      cases performed
      rw [info_checkDevices] at found
      obtain ⟨old, known, rfl⟩ := Option.map_eq_some_iff.mp found
      exact .inr ⟨rfl, old, known, .inl ⟨rfl, rfl⟩⟩

/-- The update does not change the speed of the timer. -/
theorem perform_slow {next : Watchdog} {action : Action}
    (performed : perform state.watchdog now action = some next) :
    next.fastCommFailTimer = state.watchdog.fastCommFailTimer := by
  cases action with
  | monitor device seconds inCommFail =>
      change monitorDevice _ _ _ _ _ = some next at performed
      unfold monitorDevice at performed
      split at performed
      · cases performed
        rfl
      · split at performed
        · cases performed
          rfl
        · split at performed
          · contradiction
          · cases performed
            rfl
  | stopMonitoring | check =>
      cases performed
      rfl
  | pet device =>
      cases performed
      rw [petDevice_eq]
      split
      · rfl
      · rfl
  | force device =>
      cases performed
      rw [forceDeviceInCommFail_eq]
      split
      · rfl
      · split
        · rfl
        · rfl
  | setTimeRemainingFromLPM device seconds =>
      cases performed
      unfold setTimeRemainingForDeviceFromLPM
      split
      · rfl
      · split
        · rfl
        · split
          · rfl
          · rfl

/-- A step keeps the agreement of the fields with the last grant. -/
theorem Lawful.step {next : Clocked} {input : UInt64 × Action} (lawful : Lawful uuid state last)
    (bounded : input.2.bounded = true) (stepped : step state input = some next) :
    Lawful uuid next (renewed uuid state last input) := by
  obtain ⟨clock, after, performed⟩ := step_cases stepped
  have later := UInt64.not_lt.mpr after
  refine ⟨(perform_slow performed).trans lawful.slow, ?_⟩
  intro info found
  rw [clock]
  rcases perform_cases performed found with
    ⟨duration, granted, synced, remaining, timeout⟩ | ⟨none, old, known, kind⟩
  · obtain ⟨seconds, rfl, small⟩ := grants_seconds granted
    have fits := small bounded fun old known => (lawful.timed old known).timeout
    have within : info.commFailTimeoutSeconds.toNat ≤ 2147483 := by
      rcases timeout with same | ⟨old, known, same⟩
      · omega
      · rw [same]
        exact (lawful.timed old known).timeout
    rw [renewed_of_grant granted]
    refine .granted within synced ?_
    rw [remaining]
    omega
  · have timed := lawful.timed old known
    rw [renewed_of_none none]
    rcases kind with ⟨_, rfl⟩ | ⟨_, rfl | rfl⟩
    · rw [lawful.slow]
      exact timed.check later
    · exact timed.later later
    · have kept := timed.later later
      exact ⟨kept.timeout, kept.synced, fun healthy => absurd healthy (by simp [forceInfo])⟩

theorem Lawful.initial (uuid : String) (clock : UInt64) : Lawful uuid ⟨clock, .initial false⟩ none := by
  refine ⟨rfl, ?_⟩
  intro info found
  cases found

theorem Lawful.run {inputs : List (UInt64 × Action)} {final : Clocked} (lawful : Lawful uuid state last)
    (bounded : ∀ input ∈ inputs, input.2.bounded = true) (reached : run state inputs = some final) :
    Lawful uuid final (deadline uuid state last inputs) := by
  induction inputs generalizing state last with
  | nil =>
      cases reached
      exact lawful
  | cons input rest ih =>
      obtain ⟨next, stepped, later⟩ := Option.bind_eq_some_iff.mp reached
      rw [deadline, stepped]
      exact ih (lawful.step (bounded input List.mem_cons_self) stepped)
        (fun other member => bounded other (List.mem_cons_of_mem _ member)) later

end Steps

/-- With the fast timer off, a device out of comm fail enters it at a check if and only if the last grant
has run out, and a pet takes every device out of comm fail. -/
theorem run_commFail_iff {clock : UInt64} {inputs : List (UInt64 × Action)} {final : Clocked}
    {uuid : String} {info : MonitoredDeviceInfo}
    (bounded : ∀ input ∈ inputs, input.2.bounded = true)
    (reached : run ⟨clock, .initial false⟩ inputs = some final)
    (found : final.watchdog.info uuid = some info) :
    (info.inCommFail = false → ∃ due, deadline uuid ⟨clock, .initial false⟩ none inputs = some due ∧
      ∀ now next, step final (now, .check) = some next →
        ∃ checked, next.watchdog.info uuid = some checked ∧
          (checked.inCommFail = true ↔ due ≤ now.toNat)) ∧
    ∀ now next, step final (now, .pet (some uuid)) = some next →
      ∃ petted, next.watchdog.info uuid = some petted ∧ petted.inCommFail = false := by
  have lawful := (Lawful.initial uuid clock).run bounded reached
  have timed := lawful.timed info found
  constructor
  · intro healthy
    refine ⟨_, timed.healthy healthy, ?_⟩
    intro now next stepped
    unfold step at stepped
    split at stepped
    · contradiction
    · rename_i later
      cases stepped
      obtain ⟨due, same, enters⟩ := timed.enters_iff later healthy
      rw [timed.healthy healthy] at same
      cases same
      refine ⟨checkDevice false now info, ?_, enters⟩
      rw [info_checkDevices, lawful.slow, found, Option.map_some]
  · intro now next stepped
    unfold step at stepped
    split at stepped
    · contradiction
    · cases stepped
      refine ⟨petInfo now info, ?_, rfl⟩
      rw [info_petDevice, if_pos rfl, found, Option.map_some]

section Sample

/-- A monitored device is petted, and two checks come before its time. -/
def sampleInputs : List (UInt64 × Action) :=
  [(1000, .monitor (some "a") 60 false), (2000, .monitor (some "b") 10 false), (30000, .check),
    (31000, .pet (some "a")), (50000, .check), (90999, .check)]

end Sample

theorem run_commFail_iff_sample :
    ∃ final info, run ⟨0, .initial false⟩ sampleInputs = some final ∧
      final.watchdog.info "a" = some info ∧ info.inCommFail = false ∧
      deadline "a" ⟨0, .initial false⟩ none sampleInputs = some 91000 ∧
      ∀ now next, step final (now, .check) = some next →
        ∃ checked, next.watchdog.info "a" = some checked ∧
          (checked.inCommFail = true ↔ 91000 ≤ now.toNat) := by
  have computed : (run ⟨0, .initial false⟩ sampleInputs).bind (fun final => final.watchdog.info "a") =
      some ⟨"a", 60, 1, 90999, false⟩ := by decide
  have due : deadline "a" ⟨0, .initial false⟩ none sampleInputs = some 91000 := by decide
  have bounded : ∀ input ∈ sampleInputs, input.2.bounded = true := by decide
  obtain ⟨final, reached, found⟩ := Option.bind_eq_some_iff.mp computed
  obtain ⟨other, same, enters⟩ := (run_commFail_iff bounded reached found).1 rfl
  rw [due] at same
  cases same
  exact ⟨final, _, reached, found, rfl, due, enters⟩

end Barton.CommFail
