import BartonCore.Proof.CommFail.ContactDate

namespace Barton.CommFail

section Widths

theorem toInt_toInt32 (value : UInt32) : value.toInt32.toInt = (value.toNat : Int).bmod (2 ^ 32) := by
  have same := @UInt32.toInt32_ofNat' value.toNat
  rw [UInt32.ofNat_toNat] at same
  rw [same, Int32.toInt_ofNat']
  rfl

/-- A small number keeps its value in the signed type. -/
theorem toInt_toInt32_of_small {value : UInt32} (small : value.toNat < 2 ^ 31) :
    value.toInt32.toInt = value.toNat := by
  rw [toInt_toInt32, Int.bmod_eq_emod]
  split
  · omega
  · omega

/-- A large number reads as negative in the signed type. -/
theorem toInt_toInt32_of_large {value : UInt32} (large : 2 ^ 31 ≤ value.toNat) :
    value.toInt32.toInt = value.toNat - 2 ^ 32 := by
  have bound := value.toNat_lt
  rw [toInt_toInt32, Int.bmod_eq_emod]
  split
  · omega
  · omega

end Widths

/-- The product of a low power mode call fits into the signed type. A product that does not fit is undefined. -/
def Action.defined : Action → Bool
  | .setTimeRemainingFromLPM _ seconds => decide (seconds.toInt * 1000 < 2 ^ 31)
  | _ => true

/-- Every duration that the step grants is stored exactly, or it is clamped to the largest number. -/
def Converts (state : Clocked) (input : UInt64 × Action) : Prop :=
  ∀ uuid duration, grants state.watchdog uuid input.2 = some duration → input.2.defined = true ∧
    ∀ next info, step state input = some next → next.watchdog.info uuid = some info →
      info.commFailTimeRemainingMillis.toNat = min duration (2 ^ 32 - 1)

/-- The milliseconds of every duration that the step grants fit. -/
def GrantFits (state : Clocked) (input : UInt64 × Action) : Prop :=
  ∀ uuid duration, grants state.watchdog uuid input.2 = some duration → input.2.defined = true ∧ duration < 2 ^ 32

/-- The true deadline after one more step. The fast timer divides the time that remains by 100. -/
def tracked (uuid : String) (state : Clocked) (due : Option Nat) (input : UInt64 × Action) : Option Nat :=
  match grants state.watchdog uuid input.2 with
  | some duration => some (input.1.toNat + duration)
  | none =>
      if input.2.checks && state.watchdog.fastCommFailTimer then
        due.map fun due => input.1.toNat + (due - input.1.toNat) / 100
      else due

/-- The true deadline comes from the granted durations without any bound on their size. -/
def trueDeadline (uuid : String) (state : Clocked) (due : Option Nat) : List (UInt64 × Action) → Option Nat
  | [] => due
  | input :: rest =>
      match step state input with
      | none => due
      | some next => trueDeadline uuid next (tracked uuid state due input) rest

/-- This is the answer for a low power mode in whole seconds. -/
def trueRemaining (due : Option Nat) (info : Option MonitoredDeviceInfo) (now : UInt64) (delay : UInt32) : Int :=
  match info with
  | none => -1
  | some info =>
      if info.inCommFail then -1
      else (((due.getD 0 - now.toNat) / 1000 + (delay.toNat - info.commFailTimeoutSeconds.toNat) : Nat) : Int)

/-- The answer fits into the signed type. -/
def AnswerFits (due : Option Nat) (info : Option MonitoredDeviceInfo) (now : UInt64) (delay : UInt32) : Prop :=
  ∀ one ∈ info, one.inCommFail = false →
    (due.getD 0 - now.toNat) / 1000 + (delay.toNat - one.commFailTimeoutSeconds.toNat) < 2 ^ 31

section Steps
variable {uuid : String} {state next : Clocked} {info : MonitoredDeviceInfo}

/-- A device that a step grants a duration has an info after the step. -/
theorem grants_info {watchdog changed : Watchdog} {now : UInt64} {action : Action} {duration : Nat}
    (granted : grants watchdog uuid action = some duration)
    (performed : perform watchdog now action = some changed) : ∃ info, changed.info uuid = some info := by
  cases action with
  | monitor device seconds inCommFail =>
      rw [info_monitorDevice _ _ uuid performed]
      cases device with
      | none => contradiction
      | some other =>
          unfold grants at granted
          dsimp only at granted
          split at granted
          · next given =>
            rw [if_pos ⟨congrArg some given.1, given.2⟩]
            exact ⟨_, rfl⟩
          · contradiction
  | pet device =>
      cases performed
      cases device with
      | none => contradiction
      | some other =>
          unfold grants at granted
          dsimp only at granted
          split at granted
          · next same =>
            obtain ⟨old, known, _⟩ := Option.map_eq_some_iff.mp granted
            rw [info_petDevice, if_pos (congrArg some same), known]
            exact ⟨_, rfl⟩
          · contradiction
  | setTimeRemainingFromLPM device seconds =>
      cases performed
      cases device with
      | none => contradiction
      | some other =>
          unfold grants at granted
          dsimp only at granted
          split at granted
          · next given =>
            obtain ⟨old, known, _⟩ := Option.bind_eq_some_iff.mp granted
            rw [info_setTimeRemainingForDeviceFromLPM _ _ _ _ given.2, if_pos (congrArg some given.1), known]
            exact ⟨_, rfl⟩
          · contradiction
  | _ => contradiction

/-- A step converts its durations exactly when they fit. -/
theorem converts_iff {input : UInt64 × Action} (stepped : step state input = some next) :
    Converts state input ↔ GrantFits state input := by
  obtain ⟨_, _, performed⟩ := step_cases stepped
  constructor
  · intro converts uuid duration granted
    obtain ⟨defined, stored⟩ := converts uuid duration granted
    obtain ⟨info, found⟩ := grants_info granted performed
    have clamped := stored next info stepped found
    rcases perform_cases performed found with ⟨other, again, _, remaining, _⟩ | ⟨none, _⟩
    · cases granted.symm.trans again
      -- A reduced duration is even, and the largest number is odd.
      obtain ⟨seconds, rfl, _⟩ := grants_seconds granted
      refine ⟨defined, ?_⟩
      omega
    · exact absurd (granted.symm.trans none) (Option.some_ne_none _)
  · intro fits uuid duration granted
    obtain ⟨defined, small⟩ := fits uuid duration granted
    refine ⟨defined, fun other info again found => ?_⟩
    cases stepped.symm.trans again
    rcases perform_cases performed found with ⟨other, again, _, remaining, _⟩ | ⟨none, _⟩
    · cases granted.symm.trans again
      omega
    · exact absurd (granted.symm.trans none) (Option.some_ne_none _)

/-- The fields of a device agree with its true deadline, and the milliseconds of its timeout fit. -/
def Accurate (uuid : String) (state : Clocked) (due : Option Nat) : Prop :=
  ∀ info, state.watchdog.info uuid = some info → info.commFailRemainingLastSyncMillis ≤ state.clock ∧
    info.commFailTimeoutSeconds.toNat * 1000 < 2 ^ 32 ∧ (info.inCommFail = false →
      due = some (info.commFailRemainingLastSyncMillis.toNat + info.commFailTimeRemainingMillis.toNat))

theorem Accurate.initial (uuid : String) (clock : UInt64) (fast : Bool) :
    Accurate uuid ⟨clock, .initial fast⟩ none := by
  intro info found
  cases found

/-- A check keeps the true deadline, and the fast timer moves it. -/
theorem check_remaining {now : UInt64} {old : MonitoredDeviceInfo} {due : Option Nat} (fast : Bool)
    (ordered : old.commFailRemainingLastSyncMillis ≤ now)
    (healthy : old.inCommFail = false →
      due = some (old.commFailRemainingLastSyncMillis.toNat + old.commFailTimeRemainingMillis.toNat))
    (stays : (checkDevice fast now old).inCommFail = false) :
    (if fast then due.map fun due => now.toNat + (due - now.toNat) / 100 else due) =
      some (now.toNat + (checkDevice fast now old).commFailTimeRemainingMillis.toNat) := by
  have remaining := getMillisUntilCommFail_toNat ordered
  have order := UInt64.le_iff_toNat_le.mp ordered
  cases fast with
  | false =>
      change (old.inCommFail || getMillisUntilCommFail now old == 0) = false at stays
      rw [Bool.or_eq_false_iff, beq_eq_false_iff_ne] at stays
      have positive : (getMillisUntilCommFail now old).toNat ≠ 0 := fun zero => stays.2 (UInt32.toNat_inj.mp zero)
      rw [healthy stays.1]
      change some _ = some (now.toNat + (getMillisUntilCommFail now old).toNat)
      congr 1
      omega
  | true =>
      change (old.inCommFail || getMillisUntilCommFail now old / 100 == 0) = false at stays
      rw [Bool.or_eq_false_iff, beq_eq_false_iff_ne] at stays
      rw [healthy stays.1]
      change some _ = some (now.toNat + (getMillisUntilCommFail now old / 100).toNat)
      rw [UInt32.toNat_div]
      change some (now.toNat + _ / 100) = some (now.toNat + _ / 100)
      congr 3
      omega

theorem Accurate.step {due : Option Nat} {input : UInt64 × Action} (accurate : Accurate uuid state due)
    (stepped : step state input = some next) (fits : GrantFits state input) :
    Accurate uuid next (tracked uuid state due input) := by
  obtain ⟨clock, later, performed⟩ := step_cases stepped
  intro info found
  unfold tracked
  rw [clock]
  rcases perform_cases performed found with
    ⟨duration, granted, synced, remaining, timeout⟩ | ⟨none, old, known, kind⟩
  · have small := (fits uuid duration granted).2
    have bounded : info.commFailTimeoutSeconds.toNat * 1000 < 2 ^ 32 := by
      rcases timeout with same | ⟨old, known, same⟩
      · rw [same]
        exact small
      · rw [same]
        exact (accurate old known).2.1
    rw [granted, synced, remaining, Nat.mod_eq_of_lt small]
    exact ⟨UInt64.le_refl _, bounded, fun _ => rfl⟩
  · obtain ⟨ordered, bounded, healthy⟩ := accurate old known
    have before := UInt64.le_trans ordered later
    rw [none]
    rcases kind with ⟨checks, rfl⟩ | ⟨unchecked, rfl | rfl⟩
    · refine ⟨UInt64.le_refl _, bounded, fun stays => ?_⟩
      rw [checks, Bool.true_and]
      exact check_remaining _ before healthy stays
    · refine ⟨before, bounded, fun stays => ?_⟩
      rw [unchecked, Bool.false_and]
      exact healthy stays
    · exact ⟨before, bounded, fun stays => absurd stays (by simp [forceInfo])⟩

theorem Accurate.run {due : Option Nat} {inputs : List (UInt64 × Action)} {final : Clocked}
    (accurate : Accurate uuid state due) (fits : Runs.Guarded CommFail.step GrantFits state inputs)
    (reached : run state inputs = some final) : Accurate uuid final (trueDeadline uuid state due inputs) := by
  induction inputs generalizing state due with
  | nil =>
      cases reached
      exact accurate
  | cons input rest ih =>
      obtain ⟨next, stepped, later⟩ := Option.bind_eq_some_iff.mp reached
      rw [trueDeadline, stepped]
      exact ih (accurate.step stepped fits.1) (fits.2 next stepped) later

/-- All conversions of a run are exact or clamped exactly when all granted durations fit. -/
theorem run_converts_iff {inputs : List (UInt64 × Action)} {final : Clocked}
    (reached : run state inputs = some final) :
    Runs.Guarded CommFail.step Converts state inputs ↔ Runs.Guarded CommFail.step GrantFits state inputs := by
  induction inputs generalizing state with
  | nil => exact ⟨fun _ => trivial, fun _ => trivial⟩
  | cons input rest ih =>
      obtain ⟨next, stepped, later⟩ := Option.bind_eq_some_iff.mp reached
      constructor
      · rintro ⟨first, others⟩
        refine ⟨(converts_iff stepped).mp first, fun other again => ?_⟩
        cases stepped.symm.trans again
        exact (ih later).mp (others next stepped)
      · rintro ⟨first, others⟩
        refine ⟨(converts_iff stepped).mpr first, fun other again => ?_⟩
        cases stepped.symm.trans again
        exact (ih later).mpr (others next stepped)

end Steps

section Answer

/-- The seconds of the answer are exact exactly when they fit. -/
theorem seconds_iff {millis delay timeout : UInt32} (bounded : timeout.toNat * 1000 < 2 ^ 32) :
    (if 0 ≤ (delay - timeout).toInt32 then (millis / 1000).toInt32 + (delay - timeout).toInt32
        else (millis / 1000).toInt32).toInt =
      ((millis.toNat / 1000 + (delay.toNat - timeout.toNat) : Nat) : Int) ↔
    millis.toNat / 1000 + (delay.toNat - timeout.toNat) < 2 ^ 31 := by
  have millisBound := millis.toNat_lt
  have delayBound := delay.toNat_lt
  have quotient : (millis / 1000).toNat = millis.toNat / 1000 := UInt32.toNat_div ..
  have whole : (millis / 1000).toInt32.toInt = millis.toNat / 1000 := by
    rw [toInt_toInt32_of_small (by omega), quotient]
    rfl
  have difference : (delay - timeout).toNat = (2 ^ 32 - timeout.toNat + delay.toNat) % 2 ^ 32 := UInt32.toNat_sub ..
  have zero : (0 : Int32).toInt = 0 := by decide
  by_cases small : (delay - timeout).toNat < 2 ^ 31
  · have signed := toInt_toInt32_of_small small
    have nonnegative : 0 ≤ (delay - timeout).toInt32 := by
      rw [Int32.le_iff_toInt_le, signed, zero]
      omega
    rw [if_pos nonnegative, Int32.toInt_add, whole, signed, Int.bmod_eq_emod]
    split
    · omega
    · omega
  · have signed := toInt_toInt32_of_large (Nat.le_of_not_lt small)
    have negative : ¬0 ≤ (delay - timeout).toInt32 := by
      rw [Int32.le_iff_toInt_le, signed, zero]
      omega
    rw [if_neg negative, whole]
    omega

/-- In every run, the times are exact exactly when the durations and the answer fit. -/
theorem run_times_iff {clock now : UInt64} {fast : Bool} {inputs : List (UInt64 × Action)} {final : Clocked}
    (reached : run ⟨clock, .initial fast⟩ inputs = some final) (later : final.clock ≤ now) (uuid : String)
    (delay : UInt32) :
    (Runs.Guarded step Converts ⟨clock, .initial fast⟩ inputs ∧
      (getRemainingCommFailTimeoutForLPM final.watchdog now (some uuid) delay).toInt =
        trueRemaining (trueDeadline uuid ⟨clock, .initial fast⟩ none inputs) (final.watchdog.info uuid) now delay) ↔
    Runs.Guarded step GrantFits ⟨clock, .initial fast⟩ inputs ∧
      AnswerFits (trueDeadline uuid ⟨clock, .initial fast⟩ none inputs) (final.watchdog.info uuid) now delay := by
  rw [run_converts_iff reached]
  refine and_congr_right fun fits => ?_
  have accurate := (Accurate.initial uuid clock fast).run fits reached
  unfold getRemainingCommFailTimeoutForLPM trueRemaining AnswerFits
  rw [Option.bind_some]
  cases found : final.watchdog.info uuid with
  | none => exact ⟨fun _ _ absent => absurd absent.symm (Option.some_ne_none _), fun _ => rfl⟩
  | some info =>
      obtain ⟨ordered, bounded, healthy⟩ := accurate info found
      dsimp only
      by_cases failed : info.inCommFail = true
      · rw [if_pos failed, if_pos failed]
        refine ⟨fun _ one same stays => ?_, fun _ => rfl⟩
        cases same
        exact absurd (failed.symm.trans stays) (by decide)
      · rw [if_neg failed, if_neg failed]
        have due := healthy (Bool.eq_false_iff.mpr failed)
        have remaining := getMillisUntilCommFail_toNat (UInt64.le_trans ordered later)
        have order := UInt64.le_iff_toNat_le.mp (UInt64.le_trans ordered later)
        have left : (trueDeadline uuid ⟨clock, .initial fast⟩ none inputs).getD 0 - now.toNat =
            (getMillisUntilCommFail now info).toNat := by
          rw [due, Option.getD_some]
          omega
        rw [left]
        refine (seconds_iff bounded).trans ⟨fun fitting one same _ => ?_, fun fitting => ?_⟩
        · cases same
          exact fitting
        · exact fitting info rfl (Bool.eq_false_iff.mpr failed)

end Answer

/-- A device with a timeout of one minute has 40 seconds left, and the delay exceeds the timeout by 30 seconds. -/
theorem run_times_iff_sample :
    (Runs.Guarded step Converts ⟨0, .initial false⟩ [(0, .monitor (some "a") 60 false)] ∧
      (getRemainingCommFailTimeoutForLPM monitoring.watchdog 20000 (some "a") 90).toInt = 70) ↔
    Runs.Guarded step GrantFits ⟨0, .initial false⟩ [(0, .monitor (some "a") 60 false)] ∧
      AnswerFits (some 60000) (monitoring.watchdog.info "a") 20000 90 :=
  run_times_iff run_monitoring (by decide) "a" 90

/-- A timeout of 4294968 seconds is reduced to less than one second. A delay of 3000000000 seconds is ignored. -/
theorem not_times :
    ¬Runs.Guarded step Converts ⟨0, .initial false⟩ [(0, .monitor (some "a") 4294968 false)] ∧
      (getRemainingCommFailTimeoutForLPM monitoring.watchdog 0 (some "a") 3000000000).toInt ≠
        trueRemaining (some 60000) (monitoring.watchdog.info "a") 0 3000000000 := by
  constructor
  · intro guarded
    have stored := (guarded.1 "a" 4294968000 (by decide)).2
      ⟨0, ⟨true, false, [⟨"a", 4294968, 704, 0, false⟩]⟩⟩ ⟨"a", 4294968, 704, 0, false⟩ rfl (by decide)
    revert stored
    decide
  · decide

end Barton.CommFail
