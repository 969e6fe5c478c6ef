import BartonCore.Construction.CommFail.Notifications
import BartonCore.Proof.CommFail.Effects

namespace Barton.CommFail
open Threads

/-- The comm fail flag of a device. -/
def Watchdog.flag (watchdog : Watchdog) (uuid : String) : Bool :=
  (watchdog.info uuid).any MonitoredDeviceInfo.inCommFail

/-- The reports to a device in a list of callbacks. -/
def reports (uuid : String) (callbacks : List Callback) : List Bool :=
  (callbacks.filter fun callback => callback.uuid = uuid).map Callback.reports

/-- Each report differs from the one before it. -/
def Alternates : Bool → List Bool → Prop
  | _, [] => True
  | flag, report :: rest => report ≠ flag ∧ Alternates report rest

/-- The last report, or the flag before the first one. -/
def lastReport (flag : Bool) (history : List Bool) : Bool := history.getLast?.getD flag

/-- The callbacks that a call still has to deliver. -/
def Party.undelivered : Party → List Callback
  | .delivering callbacks => callbacks
  | _ => []

/-- The next move of the call changes the comm fail flag of the device. -/
def Party.flips (watchdog : Watchdog) (now : UInt64) (uuid : String) : Party → Bool
  | .pet device => decide (device = some uuid) && watchdog.flag uuid
  | .force device => decide (device = some uuid) &&
      (watchdog.info uuid).any fun info => !info.inCommFail
  | .check => (watchdog.info uuid).any (entersCommFail watchdog.fastCommFailTimer now)
  | .delivering _ => false

/-- The reports that the threads still have to deliver to a device. -/
def outstanding (uuid : String) (threads : List Party) : List Bool :=
  reports uuid (threads.flatMap Party.undelivered)

/-- The devices have distinct keys. -/
def Watchdog.keyed (watchdog : Watchdog) : Prop :=
  (watchdog.monitoredDevices.map MonitoredDeviceInfo.uuid).Nodup

section Lists

theorem lastReport_append (flag report : Bool) (history : List Bool) :
    lastReport flag (history ++ [report]) = report := by
  unfold lastReport
  rw [List.getLast?_append]
  rfl

theorem Alternates.append {flag report : Bool} {history : List Bool} (alternates : Alternates flag history)
    (differs : report ≠ lastReport flag history) : Alternates flag (history ++ [report]) := by
  induction history generalizing flag with
  | nil => exact ⟨differs, trivial⟩
  | cons first rest ih =>
      refine ⟨alternates.1, ih alternates.2 ?_⟩
      cases rest with
      | nil | cons => exact differs

theorem reports_append (uuid : String) (first second : List Callback) :
    reports uuid (first ++ second) = reports uuid first ++ reports uuid second := by
  unfold reports
  rw [List.filter_append, List.map_append]

theorem reports_of_other {uuid : String} {callbacks : List Callback}
    (others : ∀ callback ∈ callbacks, callback.uuid ≠ uuid) : reports uuid callbacks = [] := by
  unfold reports
  rw [List.filter_eq_nil_iff.mpr]
  · rfl
  · intro callback member
    simpa using others callback member

end Lists

section Sections
variable {watchdog : Watchdog} {now : UInt64} {uuid : String}

/-- A section reports exactly the change that it makes to the flag of the device. -/
structure Decides (watchdog next : Watchdog) (callbacks : List Callback) (uuid : String) (flips : Bool) :
    Prop where
  reported : reports uuid callbacks = if flips then [next.flag uuid] else []
  changed : next.flag uuid = if flips then !watchdog.flag uuid else watchdog.flag uuid
  keyed : watchdog.keyed → next.keyed

theorem Watchdog.keyed_updateInfo (distinct : watchdog.keyed) (device : String)
    {update : MonitoredDeviceInfo → MonitoredDeviceInfo} (same : ∀ info, (update info).uuid = info.uuid) :
    (watchdog.updateInfo device update).keyed := by
  unfold keyed updateInfo
  rw [Cells.map_write _ _ fun info _ _ => same info]
  exact distinct

/-- A section about another device reports nothing to the device and keeps its flag. -/
theorem Decides.other {next : Watchdog} {callbacks : List Callback} {device : Option String}
    (different : device ≠ some uuid) (named : ∀ callback ∈ callbacks, device = some callback.uuid)
    (kept : next.info uuid = watchdog.info uuid) (keyed : watchdog.keyed → next.keyed) :
    Decides watchdog next callbacks uuid false := by
  refine ⟨?_, ?_, keyed⟩
  · apply reports_of_other
    intro callback member same
    exact different (same ▸ named callback member)
  · unfold Watchdog.flag
    rw [kept]
    rfl

theorem petDevice_named (device : Option String) :
    ∀ callback ∈ (petDevice watchdog now device).2.1, device = some callback.uuid := by
  intro callback member
  cases device with
  | none => simp [petDevice] at member
  | some other =>
      cases known : watchdog.info other with
      | none => simp [petDevice, known] at member
      | some info =>
          have named : info.uuid = other := Cells.read_address known
          simp [petDevice, known] at member
          rw [member.2, Callback.uuid, named]

theorem forceDeviceInCommFail_named (device : Option String) :
    ∀ callback ∈ (forceDeviceInCommFail watchdog device).2, device = some callback.uuid := by
  intro callback member
  cases device with
  | none => simp [forceDeviceInCommFail] at member
  | some other =>
      cases known : watchdog.info other with
      | none => simp [forceDeviceInCommFail, known] at member
      | some info =>
          have named : info.uuid = other := Cells.read_address known
          by_cases failed : info.inCommFail = true
          · simp [forceDeviceInCommFail, known, failed] at member
          · simp [forceDeviceInCommFail, known, failed] at member
            rw [member, Callback.uuid, named]

theorem petDevice_decides (device : Option String) :
    Decides watchdog (petDevice watchdog now device).1 (petDevice watchdog now device).2.1 uuid
      ((Party.pet device).flips watchdog now uuid) := by
  have keyed (keyed : watchdog.keyed) : (petDevice watchdog now device).1.keyed := by
    rw [petDevice_eq]
    split
    · exact keyed
    · exact Watchdog.keyed_updateInfo keyed _ fun _ => rfl
  by_cases same : device = some uuid
  · subst same
    cases known : watchdog.info uuid with
    | none => constructor <;> simp_all [petDevice, Watchdog.flag, reports, Party.flips]
    | some info =>
        have named : info.uuid = uuid := Cells.read_address known
        have petted := info_petDevice watchdog now uuid (some uuid)
        rw [if_pos rfl, known, Option.map_some] at petted
        cases failed : info.inCommFail with
        | true =>
            constructor <;>
              simp_all [petDevice, Watchdog.flag, reports, Party.flips, Callback.uuid, Callback.reports, petInfo]
        | false =>
            constructor <;> simp_all [petDevice, Watchdog.flag, reports, Party.flips, petInfo]
  · have petted := info_petDevice watchdog now uuid device
    rw [if_neg same] at petted
    have still : (Party.pet device).flips watchdog now uuid = false := by simp [Party.flips, same]
    rw [still]
    exact Decides.other same (petDevice_named device) petted keyed

theorem forceDeviceInCommFail_decides (device : Option String) :
    Decides watchdog (forceDeviceInCommFail watchdog device).1 (forceDeviceInCommFail watchdog device).2
      uuid ((Party.force device).flips watchdog now uuid) := by
  have keyed (keyed : watchdog.keyed) : (forceDeviceInCommFail watchdog device).1.keyed := by
    rw [forceDeviceInCommFail_eq]
    split
    · exact keyed
    · split
      · exact keyed
      · exact Watchdog.keyed_updateInfo keyed _ fun _ => rfl
  by_cases same : device = some uuid
  · subst same
    cases known : watchdog.info uuid with
    | none => constructor <;> simp_all [forceDeviceInCommFail, Watchdog.flag, reports, Party.flips]
    | some info =>
        have named : info.uuid = uuid := Cells.read_address known
        have forced := info_forceDeviceInCommFail watchdog uuid (some uuid)
        rw [if_pos rfl, known, Option.map_some] at forced
        cases failed : info.inCommFail with
        | true =>
            rw [forceInfo_of_failed failed] at forced
            constructor <;> simp [forceDeviceInCommFail, Watchdog.flag, reports, Party.flips, known, failed]
        | false =>
            constructor <;>
              simp_all [forceDeviceInCommFail, Watchdog.flag, reports, Party.flips, Callback.uuid,
                Callback.reports, forceInfo]
  · have forced := info_forceDeviceInCommFail watchdog uuid device
    rw [if_neg same] at forced
    have still : (Party.force device).flips watchdog now uuid = false := by simp [Party.flips, same]
    rw [still]
    exact Decides.other same (forceDeviceInCommFail_named device) forced keyed

/-- A check reports a device at most once. -/
theorem checkDevices_decides (distinct : watchdog.keyed) :
    Decides watchdog (checkDevices watchdog now).1 (checkDevices watchdog now).2 uuid
      (Party.check.flips watchdog now uuid) := by
  have checked := info_checkDevices watchdog now uuid
  refine ⟨?_, ?_, ?_⟩
  · have single : watchdog.monitoredDevices.filter (fun info => info.uuid = uuid) =
        (watchdog.info uuid).toList := Cells.filter_address distinct
    have enters : reports uuid (checkDevices watchdog now).2 =
        ((watchdog.info uuid).toList.filter (entersCommFail watchdog.fastCommFailTimer now)).map
          fun _ => true := by
      rw [← single, List.filter_filter]
      unfold reports checkDevices
      rw [List.filter_map, List.map_map, List.filter_filter]
      congr 1
      congr 1
      funext info
      rw [Bool.and_comm]
      rfl
    rw [enters, Party.flips]
    cases known : watchdog.info uuid with
    | none => rfl
    | some info =>
        by_cases entered : entersCommFail watchdog.fastCommFailTimer now info = true
        · have failed : (checkDevices watchdog now).1.flag uuid = true := by
            unfold Watchdog.flag
            rw [checked, known]
            exact (Bool.and_eq_true_iff.mp entered).2
          simp [entered, failed]
        · simp [entered]
  · unfold Watchdog.flag
    rw [checked, Party.flips]
    cases watchdog.info uuid with
    | none => rfl
    | some info =>
        change (checkDevice watchdog.fastCommFailTimer now info).inCommFail =
          if entersCommFail watchdog.fastCommFailTimer now info then !info.inCommFail else info.inCommFail
        cases failed : info.inCommFail with
        | true => simp [entersCommFail, checkDevice, setMillisUntilCommFail, failed]
        | false => simp [entersCommFail, failed]
  · intro keyed
    unfold Watchdog.keyed checkDevices
    rw [List.map_map]
    exact keyed

end Sections

/-- The delivered reports alternate, and the flag is the last report or the only outstanding one. -/
structure Consistent (start : Bool) (uuid : String) (current : Configuration Service Party) : Prop where
  keyed : current.shared.watchdog.keyed
  alternates : Alternates start (reports uuid current.shared.delivered)
  settled :
    outstanding uuid current.threads = [] ∧
        lastReport start (reports uuid current.shared.delivered) = current.shared.watchdog.flag uuid ∨
      outstanding uuid current.threads = [current.shared.watchdog.flag uuid] ∧
        lastReport start (reports uuid current.shared.delivered) = !current.shared.watchdog.flag uuid

/-- No section changes the flag of the device while a report to the device is outstanding. -/
def Calm (uuid : String) (current : Configuration Service Party) (input : Nat × UInt64) : Prop :=
  ∀ party ∈ current.threads[input.1]?,
    party.flips current.shared.watchdog input.2 uuid = true → outstanding uuid current.threads = []

instance (uuid : String) (current : Configuration Service Party) (input : Nat × UInt64) :
    Decidable (Calm uuid current input) :=
  inferInstanceAs (Decidable (∀ party ∈ current.threads[input.1]?,
    party.flips current.shared.watchdog input.2 uuid = true → outstanding uuid current.threads = []))

section Steps
variable {start : Bool} {uuid : String}

theorem outstanding_split (before after : List Party) (party : Party) :
    outstanding uuid (before ++ party :: after) =
      outstanding uuid before ++ (reports uuid party.undelivered ++ outstanding uuid after) := by
  unfold outstanding
  rw [List.flatMap_append, List.flatMap_cons, reports_append, reports_append]

/-- A critical section keeps the reports consistent. -/
theorem Consistent.decide {service : Service} {watchdog : Watchdog} {before after : List Party}
    {party : Party} {callbacks : List Callback} {flips : Bool} (none : party.undelivered = [])
    (consistent : Consistent start uuid ⟨service, before ++ party :: after⟩)
    (decides : Decides service.watchdog watchdog callbacks uuid flips)
    (calm : flips = true → outstanding uuid (before ++ party :: after) = []) :
    Consistent start uuid
      ⟨{ service with watchdog := watchdog }, before ++ .delivering callbacks :: after⟩ := by
  obtain ⟨keyed, alternates, settled⟩ := consistent
  refine ⟨decides.keyed keyed, alternates, ?_⟩
  have reported := decides.reported
  have changed := decides.changed
  dsimp only at settled ⊢
  rw [outstanding_split, none] at settled calm
  rw [outstanding_split, Party.undelivered, reported]
  cases flips with
  | false =>
      rw [if_neg Bool.false_ne_true] at changed
      rw [changed]
      exact settled
  | true =>
      rw [if_pos rfl] at changed
      have empty := calm rfl
      have idle := List.append_eq_nil_iff.mp empty
      have rest : outstanding uuid after = [] := (List.append_eq_nil_iff.mp idle.2).2
      right
      rw [empty] at settled
      rw [idle.1, rest, if_pos rfl]
      refine ⟨rfl, ?_⟩
      rcases settled with ⟨_, last⟩ | ⟨wrong, _⟩
      · rw [changed, Bool.not_not]
        exact last
      · contradiction

/-- The delivery of a callback keeps the reports consistent. -/
theorem Consistent.deliver {service : Service} {before after : List Party} {callback : Callback}
    {rest : List Callback}
    (consistent : Consistent start uuid ⟨service, before ++ .delivering (callback :: rest) :: after⟩) :
    Consistent start uuid ⟨{ service with delivered := service.delivered ++ [callback] },
      before ++ .delivering rest :: after⟩ := by
  obtain ⟨keyed, alternates, settled⟩ := consistent
  dsimp only at alternates settled
  rw [outstanding_split, Party.undelivered, ← List.singleton_append, reports_append] at settled
  by_cases same : callback.uuid = uuid
  · have single : reports uuid [callback] = [callback.reports] := by simp [reports, same]
    rw [single] at settled
    rcases settled with ⟨wrong, _⟩ | ⟨only, last⟩
    · simp at wrong
    · have lengths := congrArg List.length only
      simp only [List.length_append, List.length_singleton] at lengths
      have first : outstanding uuid before = [] := List.eq_nil_of_length_eq_zero (by omega)
      have middle : reports uuid rest = [] := List.eq_nil_of_length_eq_zero (by omega)
      have final : outstanding uuid after = [] := List.eq_nil_of_length_eq_zero (by omega)
      rw [first, middle, final] at only
      have flag : callback.reports = service.watchdog.flag uuid := by simpa using only
      refine ⟨keyed, ?_, .inl ⟨?_, ?_⟩⟩
      · dsimp only
        rw [reports_append, single]
        apply alternates.append
        rw [last, flag]
        simp
      · rw [outstanding_split, first, final, Party.undelivered, middle]
        rfl
      · dsimp only
        rw [reports_append, single, lastReport_append]
        exact flag
  · have none : reports uuid [callback] = [] := by simp [reports, same]
    rw [none, List.nil_append] at settled
    refine ⟨keyed, ?_, ?_⟩
    · dsimp only
      rw [reports_append, none, List.append_nil]
      exact alternates
    · dsimp only
      rw [reports_append, none, List.append_nil, outstanding_split]
      exact settled

theorem Consistent.step {current next : Configuration Service Party} {input : Nat × UInt64}
    (consistent : Consistent start uuid current) (calm : Calm uuid current input)
    (stepped : Threads.step move current input = some next) : Consistent start uuid next := by
  obtain ⟨before, party, after, service, moved, split, position, taken, rfl⟩ := step_split stepped
  obtain ⟨shared, threads⟩ := current
  dsimp only at split taken
  subst split
  have found : (before ++ party :: after)[input.1]? = some party := by
    rw [← position]
    simp
  have quiet := calm party found
  cases party with
  | pet device =>
      cases taken
      exact consistent.decide rfl (petDevice_decides device) quiet
  | force device =>
      cases taken
      exact consistent.decide rfl (forceDeviceInCommFail_decides device) quiet
  | check =>
      cases taken
      exact consistent.decide rfl (checkDevices_decides consistent.keyed) quiet
  | delivering callbacks =>
      cases callbacks with
      | nil => contradiction
      | cons callback rest =>
          cases taken
          exact consistent.deliver

end Steps

theorem perform_keyed {watchdog next : Watchdog} {now : UInt64} {action : Action}
    (keyed : watchdog.keyed) (performed : perform watchdog now action = some next) : next.keyed := by
  cases action with
  | monitor device seconds inCommFail =>
      change monitorDevice _ _ _ _ _ = some next at performed
      unfold monitorDevice at performed
      split at performed
      · cases performed
        exact keyed
      · split at performed
        · cases performed
          exact keyed
        · split at performed
          · contradiction
          · rename_i other _ absent
            cases performed
            have missing : watchdog.info other = none := by simpa using absent
            exact Cells.nodup_append_fresh keyed (Cells.read_eq_none.mp missing)
  | stopMonitoring device =>
      cases performed
      exact keyed.sublist (List.filter_sublist.map _)
  | pet device =>
      cases performed
      exact (@petDevice_decides watchdog now "" device).keyed keyed
  | force device =>
      cases performed
      exact (@forceDeviceInCommFail_decides watchdog now "" device).keyed keyed
  | setTimeRemainingFromLPM device seconds =>
      cases performed
      unfold setTimeRemainingForDeviceFromLPM
      split
      · exact keyed
      · split
        · exact keyed
        · split
          · exact keyed
          · exact Watchdog.keyed_updateInfo keyed _ fun _ => rfl
  | check =>
      cases performed
      exact (@checkDevices_decides watchdog now "" keyed).keyed keyed

theorem run_keyed {clock : UInt64} {fast : Bool} {inputs : List (UInt64 × Action)} {final : Clocked}
    (reached : run ⟨clock, .initial fast⟩ inputs = some final) : final.watchdog.keyed := by
  refine Runs.invariant _ (fun state => state.watchdog.keyed) ?_ List.nodup_nil reached
  intro state input next keyed stepped
  unfold step at stepped
  split at stepped
  · contradiction
  · obtain ⟨watchdog, performed, rfl⟩ := Option.map_eq_some_iff.mp stepped
    exact perform_keyed keyed performed

/-- If no section changes the flag of a device while a report to the device is outstanding, then the reports
to the device alternate, and the last one agrees with the flag when all threads are idle. -/
theorem serve_consistent {clock : UInt64} {fast : Bool} {inputs : List (UInt64 × Action)} {begun : Clocked}
    {uuid : String} {parties : List Party} {schedule : List (Nat × UInt64)}
    {final : Configuration Service Party}
    (reached : run ⟨clock, .initial fast⟩ inputs = some begun)
    (starting : ∀ party ∈ parties, party.undelivered = [])
    (calm : Runs.Guarded (Threads.step move) (Calm uuid) ⟨⟨begun.watchdog, []⟩, parties⟩ schedule)
    (served : serve ⟨⟨begun.watchdog, []⟩, parties⟩ schedule = some final) :
    Alternates (begun.watchdog.flag uuid) (reports uuid final.shared.delivered) ∧
      ((∀ party ∈ final.threads, party = .delivering []) →
        lastReport (begun.watchdog.flag uuid) (reports uuid final.shared.delivered) =
          final.shared.watchdog.flag uuid) := by
  have none : outstanding uuid parties = [] := by
    have empty : parties.flatMap Party.undelivered = [] := List.flatMap_eq_nil_iff.mpr starting
    rw [outstanding, empty]
    rfl
  have consistent : Consistent (begun.watchdog.flag uuid) uuid final :=
    Runs.Guarded.invariant _ (Consistent (begun.watchdog.flag uuid) uuid)
      (fun _ _ _ => Consistent.step) calm ⟨run_keyed reached, trivial, .inl ⟨none, rfl⟩⟩ served
  refine ⟨consistent.alternates, ?_⟩
  intro idle
  have quiet : outstanding uuid final.threads = [] := by
    have empty : final.threads.flatMap Party.undelivered = [] := by
      rw [List.flatMap_eq_nil_iff]
      intro party member
      rw [idle party member]
      rfl
    rw [outstanding, empty]
    rfl
  rcases consistent.settled with ⟨_, last⟩ | ⟨wrong, _⟩
  · exact last
  · rw [quiet] at wrong
    contradiction

section Sample

/-- The device is monitored and in comm fail. -/
def failedWatchdog : Watchdog := ⟨true, false, [⟨"a", 60, 60000, 0, true⟩]⟩

theorem failedWatchdog_reached :
    run ⟨0, .initial false⟩ [(0, .monitor (some "a") 60 true)] = some ⟨0, failedWatchdog⟩ := rfl

end Sample

/-- A pet and a check that follow each other deliver one report each. -/
theorem serve_consistent_sample :
    ∃ final, serve ⟨⟨failedWatchdog, []⟩, [.pet (some "a"), .check]⟩
        [(0, 0), (0, 0), (1, 60000), (1, 60000)] = some final ∧
      final.shared.delivered = [.restored "a", .failed "a"] ∧
      lastReport true (reports "a" final.shared.delivered) = final.shared.watchdog.flag "a" := by
  have computed : (serve ⟨⟨failedWatchdog, []⟩, [.pet (some "a"), .check]⟩
      [(0, 0), (0, 0), (1, 60000), (1, 60000)]).map
      (fun final => (final.threads, final.shared.delivered)) =
      some ([.delivering [], .delivering []], [.restored "a", .failed "a"]) := by decide
  obtain ⟨final, served, facts⟩ := Option.map_eq_some_iff.mp computed
  rw [Prod.mk.injEq] at facts
  have idle : ∀ party ∈ final.threads, party = .delivering [] := by
    rw [facts.1]
    decide
  have calm : Runs.Guarded (Threads.step move) (Calm "a")
      ⟨⟨failedWatchdog, []⟩, [.pet (some "a"), .check]⟩
      [(0, 0), (0, 0), (1, 60000), (1, 60000)] := by decide
  have consistent := serve_consistent failedWatchdog_reached (by decide) calm served
  exact ⟨final, served, facts.2, consistent.2 idle⟩

/-- The reports of a pet and of a forced failure overtake each other. -/
theorem not_serve_consistent :
    ∃ final, serve ⟨⟨failedWatchdog, []⟩, [.pet (some "a"), .force (some "a")]⟩
        [(0, 0), (1, 0), (1, 0), (0, 0)] = some final ∧
      (∀ party ∈ final.threads, party = .delivering []) ∧
      ¬(lastReport true (reports "a" final.shared.delivered) = final.shared.watchdog.flag "a") ∧
      ¬Alternates true (reports "a" final.shared.delivered) := by
  have computed : (serve ⟨⟨failedWatchdog, []⟩, [.pet (some "a"), .force (some "a")]⟩
      [(0, 0), (1, 0), (1, 0), (0, 0)]).map
      (fun final => (final.threads, final.shared.delivered, final.shared.watchdog.flag "a")) =
      some ([.delivering [], .delivering []], [.failed "a", .restored "a"], true) := by decide
  obtain ⟨final, served, facts⟩ := Option.map_eq_some_iff.mp computed
  rw [Prod.mk.injEq, Prod.mk.injEq] at facts
  obtain ⟨threads, delivered, flag⟩ := facts
  refine ⟨final, served, ?_, ?_, ?_⟩
  · rw [threads]
    decide
  · rw [delivered, flag]
    decide
  · rw [delivered]
    exact fun alternates => alternates.1 rfl

end Barton.CommFail
