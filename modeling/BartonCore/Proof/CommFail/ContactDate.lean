import BartonCore.Proof.CommFail.DeadlineLaw

namespace Barton.CommFail

/-- A pet at this time updates the date of the device. -/
def updatesDate (watchdog : Watchdog) (now : UInt64) (uuid : String) : Prop :=
  uuid ∈ (petDevice watchdog now (some uuid)).2.2

instance (watchdog : Watchdog) (now : UInt64) (uuid : String) : Decidable (updatesDate watchdog now uuid) :=
  inferInstanceAs (Decidable (uuid ∈ _))

def Action.pets (uuid : String) : Action → Bool
  | .pet device => device == some uuid
  | _ => false

def Action.petsOrChecks : Action → Bool
  | .pet _ => true
  | .check => true
  | _ => false

/-- A run has two pets of a device, and it reaches these states before them. -/
structure PetPair (uuid : String) (start : Clocked) (inputs : List (UInt64 × Action)) where
  before : List (UInt64 × Action)
  now : UInt64
  middle : List (UInt64 × Action)
  later : UInt64
  rest : List (UInt64 × Action)
  first : Clocked
  second : Clocked
  split : inputs = before ++ (now, .pet (some uuid)) :: (middle ++ (later, .pet (some uuid)) :: rest)
  reaches : run start before = some first
  continues : run first ((now, .pet (some uuid)) :: middle) = some second

/-- No pet of the device comes between the two. -/
def PetPair.consecutive {uuid : String} {start : Clocked} {inputs : List (UInt64 × Action)}
    (pair : PetPair uuid start inputs) : Prop := ∀ input ∈ pair.middle, input.2.pets uuid = false

/-- A pet at least 5000 ms after the previous one updates the date, and the updates are at least 5000 ms apart. -/
structure Refreshed (uuid : String) (start : Clocked) (inputs : List (UInt64 × Action)) : Prop where
  refreshed : ∀ pair : PetPair uuid start inputs, pair.consecutive → pair.now.toNat + 5000 ≤ pair.later.toNat →
    updatesDate pair.second.watchdog pair.later uuid
  throttled : ∀ pair : PetPair uuid start inputs, updatesDate pair.first.watchdog pair.now uuid →
    updatesDate pair.second.watchdog pair.later uuid → pair.now.toNat + 5000 ≤ pair.later.toNat

/-- No check comes less than 5000 ms before a pet that is at least 5000 ms after the previous one. -/
def Undisturbed (uuid : String) (start : Clocked) (inputs : List (UInt64 × Action)) : Prop :=
  ∀ pair : PetPair uuid start inputs, pair.consecutive → pair.now.toNat + 5000 ≤ pair.later.toNat →
    ∀ input ∈ pair.middle, input.2.checks = true → input.1.toNat + 5000 ≤ pair.later.toNat

section Synchronization
variable {uuid : String} {state next : Clocked} {info : MonitoredDeviceInfo}

/-- A pet compares the time with the last synchronization of the device. -/
theorem updatesDate_iff {watchdog : Watchdog} {now : UInt64} (found : watchdog.info uuid = some info)
    (ordered : info.commFailRemainingLastSyncMillis ≤ now) :
    updatesDate watchdog now uuid ↔ info.commFailRemainingLastSyncMillis.toNat + 5000 ≤ now.toNat := by
  have elapsed := UInt64.toNat_sub_of_le now info.commFailRemainingLastSyncMillis ordered
  have order := UInt64.le_iff_toNat_le.mp ordered
  have named : info.uuid = uuid := Cells.read_address found
  have updates : updatesDate watchdog now uuid ↔
      minUpdateIntervalMillis ≤ now - info.commFailRemainingLastSyncMillis := by
    unfold updatesDate petDevice
    rw [Option.bind_some, found]
    dsimp only [setMillisUntilCommFail]
    split
    · next long => simp [named, long]
    · next short => simp [short]
  rw [updates, UInt64.le_iff_toNat_le, elapsed]
  change 5000 ≤ _ ↔ _
  omega

/-- Every step leaves the synchronization of a device alone or sets it to the time of the step. -/
theorem perform_sync {watchdog changed : Watchdog} {now : UInt64} {action : Action}
    (performed : perform watchdog now action = some changed) (found : changed.info uuid = some info) :
    info.commFailRemainingLastSyncMillis = now ∨ ∃ old, watchdog.info uuid = some old ∧
      info.commFailRemainingLastSyncMillis = old.commFailRemainingLastSyncMillis := by
  rcases perform_cases performed found with ⟨_, _, synced, _⟩ | ⟨_, old, known, ⟨_, rfl⟩ | ⟨_, rfl | rfl⟩⟩
  · exact .inl synced
  · exact .inl rfl
  · exact .inr ⟨_, known, rfl⟩
  · exact .inr ⟨old, known, rfl⟩

/-- No device was synchronized after the clock. -/
def Synchronized (state : Clocked) : Prop :=
  ∀ uuid info, state.watchdog.info uuid = some info → info.commFailRemainingLastSyncMillis ≤ state.clock

theorem Synchronized.step {input : UInt64 × Action} (synchronized : Synchronized state)
    (stepped : step state input = some next) : Synchronized next := by
  obtain ⟨clock, later, performed⟩ := step_cases stepped
  intro uuid info found
  rw [clock]
  rcases perform_sync performed found with same | ⟨old, known, same⟩
  · exact UInt64.le_of_eq same
  · rw [same]
    exact UInt64.le_trans (synchronized uuid old known) later

theorem Synchronized.run {inputs : List (UInt64 × Action)} (synchronized : Synchronized state)
    (reached : run state inputs = some next) : Synchronized next :=
  Runs.invariant CommFail.step Synchronized (fun _ _ _ kept stepped => kept.step stepped) synchronized reached

theorem Synchronized.initial (clock : UInt64) (fast : Bool) : Synchronized ⟨clock, .initial fast⟩ := by
  intro uuid info found
  cases found

/-- Pets and checks keep a device monitored, and they synchronize it at their time or not at all. -/
theorem step_monitored {input : UInt64 × Action} (allowed : input.2.petsOrChecks = true)
    (stepped : step state input = some next) (found : state.watchdog.info uuid = some info) :
    ∃ after, next.watchdog.info uuid = some after ∧ after.commFailRemainingLastSyncMillis =
      if input.2.checks || input.2.pets uuid then input.1 else info.commFailRemainingLastSyncMillis := by
  obtain ⟨now, action⟩ := input
  obtain ⟨_, _, performed⟩ := step_cases stepped
  cases action with
  | pet device =>
      rw [← Option.some.inj performed, info_petDevice]
      by_cases same : device = some uuid
      · rw [if_pos same, found]
        exact ⟨_, rfl, by simp [Action.pets, Action.checks, same, petInfo, setMillisUntilCommFail]⟩
      · rw [if_neg same, found]
        exact ⟨_, rfl, by simp [Action.pets, Action.checks, same]⟩
  | check =>
      rw [← Option.some.inj performed, info_checkDevices, found]
      exact ⟨_, rfl, rfl⟩
  | _ => contradiction

/-- After pets and checks, a device was last synchronized by the last check or pet of it. -/
theorem run_sync {inputs : List (UInt64 × Action)} (allowed : ∀ input ∈ inputs, input.2.petsOrChecks = true)
    (synchronized : Synchronized state) (reached : run state inputs = some next)
    (found : state.watchdog.info uuid = some info) :
    ∃ after, next.watchdog.info uuid = some after ∧
      info.commFailRemainingLastSyncMillis ≤ after.commFailRemainingLastSyncMillis ∧
      (∀ input ∈ inputs, (input.2.checks || input.2.pets uuid) = true →
        input.1 ≤ after.commFailRemainingLastSyncMillis) ∧
      (after.commFailRemainingLastSyncMillis = info.commFailRemainingLastSyncMillis ∨
        ∃ input ∈ inputs, (input.2.checks || input.2.pets uuid) = true ∧
          after.commFailRemainingLastSyncMillis = input.1) := by
  induction inputs generalizing state info with
  | nil =>
      cases reached
      exact ⟨info, found, UInt64.le_refl _, fun _ member => absurd member List.not_mem_nil, .inl rfl⟩
  | cons input rest ih =>
      obtain ⟨middle, stepped, later⟩ := Option.bind_eq_some_iff.mp reached
      obtain ⟨clock, order, _⟩ := step_cases stepped
      obtain ⟨between, kept, sync⟩ := step_monitored (allowed input List.mem_cons_self) stepped found
      obtain ⟨after, final, grows, bounds, source⟩ :=
        ih (fun other member => allowed other (List.mem_cons_of_mem _ member)) (synchronized.step stepped) later kept
      have before := synchronized uuid info found
      by_cases touched : (input.2.checks || input.2.pets uuid) = true
      · rw [if_pos touched] at sync
        rw [sync] at grows source
        refine ⟨after, final, UInt64.le_trans (UInt64.le_trans before order) grows, ?_, .inr ?_⟩
        · intro other member counted
          rcases List.mem_cons.mp member with rfl | inside
          · exact grows
          · exact bounds other inside counted
        · rcases source with same | ⟨other, inside, counted, same⟩
          · exact ⟨input, List.mem_cons_self, touched, same⟩
          · exact ⟨other, List.mem_cons_of_mem _ inside, counted, same⟩
      · rw [if_neg touched] at sync
        rw [sync] at grows source
        refine ⟨after, final, grows, ?_, ?_⟩
        · intro other member counted
          rcases List.mem_cons.mp member with rfl | inside
          · exact absurd counted touched
          · exact bounds other inside counted
        · rcases source with same | ⟨other, inside, counted, same⟩
          · exact .inl same
          · exact .inr ⟨other, List.mem_cons_of_mem _ inside, counted, same⟩

end Synchronization

section Pairs
variable {uuid : String} {start final : Clocked} {inputs : List (UInt64 × Action)} {info : MonitoredDeviceInfo}

/-- Between two pets, the device is synchronized by the first one and by the checks. -/
theorem PetPair.sync (pair : PetPair uuid start inputs)
    (allowed : ∀ input ∈ inputs, input.2.petsOrChecks = true) (synchronized : Synchronized start)
    (monitored : start.watchdog.info uuid = some info) (reached : run start inputs = some final) :
    ∃ before after, pair.first.watchdog.info uuid = some before ∧
      before.commFailRemainingLastSyncMillis ≤ pair.now ∧
      pair.second.watchdog.info uuid = some after ∧ after.commFailRemainingLastSyncMillis ≤ pair.later ∧
      pair.now ≤ after.commFailRemainingLastSyncMillis ∧
      (∀ input ∈ pair.middle, input.2.checks = true → input.1 ≤ after.commFailRemainingLastSyncMillis) ∧
      (pair.consecutive → after.commFailRemainingLastSyncMillis = pair.now ∨
        ∃ input ∈ pair.middle, input.2.checks = true ∧ after.commFailRemainingLastSyncMillis = input.1) := by
  obtain ⟨before, now, middle, later, rest, first, second, split, reaches, continues⟩ := pair
  rw [split] at allowed reached
  have parts (input : UInt64 × Action) (member : input ∈ middle) : input.2.petsOrChecks = true :=
    allowed input (by simp [member])
  obtain ⟨old, known, _⟩ := run_sync (fun input member => allowed input (by simp [member])) synchronized reaches
    monitored
  have clocked := synchronized.run reaches
  obtain ⟨petted, stepped, onwards⟩ := Option.bind_eq_some_iff.mp continues
  obtain ⟨clock, order, _⟩ := step_cases stepped
  obtain ⟨between, kept, sync⟩ := step_monitored rfl stepped known
  rw [if_pos (by simp [Action.pets])] at sync
  obtain ⟨after, found, grows, bounds, source⟩ := run_sync parts (clocked.step stepped) onwards kept
  rw [sync] at grows source
  -- The second pet is a step of the run, so it does not come before the clock.
  have last : second.clock ≤ later := by
    unfold CommFail.run at reached reaches continues
    rw [Runs.run_append, reaches, Option.bind_some, ← List.cons_append, Runs.run_append, continues,
      Option.bind_some] at reached
    obtain ⟨_, stepped, _⟩ := Option.bind_eq_some_iff.mp reached
    exact (step_cases stepped).2.1
  refine ⟨old, after, known, UInt64.le_trans (clocked uuid old known) order, found,
    UInt64.le_trans ((clocked.step stepped).run onwards uuid after found) last, grows, ?_, ?_⟩
  · exact fun input member checked => bounds input member (by rw [checked]; rfl)
  · intro quiet
    rcases source with same | ⟨input, member, counted, same⟩
    · exact .inl same
    · rw [quiet input member, Bool.or_false] at counted
      exact .inr ⟨input, member, counted, same⟩

/-- On a monitored device, the pets refresh the date exactly when no check disturbs them. -/
theorem run_contactDate_iff {clock : UInt64} {fast : Bool} {earlier : List (UInt64 × Action)}
    (started : run ⟨clock, .initial fast⟩ earlier = some start)
    (monitored : start.watchdog.info uuid = some info)
    (allowed : ∀ input ∈ inputs, input.2.petsOrChecks = true) (reached : run start inputs = some final) :
    Refreshed uuid start inputs ↔ Undisturbed uuid start inputs := by
  have synchronized := (Synchronized.initial clock fast).run started
  constructor
  · intro refreshed pair quiet apart input member checked
    obtain ⟨_, after, _, _, found, ordered, _, bounds, _⟩ := pair.sync allowed synchronized monitored reached
    have updates := (updatesDate_iff found ordered).mp (refreshed.refreshed pair quiet apart)
    have bound := UInt64.le_iff_toNat_le.mp (bounds input member checked)
    omega
  · intro undisturbed
    constructor
    · intro pair quiet apart
      obtain ⟨_, after, _, _, found, ordered, _, _, source⟩ := pair.sync allowed synchronized monitored reached
      rw [updatesDate_iff found ordered]
      rcases source quiet with same | ⟨input, member, checked, same⟩
      · rw [same]
        exact apart
      · rw [same]
        exact undisturbed pair quiet apart input member checked
    · intro pair _ updates
      obtain ⟨_, after, _, _, found, ordered, grows, _⟩ := pair.sync allowed synchronized monitored reached
      have apart := (updatesDate_iff found ordered).mp updates
      have bound := UInt64.le_iff_toNat_le.mp grows
      omega

end Pairs

/-- The watchdog monitors one device. -/
def monitoring : Clocked := ⟨0, ⟨true, false, [⟨"a", 60, 60000, 0, false⟩]⟩⟩

theorem run_monitoring : run ⟨0, .initial false⟩ [(0, .monitor (some "a") 60 false)] = some monitoring := rfl

/-- A check comes long before the second of two pets. -/
def sampleContacts : List (UInt64 × Action) := [(1000, .pet (some "a")), (2000, .check), (9000, .pet (some "a"))]

theorem run_contactDate_iff_sample : Refreshed "a" monitoring sampleContacts := by
  refine (run_contactDate_iff run_monitoring rfl (by decide) rfl).mpr ?_
  intro pair _ apart input member checked
  have pet : (pair.later, Action.pet (some "a")) ∈ sampleContacts :=
    (congrArg ((pair.later, Action.pet (some "a")) ∈ ·) pair.split).mpr (by simp)
  have inside : input ∈ sampleContacts := (congrArg (input ∈ ·) pair.split).mpr (by simp [member])
  simp only [sampleContacts, List.mem_cons, List.not_mem_nil, or_false, Prod.mk.injEq] at pet inside
  rcases inside with rfl | rfl | rfl
  · contradiction
  · rcases pet with ⟨time, _⟩ | ⟨_, impossible⟩ | ⟨time, _⟩
    · rw [time] at apart
      change _ ≤ 1000 at apart
      omega
    · contradiction
    · rw [time]
      decide
  · contradiction

/-- A check comes one second before the second of two pets. -/
def disturbedContacts : List (UInt64 × Action) := [(1000, .pet (some "a")), (6000, .check), (7000, .pet (some "a"))]

theorem not_refreshed : ¬Refreshed "a" monitoring disturbedContacts := by
  intro refreshed
  have updates := refreshed.refreshed ⟨[], 1000, [(6000, .check)], 7000, [], monitoring,
    ⟨6000, ⟨true, false, [⟨"a", 60, 55000, 6000, false⟩]⟩⟩, rfl, rfl, rfl⟩
    (by intro input member; rw [List.mem_singleton.mp member]; rfl) (by decide)
  revert updates
  decide

end Barton.CommFail
