import BartonCore.Construction.Observability.Instruments

namespace Barton.Metrics
open Threads Locking

section Counts
variable {data : Data} {inst : Nat}

/-- The references of a live instrument. -/
def Data.count (data : Data) (inst : Nat) : Option Nat := (data.instrument inst).map Instrument.references

theorem count_write (update : Instrument → Instrument) (change : Nat → Nat)
    (address : ∀ instrument, (update instrument).address = instrument.address)
    (references : ∀ instrument, (update instrument).references = change instrument.references) (other : Nat) :
    (data.write inst update).count other =
      (data.count other).map fun count => if other = inst then change count else count := by
  unfold Data.count Data.write Data.instrument
  dsimp only
  rw [Cells.read_write_ite other update address, Option.map_map, Option.map_map]
  congr 1
  funext instrument
  dsimp only [Function.comp]
  split
  · exact references instrument
  · rfl

/-- A write to the data points keeps the counts. -/
theorem count_write_dataPoints (change : DataPoints → DataPoints) :
    (data.write inst fun instrument => { instrument with dataPoints := change instrument.dataPoints }).count =
      data.count := by
  funext other
  refine (count_write (fun instrument => { instrument with dataPoints := change instrument.dataPoints }) id
    (fun _ => rfl) (fun _ => rfl) other).trans ?_
  simp

/-- A write to the references changes the count of one live instrument. -/
theorem count_write_references (change : Nat → Nat) {count : Nat} (live : data.count inst = some count) :
    (data.write inst fun instrument => { instrument with references := change instrument.references }).count =
      Function.update data.count inst (some (change count)) := by
  funext other
  refine (count_write (fun instrument => { instrument with references := change instrument.references }) change
    (fun _ => rfl) (fun _ => rfl) other).trans ?_
  by_cases same : other = inst
  · rw [same, live, Function.update_self]
    simp
  · rw [Function.update_of_ne same]
    simp [same]

theorem count_append (instrument : Instrument) (fresh : data.count instrument.address = none) :
    ({ data with instruments := data.instruments ++ [instrument] } : Data).count =
      Function.update data.count instrument.address (some instrument.references) := by
  funext other
  have absent : Cells.read Instrument.address instrument.address data.instruments = none := by
    simpa [Data.count, Data.instrument] using fresh
  unfold Data.count Data.instrument
  dsimp only
  rw [Cells.read_append_singleton]
  by_cases same : other = instrument.address
  · rw [same, absent, Function.update_self]
    simp
  · rw [Function.update_of_ne same, if_neg (Ne.symm same), Option.or_none]

theorem count_delete : ({ data with instruments := Cells.delete Instrument.address inst data.instruments } : Data).count =
    Function.update data.count inst none := by
  funext other
  unfold Data.count Data.instrument
  dsimp only
  by_cases same : other = inst
  · rw [same, Cells.read_delete, Function.update_self]
    rfl
  · rw [Cells.read_delete_of_ne same, Function.update_of_ne same]

theorem exists_instrument {count : Nat} (live : data.count inst = some count) :
    ∃ instrument, data.instrument inst = some instrument ∧ instrument.references = count :=
  Option.map_eq_some_iff.mp live

end Counts

section Points

/-- The mutexes that a thread holds at a point. -/
def Point.locks (point : Point) : List Mutex :=
  match point.stage with
  | .adding _ => [.registryLock]
  | .searching inst _ => [.lock inst]
  | .updating inst _ _ => [.lock inst]
  | .removing _ => [.registryLock]
  | .listing _ _ => [.registryLock]
  | .copying inst _ _ => [.lock inst, .registryLock]
  | .clearing => [.registryLock]
  | _ => []

/-- One thread registers an instrument or destroys it. -/
def Point.sole (point : Point) : Option Nat :=
  match point.stage with
  | .registryAdd inst => some inst
  | .adding inst => some inst
  | .registryRemove inst => some inst
  | .removing inst => some inst
  | .destroying inst => some inst
  | _ => none

/-- The instruments that a point uses are live. -/
def Point.Valid (data : Data) (point : Point) : Prop :=
  match point.stage with
  | .registryAdd inst => inst ∈ point.owned ∧ inst ∉ data.registry
  | .adding inst => inst ∈ point.owned ∧ inst ∉ data.registry
  | .recording inst _ => usable data point inst = true
  | .searching inst _ => usable data point inst = true
  | .updating inst _ _ => usable data point inst = true
  | .registryRemove inst => data.count inst = some 0
  | .removing inst => data.count inst = some 0
  | .destroying inst => data.count inst = some 0 ∧ inst ∉ data.registry
  | .listing rest _ => ∀ inst ∈ rest, inst ∈ data.registry
  | .copying inst rest _ => inst ∈ data.registry ∧ ∀ inst ∈ rest, inst ∈ data.registry
  | .fault => False
  | _ => True

/-- A usable handle and a registered instrument are live, and the registry lists an instrument once. -/
structure Data.Covers (data : Data) (point : Point) : Prop where
  usable : ∀ inst, usable data point inst = true → ∃ count, data.count inst = some (count + 1)
  listed : ∀ inst ∈ data.registry, ∃ count, data.count inst = some count
  distinct : data.registry.Nodup

end Points

section Changes

/-- What a step can do to the references and to the registry. -/
inductive Change (data : Data) (point : Point) : Data → Point → Prop where
  | quiet {after : Data} {moved : Point} (count : after.count = data.count) (registry : after.registry = data.registry)
      (passed : after.passed = data.passed) (statics : after.statics = data.statics)
      (owned : moved.owned = point.owned) (sole : moved.sole = point.sole) : Change data point after moved
  | created {after : Data} (inst : Nat) (fresh : data.count inst = none)
      (count : after.count = Function.update data.count inst (some 1)) (registry : after.registry = data.registry)
      (passed : after.passed = data.passed) (statics : after.statics = data.statics) (idle : point.sole = none) :
      Change data point after ⟨inst :: point.owned, .registryAdd inst⟩
  | acquired {after : Data} (inst count : Nat) (live : data.count inst = some (count + 1))
      (counted : after.count = Function.update data.count inst (some (count + 2)))
      (registry : after.registry = data.registry) (passed : after.passed = data.passed)
      (statics : after.statics = data.statics) (idle : point.sole = none) :
      Change data point after ⟨inst :: point.owned, .idle⟩
  | released {after : Data} (inst count : Nat) (live : data.count inst = some (count + 1))
      (mine : inst ∈ point.owned) (counted : after.count = Function.update data.count inst (some count))
      (registry : after.registry = data.registry) (passed : after.passed = data.passed)
      (statics : after.statics = data.statics) (idle : point.sole = none) :
      Change data point after ⟨point.owned.erase inst, if count = 0 then .registryRemove inst else .idle⟩
  | given (inst : Nat) (mine : inst ∈ point.owned) (idle : point.sole = none) :
      Change data point { data with passed := inst :: data.passed } ⟨point.owned.erase inst, .idle⟩
  | taken (inst : Nat) (there : inst ∈ data.passed) (idle : point.sole = none) :
      Change data point { data with passed := data.passed.erase inst } ⟨inst :: point.owned, .idle⟩
  | kept (inst : Nat) (mine : inst ∈ point.owned) (idle : point.sole = none) :
      Change data point { data with statics := inst :: data.statics } ⟨point.owned.erase inst, .idle⟩
  | added (inst : Nat) (stage : point.stage = .adding inst) :
      Change data point { data with registry := inst :: data.registry } { point with stage := .idle }
  | removed (inst : Nat) (stage : point.stage = .removing inst) :
      Change data point { data with registry := data.registry.erase inst } { point with stage := .destroying inst }
  | destroyed {after : Data} (inst : Nat) (stage : point.stage = .destroying inst)
      (count : after.count = Function.update data.count inst none) (registry : after.registry = data.registry)
      (passed : after.passed = data.passed) (statics : after.statics = data.statics) :
      Change data point after { point with stage := .idle }
  | cleared (stage : point.stage = .clearing) :
      Change data point { data with registry := [] } { point with stage := .idle }

/-- A step that is allowed changes the shared data in a known way and leads to a valid point. -/
structure Proper (data : Data) (point : Point) (operation : Operation Mutex) (after : Data) (moved : Point) : Prop where
  change : Change data point after moved
  valid : moved.Valid after
  follows : Follows Point.locks point moved operation

section
variable {data after : Data} {point moved : Point} {operation : Operation Mutex} {inst : Option Nat} {choice : Choice}

/-- A step that keeps the references and the registry. -/
theorem Change.still (owned : moved.owned = point.owned) (sole : moved.sole = point.sole) :
    Change data point data moved :=
  .quiet rfl rfl rfl rfl owned sole

/-- An instrument that is live is used. -/
theorem withInstrument_live {inst : Nat} {count : Nat} (live : data.count inst = some count)
    {use : Instrument → Option (Operation Mutex × Data × Point)} {result : Operation Mutex × Data × Point}
    (taken : withInstrument data point inst use = some result) :
    ∃ instrument, instrument.references = count ∧ use instrument = some result := by
  obtain ⟨instrument, found, references⟩ := exists_instrument live
  rw [withInstrument, found] at taken
  exact ⟨instrument, references, taken⟩

theorem create_proper {type : InstrumentType} {name description unit : Option String} {inst : Nat}
    (idle : point.stage = .idle) (covers : data.Covers point)
    (taken : create data point type name description unit inst = some (operation, after, moved)) :
    Proper data point operation after moved := by
  have sole : point.sole = none := by rw [Point.sole, idle]
  unfold create at taken
  split at taken
  · cases taken
    refine ⟨.still rfl rfl, ?_, follows_pass rfl⟩
    rw [Point.Valid, idle]
    trivial
  · split at taken
    · cases taken
    · rename_i free
      have fresh : data.count inst = none := by
        rw [Data.count]
        simpa using free
      cases taken
      refine ⟨.created inst fresh (count_append _ fresh) rfl rfl rfl sole, ?_, follows_pass ?_⟩
      · refine ⟨List.mem_cons_self, ?_⟩
        intro listed
        obtain ⟨count, live⟩ := covers.listed inst listed
        rw [fresh] at live
        cases live
      · rw [Point.locks, Point.locks, idle]

theorem startRecord_proper {record : Record} (idle : point.stage = .idle)
    (taken : startRecord data point inst record = some (operation, after, moved)) :
    Proper data point operation after moved := by
  have sole : point.sole = none := by rw [Point.sole, idle]
  have locks : point.locks = [] := by rw [Point.locks, idle]
  cases inst with
  | none =>
      cases taken
      refine ⟨.still rfl rfl, ?_, follows_pass rfl⟩
      rw [Point.Valid, idle]
      trivial
  | some inst =>
      rw [startRecord] at taken
      split at taken
      · rename_i allowed
        cases taken
        rw [Bool.and_eq_true] at allowed
        refine ⟨.still rfl sole.symm, allowed.1, follows_pass ?_⟩
        rw [locks, Point.locks]
      · cases taken

theorem acquire_proper (idle : point.stage = .idle) (covers : data.Covers point)
    (taken : acquire data point inst = some (operation, after, moved)) : Proper data point operation after moved := by
  have sole : point.sole = none := by rw [Point.sole, idle]
  have locks : point.locks = [] := by rw [Point.locks, idle]
  obtain ⟨owned, stage⟩ := point
  cases idle
  cases inst with
  | none =>
      cases taken
      exact ⟨.still rfl rfl, trivial, follows_pass rfl⟩
  | some inst =>
      rw [acquire] at taken
      split at taken
      · rename_i allowed
        obtain ⟨count, live⟩ := covers.usable inst allowed
        obtain ⟨instrument, references, used⟩ := withInstrument_live live taken
        cases used
        exact ⟨.acquired inst count live (count_write_references (· + 1) live) rfl rfl rfl rfl, trivial,
          follows_pass rfl⟩
      · cases taken

theorem release_proper (idle : point.stage = .idle) (covers : data.Covers point)
    (taken : release data point inst = some (operation, after, moved)) : Proper data point operation after moved := by
  obtain ⟨owned, stage⟩ := point
  cases idle
  cases inst with
  | none =>
      cases taken
      exact ⟨.still rfl rfl, trivial, follows_pass rfl⟩
  | some inst =>
      rw [release] at taken
      split at taken
      · rename_i mine
        obtain ⟨count, live⟩ := covers.usable inst (by simp [usable, List.contains_iff_mem.mp mine])
        obtain ⟨instrument, references, used⟩ := withInstrument_live live taken
        rw [references] at used
        have zero : (count + 1 = 1) = (count = 0) := by simp
        simp only [zero] at used
        cases used
        have counted : (data.write inst fun instrument =>
            { instrument with references := instrument.references - 1 }).count =
              Function.update data.count inst (some count) := count_write_references (· - 1) live
        refine ⟨.released inst count live (List.contains_iff_mem.mp mine) counted rfl rfl rfl rfl, ?_, ?_⟩
        · by_cases last : count = 0
          · rw [if_pos last]
            change Data.count _ inst = some 0
            rw [counted, Function.update_self, last]
          · rw [if_neg last]
            trivial
        · refine follows_pass ?_
          by_cases last : count = 0
          · rw [if_pos last]
            rfl
          · rw [if_neg last]
            rfl
      · cases taken

theorem move_proper (idle : point.stage = .idle)
    (taken : move data point choice = some (operation, after, moved)) : Proper data point operation after moved := by
  obtain ⟨owned, stage⟩ := point
  cases idle
  cases choice with
  | give inst =>
      rw [move] at taken
      split at taken
      · rename_i mine
        cases taken
        exact ⟨.given inst (List.contains_iff_mem.mp mine) rfl, trivial, follows_pass rfl⟩
      · cases taken
  | take inst =>
      rw [move] at taken
      split at taken
      · rename_i there
        cases taken
        exact ⟨.taken inst (List.contains_iff_mem.mp there) rfl, trivial, follows_pass rfl⟩
      · cases taken
  | keep inst =>
      rw [move] at taken
      split at taken
      · rename_i mine
        cases taken
        exact ⟨.kept inst (List.contains_iff_mem.mp mine) rfl, trivial, follows_pass rfl⟩
      · cases taken
  | _ => cases taken

theorem start_proper (idle : point.stage = .idle) (covers : data.Covers point)
    (taken : start data point choice = some (operation, after, moved)) : Proper data point operation after moved := by
  have sole : point.sole = none := by rw [Point.sole, idle]
  cases choice with
  | create type name description unit inst => exact create_proper idle covers taken
  | record inst arguments measurement => exact startRecord_proper idle taken
  | acquire inst => exact acquire_proper idle covers taken
  | release inst => exact release_proper idle covers taken
  | dump | shutdown =>
      cases taken
      refine ⟨.still rfl sole.symm, trivial, follows_pass ?_⟩
      simp only [Point.locks, idle]
  | give inst => exact move_proper idle (show move data point (.give inst) = _ from taken)
  | take inst => exact move_proper idle (show move data point (.take inst) = _ from taken)
  | keep inst => exact move_proper idle (show move data point (.keep inst) = _ from taken)
  | proceed => cases taken

/-- A call uses live instruments only. -/
theorem proceed_proper (valid : point.Valid data) (covers : data.Covers point)
    (taken : proceed data point point.stage = some (operation, after, moved)) :
    Proper data point operation after moved := by
  obtain ⟨owned, stage⟩ := point
  cases stage with
  | idle | fault => cases taken
  | registryAdd | registryRemove =>
      cases taken
      exact ⟨.still rfl rfl, valid, follows_lock rfl⟩
  | adding inst =>
      cases taken
      exact ⟨.added inst rfl, trivial, follows_unlock rfl (by simp [Point.locks])⟩
  | recording inst record =>
      obtain ⟨count, live⟩ := covers.usable inst valid
      obtain ⟨instrument, references, used⟩ := withInstrument_live live taken
      cases used
      exact ⟨.still rfl rfl, valid, follows_lock rfl⟩
  | searching inst record =>
      obtain ⟨count, live⟩ := covers.usable inst valid
      obtain ⟨instrument, references, used⟩ := withInstrument_live live taken
      cases used
      exact ⟨.quiet (count_write_dataPoints fun _ => _) rfl rfl rfl rfl rfl, valid, follows_pass rfl⟩
  | updating inst record index =>
      obtain ⟨count, live⟩ := covers.usable inst valid
      obtain ⟨instrument, references, used⟩ := withInstrument_live live taken
      cases used
      exact ⟨.quiet (count_write_dataPoints _) rfl rfl rfl rfl rfl, trivial,
        follows_unlock rfl (by simp [Point.locks])⟩
  | removing inst =>
      cases taken
      refine ⟨.removed inst rfl, ⟨valid, ?_⟩, follows_unlock rfl (by simp [Point.locks])⟩
      exact covers.distinct.not_mem_erase
  | destroying inst =>
      obtain ⟨instrument, references, used⟩ := withInstrument_live valid.1 taken
      cases used
      exact ⟨.destroyed inst rfl count_delete rfl rfl rfl, trivial, follows_pass rfl⟩
  | dumping =>
      cases taken
      exact ⟨.still rfl rfl, fun inst listed => listed, follows_lock rfl⟩
  | listing rest metrics =>
      cases rest with
      | nil =>
          cases taken
          exact ⟨.still rfl rfl, trivial, follows_unlock rfl (by simp [Point.locks])⟩
      | cons inst rest =>
          obtain ⟨count, live⟩ := covers.listed inst (valid inst List.mem_cons_self)
          obtain ⟨instrument, references, used⟩ := withInstrument_live live taken
          cases used
          exact ⟨.still rfl rfl, ⟨valid inst List.mem_cons_self,
            fun other member => valid other (List.mem_cons_of_mem _ member)⟩, follows_lock rfl⟩
  | copying inst rest metrics =>
      obtain ⟨count, live⟩ := covers.listed inst valid.1
      obtain ⟨instrument, references, used⟩ := withInstrument_live live taken
      cases used
      exact ⟨.still rfl rfl, valid.2, follows_unlock rfl (by simp [Point.locks])⟩
  | dumped metrics =>
      cases taken
      exact ⟨.still rfl rfl, trivial, follows_pass rfl⟩
  | shuttingDown =>
      cases taken
      exact ⟨.still rfl rfl, trivial, follows_lock rfl⟩
  | clearing =>
      cases taken
      exact ⟨.cleared rfl, trivial, follows_unlock rfl (by simp [Point.locks])⟩

theorem next_proper (valid : point.Valid data) (covers : data.Covers point)
    (taken : next data point choice = some (operation, after, moved)) : Proper data point operation after moved := by
  unfold next at taken
  split at taken
  · rename_i idle
    exact start_proper idle covers taken
  · exact proceed_proper valid covers taken
  · cases taken

/-- The references that are made or given up are those of the counts. -/
theorem Change.balanced (change : Change data point after moved) (valid : point.Valid data) (inst : Nat) :
    (after.count inst).getD 0 + point.owned.count inst + data.passed.count inst + data.statics.count inst =
      (data.count inst).getD 0 + moved.owned.count inst + after.passed.count inst + after.statics.count inst := by
  have erased {list : List Nat} {other : Nat} (mine : other ∈ list) :
      (list.erase other).count inst + (if other = inst then 1 else 0) = list.count inst := by
    have positive : 0 < list.count other := List.count_pos_iff.mpr mine
    by_cases same : other = inst
    · subst same
      rw [List.count_erase_self, if_pos rfl]
      omega
    · rw [List.count_erase_of_ne (Ne.symm same), if_neg same, Nat.add_zero]
  cases change with
  | quiet count registry passed statics owned sole => rw [count, passed, statics, owned]
  | created other fresh count registry passed statics idle =>
      rw [count, passed, statics, List.count_cons]
      by_cases same : inst = other
      · subst same
        rw [Function.update_self, fresh]
        simp
        omega
      · rw [Function.update_of_ne same]
        simp [Ne.symm same]
  | acquired other count live counted registry passed statics idle =>
      rw [counted, passed, statics, List.count_cons]
      by_cases same : inst = other
      · subst same
        rw [Function.update_self, live]
        simp
        omega
      · rw [Function.update_of_ne same]
        simp [Ne.symm same]
  | released other count live mine counted registry passed statics idle =>
      rw [counted, passed, statics, ← erased mine]
      by_cases same : inst = other
      · subst same
        rw [Function.update_self, live, if_pos rfl]
        simp
        omega
      · rw [Function.update_of_ne same, if_neg (Ne.symm same)]
        simp
  | given other mine | kept other mine =>
      change (data.count inst).getD 0 + _ + _ + _ = _
      rw [← erased mine, List.count_cons]
      simp only [beq_iff_eq]
      omega
  | taken other there idle =>
      change (data.count inst).getD 0 + _ + _ + _ = _
      rw [← erased there, List.count_cons]
      simp only [beq_iff_eq]
      omega
  | added | removed | cleared => rfl
  | destroyed other stage count registry passed statics =>
      rw [Point.Valid, stage] at valid
      rw [count, passed, statics]
      by_cases same : inst = other
      · subst same
        rw [Function.update_self, valid.1]
        rfl
      · rw [Function.update_of_ne same]

/-- Other threads see less of a step than the thread that takes it. -/
structure Spares (data : Data) (point : Point) (after : Data) : Prop where
  statics : ∀ inst ∈ data.statics, inst ∈ after.statics
  count : ∀ inst, data.count inst = some 0 → point.sole ≠ some inst → after.count inst = some 0
  registry : ∀ inst, inst ∉ data.registry → point.sole ≠ some inst → inst ∉ after.registry
  locked : .registryLock ∉ point.locks → after.registry = data.registry

/-- An instrument without references keeps its count when that of a live or new one changes. -/
theorem count_spared {inst other : Nat} {count : Option Nat} (apart : data.count other ≠ some 0)
    (counted : after.count = Function.update data.count other count) (zero : data.count inst = some 0) :
    after.count inst = some 0 := by
  have differs : inst ≠ other := by
    rintro rfl
    exact apart zero
  rw [counted, Function.update_of_ne differs, zero]

theorem Change.spares (change : Change data point after moved) : Spares data point after := by
  cases change with
  | quiet count registry passed statics owned sole =>
      exact ⟨fun inst member => statics ▸ member, fun inst zero _ => count ▸ zero,
        fun inst absent _ => registry ▸ absent, fun _ => registry⟩
  | created other fresh count registry passed statics idle =>
      have apart : data.count other ≠ some 0 := by simp [fresh]
      exact ⟨fun inst member => statics ▸ member, fun inst zero _ => count_spared apart count zero,
        fun inst absent _ => registry ▸ absent, fun _ => registry⟩
  | acquired other count live counted registry passed statics
  | released other count live mine counted registry passed statics =>
      have apart : data.count other ≠ some 0 := by simp [live]
      exact ⟨fun inst member => statics ▸ member, fun inst zero _ => count_spared apart counted zero,
        fun inst absent _ => registry ▸ absent, fun _ => registry⟩
  | given | taken => exact ⟨fun _ => id, fun _ zero _ => zero, fun _ absent _ => absent, fun _ => rfl⟩
  | kept other mine idle =>
      exact ⟨fun _ => List.mem_cons_of_mem _, fun _ zero _ => zero, fun _ absent _ => absent, fun _ => rfl⟩
  | added other stage =>
      have sole : point.sole = some other := by rw [Point.sole, stage]
      refine ⟨fun _ => id, fun _ zero _ => zero, ?_, fun free => absurd ?_ free⟩
      · intro inst absent apart listed
        rcases List.mem_cons.mp listed with rfl | old
        · exact apart sole
        · exact absent old
      · rw [Point.locks, stage]
        exact List.mem_cons_self
  | removed other stage =>
      refine ⟨fun _ => id, fun _ zero _ => zero, ?_, fun free => absurd ?_ free⟩
      · exact fun inst absent _ listed => absent (List.mem_of_mem_erase listed)
      · rw [Point.locks, stage]
        exact List.mem_cons_self
  | destroyed other stage count registry passed statics =>
      refine ⟨fun inst member => statics ▸ member, ?_, fun inst absent _ => registry ▸ absent, fun _ => registry⟩
      intro inst zero apart
      have differs : inst ≠ other := by
        rintro rfl
        exact apart (by rw [Point.sole, stage])
      rw [count, Function.update_of_ne differs, zero]
  | cleared stage =>
      refine ⟨fun _ => id, fun _ zero _ => zero, fun _ _ _ => List.not_mem_nil, fun free => absurd ?_ free⟩
      rw [Point.locks, stage]
      exact List.mem_cons_self

/-- The step of one thread keeps the points of the others valid. -/
theorem Spares.keeps (spares : Spares data point after) {other : Point} (valid : other.Valid data)
    (apart : ∀ inst, other.sole = some inst → point.sole ≠ some inst)
    (locked : .registryLock ∈ other.locks → .registryLock ∉ point.locks) : other.Valid after := by
  have usable (inst : Nat) (allowed : usable data other inst = true) : Metrics.usable after other inst = true := by
    unfold Metrics.usable at allowed ⊢
    simp only [Bool.or_eq_true, List.contains_iff_mem] at allowed ⊢
    exact allowed.imp_right (spares.statics inst)
  obtain ⟨owned, stage⟩ := other
  cases stage with
  | registryAdd inst | adding inst => exact ⟨valid.1, spares.registry inst valid.2 (apart inst rfl)⟩
  | recording inst | searching inst | updating inst => exact usable inst valid
  | registryRemove inst | removing inst => exact spares.count inst valid (apart inst rfl)
  | destroying inst =>
      exact ⟨spares.count inst valid.1 (apart inst rfl), spares.registry inst valid.2 (apart inst rfl)⟩
  | listing rest metrics =>
      have same := spares.locked (locked List.mem_cons_self)
      exact fun inst member => same ▸ valid inst member
  | copying inst rest metrics =>
      have same := spares.locked (locked (List.mem_cons_of_mem _ List.mem_cons_self))
      exact ⟨same ▸ valid.1, fun other member => same ▸ valid.2 other member⟩
  | fault => exact valid
  | _ => trivial

end

end Changes

section Runs
variable {current next : Configuration} {inst : Nat} {thread : Thread Point} {point moved : Point} {data after : Data}

/-- The references that exist. -/
def tokens (current : Configuration) (inst : Nat) : ℤ :=
  (current.threads.map fun thread => (thread.point.owned.count inst : ℤ)).sum +
    current.shared.data.passed.count inst + current.shared.data.statics.count inst

/-- What every reachable state satisfies. -/
structure Sound (current : Configuration) : Prop where
  owned : Owned Point.locks current
  counted : ∀ inst, (((current.shared.data.count inst).getD 0 : Nat) : ℤ) = tokens current inst
  listed : ∀ inst ∈ current.shared.data.registry, ∃ count, current.shared.data.count inst = some count
  distinct : current.shared.data.registry.Nodup
  sole : (current.threads.filterMap fun thread => thread.point.sole).Nodup
  valid : ∀ thread ∈ current.threads, thread.point.Valid current.shared.data
  dying : ∀ inst, current.shared.data.count inst = some 0 → ∃ thread ∈ current.threads, thread.point.sole = some inst

theorem sum_shares_nonneg (threads : List (Thread Point)) (inst : Nat) :
    0 ≤ (threads.map fun thread => (thread.point.owned.count inst : ℤ)).sum := by
  refine List.sum_nonneg ?_
  intro share member
  obtain ⟨thread, _, rfl⟩ := List.mem_map.mp member
  exact Int.natCast_nonneg _

theorem share_le_tokens {before after : List (Thread Point)}
    (split : current.threads = before ++ thread :: after) (inst : Nat) :
    (thread.point.owned.count inst : ℤ) + current.shared.data.statics.count inst ≤ tokens current inst := by
  have left := sum_shares_nonneg before inst
  have right := sum_shares_nonneg after inst
  unfold tokens
  rw [split, List.map_append, List.map_cons, List.sum_append, List.sum_cons]
  omega

/-- An instrument with a reference is live. -/
theorem Sound.live (sound : Sound current) (positive : 0 < tokens current inst) :
    ∃ count, current.shared.data.count inst = some (count + 1) := by
  rw [← sound.counted inst] at positive
  cases live : current.shared.data.count inst with
  | none =>
      rw [live] at positive
      simp at positive
  | some count =>
      rw [live, Option.getD_some] at positive
      exact ⟨count - 1, by congr 1; omega⟩

theorem Sound.usable (sound : Sound current) (member : thread ∈ current.threads)
    (allowed : usable current.shared.data thread.point inst = true) :
    ∃ count, current.shared.data.count inst = some (count + 1) := by
  obtain ⟨before, after, split⟩ := List.append_of_mem member
  have shares := share_le_tokens split inst
  have positive : 0 < thread.point.owned.count inst + current.shared.data.statics.count inst := by
    unfold Metrics.usable at allowed
    simp only [Bool.or_eq_true, List.contains_iff_mem] at allowed
    rcases allowed with mine | kept
    · exact Nat.add_pos_left (List.count_pos_iff.mpr mine) _
    · exact Nat.add_pos_right _ (List.count_pos_iff.mpr kept)
  exact sound.live (by omega)

theorem Sound.covers (sound : Sound current) (member : thread ∈ current.threads) :
    current.shared.data.Covers thread.point :=
  ⟨fun _ allowed => sound.usable member allowed, sound.listed, sound.distinct⟩

theorem usable_of_owned {data : Data} {point : Point} (mine : inst ∈ point.owned) : usable data point inst = true := by
  simp [Metrics.usable, mine]

/-- The registry lists live instruments after a step, each of them once. -/
theorem Change.registry (change : Change data point after moved)
    (valid : point.Valid data) (covers : data.Covers point) :
    (∀ inst ∈ after.registry, ∃ count, after.count inst = some count) ∧ after.registry.Nodup := by
  have kept {other count : Nat} (registry : after.registry = data.registry)
      (counted : after.count = Function.update data.count other (some count)) :
      (∀ inst ∈ after.registry, ∃ count, after.count inst = some count) ∧ after.registry.Nodup := by
    refine ⟨?_, registry ▸ covers.distinct⟩
    intro inst member
    rw [counted]
    by_cases same : inst = other
    · exact ⟨count, by rw [same, Function.update_self]⟩
    · rw [Function.update_of_ne same]
      exact covers.listed inst (registry ▸ member)
  cases change with
  | quiet count registry passed statics owned sole =>
      rw [count, registry]
      exact ⟨covers.listed, covers.distinct⟩
  | created other fresh count registry passed statics idle => exact kept registry count
  | acquired other count live counted registry | released other count live mine counted registry =>
      exact kept registry counted
  | given | taken | kept => exact ⟨covers.listed, covers.distinct⟩
  | added other stage =>
      rw [Point.Valid, stage] at valid
      refine ⟨?_, List.nodup_cons.mpr ⟨valid.2, covers.distinct⟩⟩
      intro inst member
      rcases List.mem_cons.mp member with rfl | old
      · obtain ⟨count, live⟩ := covers.usable inst (usable_of_owned valid.1)
        exact ⟨count + 1, live⟩
      · exact covers.listed inst old
  | removed other stage =>
      exact ⟨fun inst member => covers.listed inst (List.mem_of_mem_erase member), covers.distinct.erase other⟩
  | destroyed other stage count registry passed statics =>
      rw [Point.Valid, stage] at valid
      refine ⟨?_, registry ▸ covers.distinct⟩
      intro inst member
      rw [registry] at member
      have differs : inst ≠ other := by
        rintro rfl
        exact valid.2 member
      rw [count, Function.update_of_ne differs]
      exact covers.listed inst member
  | cleared stage => exact ⟨nofun, List.nodup_nil⟩

/-- A thread that starts to register or to destroy an instrument has created it or gives up its last reference. -/
theorem Change.sole (change : Change data point after moved) :
    (moved.sole = point.sole ∨ moved.sole = none) ∨ point.sole = none ∧ ∃ inst, moved.sole = some inst ∧
      (data.count inst = none ∨ data.count inst = some 1 ∧ inst ∈ point.owned) := by
  cases change with
  | quiet count registry passed statics owned sole => exact Or.inl (Or.inl sole)
  | created inst fresh count registry passed statics idle => exact Or.inr ⟨idle, inst, rfl, Or.inl fresh⟩
  | released inst count live mine counted registry passed statics idle =>
      by_cases last : count = 0
      · rw [last] at live
        rw [if_pos last]
        exact Or.inr ⟨idle, inst, rfl, Or.inr ⟨live, mine⟩⟩
      · rw [if_neg last]
        exact Or.inl (Or.inr rfl)
  | removed inst stage => exact Or.inl (Or.inl (by rw [Point.sole, Point.sole, stage]))
  | _ => exact Or.inl (Or.inr rfl)

/-- A step that does not free an instrument without references leaves it with the thread that destroys it. -/
theorem Change.dying (change : Change data point after moved)
    (valid : point.Valid data) (covers : data.Covers point) (zero : after.count inst = some 0) :
    moved.sole = some inst ∨ data.count inst = some 0 ∧ point.sole ≠ some inst := by
  have elsewhere {other count : Nat} (counted : after.count = Function.update data.count other (some (count + 1))) :
      data.count inst = some 0 := by
    rw [counted] at zero
    by_cases same : inst = other
    · rw [same, Function.update_self] at zero
      cases zero
    · rwa [Function.update_of_ne same] at zero
  have away (idle : point.sole = none) : point.sole ≠ some inst := by
    rw [idle]
    exact nofun
  cases change with
  | quiet count registry passed statics owned sole =>
      by_cases mine : point.sole = some inst
      · exact Or.inl (sole.trans mine)
      · exact Or.inr ⟨count ▸ zero, mine⟩
  | created other fresh count registry passed statics idle => exact Or.inr ⟨elsewhere count, away idle⟩
  | acquired other count live counted registry passed statics idle => exact Or.inr ⟨elsewhere counted, away idle⟩
  | released other count live mine counted registry passed statics idle =>
      rw [counted] at zero
      by_cases same : inst = other
      · rw [same, Function.update_self, Option.some.injEq] at zero
        rw [if_pos zero, same]
        exact Or.inl rfl
      · rw [Function.update_of_ne same] at zero
        exact Or.inr ⟨zero, away idle⟩
  | given other mine idle | taken other there idle | kept other mine idle => exact Or.inr ⟨zero, away idle⟩
  | added other stage =>
      refine Or.inr ⟨zero, ?_⟩
      rw [Point.sole, stage]
      rintro ⟨rfl⟩
      rw [Point.Valid, stage] at valid
      obtain ⟨count, live⟩ := covers.usable inst (usable_of_owned valid.1)
      rw [show data.count inst = some 0 from zero] at live
      cases live
  | removed other stage =>
      by_cases mine : point.sole = some inst
      · rw [Point.sole, stage] at mine
        exact Or.inl mine
      · exact Or.inr ⟨zero, mine⟩
  | destroyed other stage count registry passed statics =>
      rw [count] at zero
      by_cases same : inst = other
      · rw [same, Function.update_self] at zero
        cases zero
      · rw [Function.update_of_ne same] at zero
        refine Or.inr ⟨zero, ?_⟩
        rw [Point.sole, stage]
        rintro ⟨rfl⟩
        exact same rfl
  | cleared stage =>
      refine Or.inr ⟨zero, ?_⟩
      rw [Point.sole, stage]
      exact nofun

/-- A thread that registers an instrument owns it, and a thread that destroys one has no references to it. -/
theorem Point.Valid.sole {data : Data} {point : Point} (valid : point.Valid data) (mine : point.sole = some inst) :
    inst ∈ point.owned ∨ data.count inst = some 0 := by
  obtain ⟨owned, stage⟩ := point
  cases stage with
  | registryAdd | adding =>
      cases mine
      exact Or.inl valid.1
  | registryRemove | removing =>
      cases mine
      exact Or.inr valid
  | destroying other =>
      cases mine
      exact Or.inr valid.1
  | _ => cases mine

/-- No other thread registers or destroys an instrument that is new or has lost its last reference. -/
theorem Sound.unshared (sound : Sound current) {before after : List (Thread Point)} {thread other : Thread Point}
    (split : current.threads = before ++ thread :: after) (member : other ∈ before ++ after)
    (state : current.shared.data.count inst = none ∨
      current.shared.data.count inst = some 1 ∧ inst ∈ thread.point.owned) : other.point.sole ≠ some inst := by
  intro mine
  have inside : other ∈ current.threads := by
    rw [split]
    exact mem_middle.mpr (Or.inr member)
  have owner := (sound.valid other inside).sole mine
  rcases state with fresh | ⟨single, owned⟩
  · rcases owner with held | zero
    · obtain ⟨count, live⟩ := sound.usable inside (usable_of_owned held)
      rw [fresh] at live
      cases live
    · rw [fresh] at zero
      cases zero
  · rcases owner with held | zero
    · have counted := sound.counted inst
      have first : 0 < thread.point.owned.count inst := List.count_pos_iff.mpr owned
      have second : 0 < other.point.owned.count inst := List.count_pos_iff.mpr held
      have others : (other.point.owned.count inst : ℤ) ≤
          ((before ++ after).map fun thread => (thread.point.owned.count inst : ℤ)).sum := by
        obtain ⟨left, right, parts⟩ := List.append_of_mem member
        rw [parts, List.map_append, List.map_cons, List.sum_append, List.sum_cons]
        have one := sum_shares_nonneg left inst
        have two := sum_shares_nonneg right inst
        omega
      rw [single, tokens, split, List.map_append, List.map_cons, List.sum_append, List.sum_cons] at counted
      rw [List.map_append, List.sum_append] at others
      simp only [Option.getD_some] at counted
      omega
    · rw [single] at zero
      cases zero

/-- Every step keeps the state sound. -/
theorem Sound.step (sound : Sound current) {input : Nat × Choice} (stepped : step current input = some next) :
    Sound next := by
  obtain ⟨before, thread, after, shared, moved, split, found, taken, same⟩ := step_at stepped
  obtain ⟨operation, goes, _, id⟩ := move_cases taken
  have member : thread ∈ current.threads := List.mem_of_getElem? found
  have valid := sound.valid thread member
  have covers := sound.covers member
  obtain ⟨change, kept, follows⟩ := next_proper valid covers goes
  have owned : Owned Point.locks next := by
    refine sound.owned.step ?_ stepped
    intro other operation data point there goes
    have inside := List.mem_of_getElem? there
    exact (next_proper (sound.valid other inside) (sound.covers inside) goes).follows
  have soles := sound.sole
  rw [split] at soles
  subst same
  have registry := change.registry valid covers
  refine ⟨owned, ?_, registry.1, registry.2, ?_, ?_, ?_⟩
  · intro inst
    have counted := sound.counted inst
    have balanced := change.balanced valid inst
    have total := sum_replace (fun thread : Thread Point => (thread.point.owned.count inst : ℤ)) before after thread moved
    unfold tokens at counted ⊢
    rw [split] at counted
    dsimp only at total ⊢
    omega
  · rcases change.sole with (equal | none) | ⟨idle, inst, takes, state⟩
    · exact nodup_replace soles (Or.inl equal)
    · exact nodup_release soles none
    · refine nodup_replace soles (Or.inr ⟨idle, inst, takes, ?_⟩)
      exact fun other elsewhere => sound.unshared split elsewhere state
  · intro other inside
    rcases mem_middle.mp inside with rfl | elsewhere
    · exact kept
    · have there : other ∈ current.threads := by
        rw [split]
        exact mem_middle.mpr (Or.inr elsewhere)
      refine change.spares.keeps (sound.valid other there) ?_ ?_
      · intro inst mine other
        exact not_held soles other (List.mem_filterMap.mpr ⟨_, elsewhere, mine⟩)
      · intro holds mine
        exact sound.owned.alone split mine elsewhere holds
  · intro inst zero
    rcases change.dying valid covers zero with mine | ⟨old, apart⟩
    · exact ⟨moved, mem_middle.mpr (Or.inl rfl), mine⟩
    · obtain ⟨other, there, mine⟩ := sound.dying inst old
      rw [split] at there
      rcases mem_middle.mp there with rfl | elsewhere
      · exact absurd mine apart
      · exact ⟨other, mem_middle.mpr (Or.inr elsewhere), mine⟩

theorem sound_initial {ids : List Nat} (distinct : ids.Nodup) : Sound (initial ids) := by
  have idle : ∀ thread ∈ (initial ids).threads, thread.point = ⟨[], .idle⟩ := by
    intro thread member
    obtain ⟨id, _, rfl⟩ := List.mem_map.mp member
    rfl
  refine ⟨owned_initial ?_ ?_, ?_, nofun, List.nodup_nil, ?_, ?_, nofun⟩
  · rw [List.map_map]
    exact (List.map_id ids).symm ▸ distinct
  · intro thread member
    obtain ⟨id, _, rfl⟩ := List.mem_map.mp member
    rfl
  · intro inst
    have empty : ((initial ids).threads.map fun thread => (thread.point.owned.count inst : ℤ)).sum = 0 := by
      refine List.sum_eq_zero ?_
      intro share member
      obtain ⟨thread, inside, rfl⟩ := List.mem_map.mp member
      rw [idle thread inside]
      rfl
    rw [tokens, empty]
    rfl
  · rw [List.filterMap_eq_nil_iff.mpr]
    · exact List.nodup_nil
    · intro thread member
      rw [idle thread member]
      rfl
  · intro thread member
    rw [idle thread member]
    trivial

theorem run_sound {ids : List Nat} (distinct : ids.Nodup) {schedule : List (Nat × Choice)} {final : Configuration}
    (reached : run (initial ids) schedule = some final) : Sound final :=
  Runs.invariant _ Sound (fun _ _ _ sound stepped => sound.step stepped) (sound_initial distinct) reached

end Runs

section Progress
variable {current : Configuration} {thread : Thread Point} {moved : Point} {after : Data}

/-- A call always has a next step. -/
theorem exists_proceed {data : Data} {point : Point} (valid : point.Valid data) (covers : data.Covers point)
    (busy : point.stage ≠ .idle) : ∃ operation after moved,
      Metrics.next data point .proceed = some (operation, after, moved) := by
  have live {inst count : Nat} (counted : data.count inst = some count)
      (use : Instrument → Option (Operation Mutex × Data × Point))
      (used : ∀ instrument, ∃ operation after moved, use instrument = some (operation, after, moved)) :
      ∃ operation after moved, withInstrument data point inst use = some (operation, after, moved) := by
    obtain ⟨instrument, found, _⟩ := exists_instrument counted
    rw [withInstrument, found]
    exact used instrument
  obtain ⟨owned, stage⟩ := point
  cases stage with
  | idle => exact absurd rfl busy
  | recording inst | searching inst | updating inst =>
      obtain ⟨count, counted⟩ := covers.usable inst valid
      exact live counted _ fun _ => ⟨_, _, _, rfl⟩
  | destroying inst => exact live valid.1 _ fun _ => ⟨_, _, _, rfl⟩
  | listing rest metrics =>
      cases rest with
      | nil => exact ⟨_, _, _, rfl⟩
      | cons inst rest =>
          obtain ⟨count, counted⟩ := covers.listed inst (valid inst List.mem_cons_self)
          exact live counted _ fun _ => ⟨_, _, _, rfl⟩
  | copying inst rest metrics =>
      obtain ⟨count, counted⟩ := covers.listed inst valid.1
      exact live counted _ fun _ => ⟨_, _, _, rfl⟩
  | fault => exact valid.elim
  | _ => exact ⟨_, _, _, rfl⟩

/-- A thread goes on when its operation on the mutexes is possible. -/
theorem step_of_apply (member : thread ∈ current.threads) {operation : Operation Mutex}
    (goes : next current.shared.data thread.point .proceed = some (operation, after, moved))
    {owner : Mutex → Option Nat} (applied : operation.apply current.shared.owner thread.id = some owner) :
    ∃ index next, step current (index, .proceed) = some next := by
  obtain ⟨index, inside, found⟩ := List.mem_iff_getElem.mp member
  refine ⟨index, ⟨⟨after, owner⟩, current.threads.set index ⟨thread.id, moved⟩⟩, ?_⟩
  unfold step Threads.step Locking.move
  rw [List.getElem?_eq_getElem inside, found, Option.bind_some, goes, Option.bind_some]
  dsimp only
  rw [applied]
  rfl

/-- An operation other than a lock is possible. -/
theorem step_of_passing (sound : Sound current) (member : thread ∈ current.threads)
    (busy : thread.point.stage ≠ .idle) (passing : ∀ after moved mutex,
      next current.shared.data thread.point .proceed ≠ some (.lock mutex, after, moved)) :
    ∃ index next, step current (index, .proceed) = some next := by
  obtain ⟨operation, after, moved, goes⟩ := exists_proceed (sound.valid thread member) (sound.covers member) busy
  cases operation with
  | pass | unlock => exact step_of_apply member goes rfl
  | lock mutex => exact absurd goes (passing after moved mutex)

theorem withInstrument_passing {data : Data} {point : Point} {inst : Nat}
    {use : Instrument → Option (Operation Mutex × Data × Point)} {mutex : Mutex}
    (passing : ∀ instrument, use instrument ≠ some (.lock mutex, after, moved)) :
    withInstrument data point inst use ≠ some (.lock mutex, after, moved) := by
  unfold withInstrument
  split
  · exact nofun
  · exact passing _

/-- A thread that holds the mutex of an instrument does not wait. -/
theorem step_of_instrument (sound : Sound current) (member : thread ∈ current.threads)
    {inst : Nat} (holds : .lock inst ∈ thread.point.locks) : ∃ index next, step current (index, .proceed) = some next := by
  obtain ⟨id, owned, stage⟩ := thread
  cases stage with
  | searching | updating | copying =>
      exact step_of_passing sound member nofun fun _ _ _ => withInstrument_passing fun _ => nofun
  | _ => simp [Point.locks] at holds

/-- A thread that waits for a mutex waits for its owner. -/
theorem step_of_owner (sound : Sound current) (member : thread ∈ current.threads) {mutex : Mutex}
    (goes : next current.shared.data thread.point .proceed = some (.lock mutex, after, moved))
    (owner : ∀ other ∈ current.threads, mutex ∈ other.point.locks →
      ∃ index next, step current (index, .proceed) = some next) :
    ∃ index next, step current (index, .proceed) = some next := by
  cases holder : current.shared.owner mutex with
  | none => exact step_of_apply member goes (if_pos holder)
  | some id =>
      obtain ⟨other, there, _, holds⟩ := (sound.owned.owner mutex id).mp holder
      exact owner other there holds

/-- A thread that holds the mutex of the registry waits at most for the mutex of an instrument. -/
theorem step_of_registry (sound : Sound current) (member : thread ∈ current.threads)
    (holds : .registryLock ∈ thread.point.locks) : ∃ index next, step current (index, .proceed) = some next := by
  obtain ⟨id, owned, stage⟩ := thread
  cases stage with
  | adding | removing | clearing => exact step_of_passing sound member nofun nofun
  | copying inst rest metrics => exact step_of_instrument sound member List.mem_cons_self
  | listing rest metrics =>
      cases rest with
      | nil => exact step_of_passing sound member nofun nofun
      | cons inst rest =>
          obtain ⟨count, live⟩ := sound.listed inst (sound.valid _ member inst List.mem_cons_self)
          obtain ⟨instrument, found, _⟩ := exists_instrument live
          have goes : next current.shared.data ⟨owned, .listing (inst :: rest) metrics⟩ .proceed =
              some (.lock (.lock inst), current.shared.data, ⟨owned, .copying inst rest metrics⟩) := by
            change withInstrument current.shared.data _ inst _ = _
            rw [withInstrument, found]
          exact step_of_owner sound member goes fun other there mine => step_of_instrument sound there mine
  | _ => simp [Point.locks] at holds

/-- Some call goes on unless no thread is in a call. -/
theorem exists_step (sound : Sound current) (member : thread ∈ current.threads)
    (busy : thread.point.stage ≠ .idle) : ∃ index next, step current (index, .proceed) = some next := by
  obtain ⟨operation, after, moved, goes⟩ := exists_proceed (sound.valid thread member) (sound.covers member) busy
  cases operation with
  | pass | unlock => exact step_of_apply member goes rfl
  | lock mutex =>
      refine step_of_owner sound member goes ?_
      intro other there mine
      cases mutex with
      | registryLock => exact step_of_registry sound there mine
      | lock inst => exact step_of_instrument sound there mine

/-- What the users of the instruments rely on. -/
structure Safe (current : Configuration) : Prop where
  /-- no thread has used an instrument that is freed -/
  faultless : ∀ thread ∈ current.threads, thread.point.stage ≠ .fault
  /-- an instrument with a reference is live, and the dump finds live instruments only -/
  live : ∀ inst, inst ∈ current.shared.data.registry ∨ 0 < tokens current inst →
    (current.shared.data.instrument inst).isSome
  /-- an instrument without references is freed -/
  freed : (∀ thread ∈ current.threads, thread.point.stage = .idle) →
    ∀ inst, (current.shared.data.instrument inst).isSome → 0 < tokens current inst
  /-- the calls do not wait for each other forever -/
  progress : (∃ thread ∈ current.threads, thread.point.stage ≠ .idle) →
    ∃ index next, step current (index, .proceed) = some next

theorem isSome_count (data : Data) (inst : Nat) : (data.instrument inst).isSome = (data.count inst).isSome := by
  rw [Data.count, Option.isSome_map]

/-- However the calls of the threads interleave, no instrument is used after it is freed, none is lost, and some call
goes on. -/
theorem run_safe {ids : List Nat} (distinct : ids.Nodup) {schedule : List (Nat × Choice)} {final : Configuration}
    (reached : run (initial ids) schedule = some final) : Safe final := by
  have sound := run_sound distinct reached
  refine ⟨?_, ?_, ?_, ?_⟩
  · intro thread member fault
    have valid := sound.valid thread member
    rw [Point.Valid, fault] at valid
    exact valid
  · intro inst known
    rw [isSome_count]
    rcases known with listed | positive
    · obtain ⟨count, live⟩ := sound.listed inst listed
      rw [live]
      rfl
    · obtain ⟨count, live⟩ := sound.live positive
      rw [live]
      rfl
  · intro idle inst live
    rw [isSome_count, Option.isSome_iff_exists] at live
    obtain ⟨count, counted⟩ := live
    rw [← sound.counted inst, counted]
    cases count with
    | zero =>
        obtain ⟨thread, member, mine⟩ := sound.dying inst counted
        rw [Point.sole, idle thread member] at mine
        cases mine
    | succ count => exact Int.natCast_pos.mpr (Nat.succ_pos count)
  · rintro ⟨thread, member, busy⟩
    exact exists_step sound member busy

/-- Two threads create a counter, add to it and release it while a dump runs. -/
def sampleSchedule : List (Nat × Choice) :=
  [(0, .create .counter (some "starts") none none 7), (0, .proceed), (0, .proceed), (0, .acquire (some 7)), (0, .give 7),
    (1, .take 7), (1, .record (some 7) [some "driver", some "light", none] (.add 2)), (0, .dump), (0, .proceed), (0, .proceed),
    (0, .proceed), (1, .proceed), (0, .proceed), (1, .proceed), (1, .proceed), (0, .proceed), (0, .release (some 7)),
    (1, .release (some 7)), (1, .proceed), (1, .proceed), (1, .proceed)]

theorem run_safe_sample : ∃ final, run (initial [0, 1]) sampleSchedule = some final ∧
    final.shared.data.instruments.length = 0 ∧ Safe final := by
  have ends : (run (initial [0, 1]) sampleSchedule).map (fun final => final.shared.data.instruments.length) = some 0 := by
    rfl
  obtain ⟨final, reached, empty⟩ := Option.map_eq_some_iff.mp ends
  exact ⟨final, reached, empty, run_safe (by decide) reached⟩

end Progress
end Barton.Metrics
