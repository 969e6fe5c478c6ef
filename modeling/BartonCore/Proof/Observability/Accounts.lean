import BartonCore.Proof.Observability.Aggregates
import BartonCore.Proof.Observability.References

namespace Barton.Metrics
open Threads Locking

section Histories

/-- The records of each instrument since its creation. -/
abbrev Histories := Nat → List Record

/-- A new instrument has no records, and the last step of a record appends it. -/
def follow (histories : Histories) (point : Point) (choice : Choice) : Histories :=
  match point.stage, choice with
  | .idle, .create _ name _ _ inst => if name.getD "" = "" then histories else Function.update histories inst []
  | .updating inst record _, _ => Function.update histories inst (histories inst ++ [record])
  | _, _ => histories

/-- The histories grow beside the run. -/
def tracedStep (state : Configuration × Histories) (input : Nat × Choice) : Option (Configuration × Histories) :=
  state.1.threads[input.1]?.bind fun thread =>
    (step state.1 input).map fun next => (next, follow state.2 thread.point input.2)

def trace (start : Configuration) (schedule : List (Nat × Choice)) : Option (Configuration × Histories) :=
  Runs.run tracedStep (start, fun _ => []) schedule

/-- Every step is traced. -/
theorem exists_tracedStep {current next : Configuration} (histories : Histories) {input : Nat × Choice}
    (stepped : step current input = some next) : ∃ later, tracedStep (current, histories) input = some (next, later) := by
  obtain ⟨_, thread, _, _, _, _, found, _, _⟩ := step_at stepped
  exact ⟨follow histories thread.point input.2, by rw [tracedStep, found, Option.bind_some, stepped]; rfl⟩

theorem exists_trace {start final : Configuration} {schedule : List (Nat × Choice)} (histories : Histories)
    (reached : run start schedule = some final) :
    ∃ later, Runs.run tracedStep (start, histories) schedule = some (final, later) := by
  induction schedule generalizing start histories with
  | nil =>
      cases reached
      exact ⟨histories, rfl⟩
  | cons input rest ih =>
      obtain ⟨next, stepped, ends⟩ := Option.bind_eq_some_iff.mp reached
      obtain ⟨later, traced⟩ := exists_tracedStep histories stepped
      obtain ⟨last, finished⟩ := ih later ends
      refine ⟨last, ?_⟩
      rw [Runs.run, traced]
      exact finished

end Histories

section Effects
variable {data after : Data} {point moved : Point} {histories : Histories} {inst : Nat}

/-- The data points of a live instrument. -/
def Data.points (data : Data) (inst : Nat) : Option DataPoints := (data.instrument inst).map Instrument.dataPoints

theorem points_write (update : Instrument → Instrument) (change : DataPoints → DataPoints)
    (address : ∀ instrument, (update instrument).address = instrument.address)
    (dataPoints : ∀ instrument, (update instrument).dataPoints = change instrument.dataPoints) (other : Nat) :
    (data.write inst update).points other =
      (data.points other).map fun points => if other = inst then change points else points := by
  unfold Data.points Data.write Data.instrument
  dsimp only
  rw [Cells.read_write_ite other update address, Option.map_map, Option.map_map]
  congr 1
  funext instrument
  dsimp only [Function.comp]
  split
  · exact dataPoints instrument
  · rfl

/-- A write to the references keeps the data points. -/
theorem points_write_references (change : Nat → Nat) :
    (data.write inst fun instrument => { instrument with references := change instrument.references }).points =
      data.points := by
  funext other
  refine (points_write (fun instrument => { instrument with references := change instrument.references }) id
    (fun _ => rfl) (fun _ => rfl) other).trans ?_
  simp

theorem points_write_dataPoints (change : DataPoints → DataPoints) {points : DataPoints}
    (live : data.points inst = some points) :
    (data.write inst fun instrument => { instrument with dataPoints := change instrument.dataPoints }).points =
      Function.update data.points inst (some (change points)) := by
  funext other
  refine (points_write (fun instrument => { instrument with dataPoints := change instrument.dataPoints }) change
    (fun _ => rfl) (fun _ => rfl) other).trans ?_
  by_cases same : other = inst
  · rw [same, live, Function.update_self]
    simp
  · rw [Function.update_of_ne same]
    simp [same]

theorem points_append (instrument : Instrument) (fresh : data.count instrument.address = none) :
    ({ data with instruments := data.instruments ++ [instrument] } : Data).points =
      Function.update data.points instrument.address (some instrument.dataPoints) := by
  funext other
  have absent : Cells.read Instrument.address instrument.address data.instruments = none := by
    simpa [Data.count, Data.instrument] using fresh
  unfold Data.points Data.instrument
  dsimp only
  rw [Cells.read_append_singleton]
  by_cases same : other = instrument.address
  · rw [same, absent, Function.update_self]
    simp
  · rw [Function.update_of_ne same, if_neg (Ne.symm same), Option.or_none]

theorem points_delete :
    ({ data with instruments := Cells.delete Instrument.address inst data.instruments } : Data).points =
      Function.update data.points inst none := by
  funext other
  unfold Data.points Data.instrument
  dsimp only
  by_cases same : other = inst
  · rw [same, Cells.read_delete, Function.update_self]
    rfl
  · rw [Cells.read_delete_of_ne same, Function.update_of_ne same]

/-- A thread is between the search and the update of a record. -/
def Point.updates (point : Point) : Option Nat :=
  match point.stage with
  | .updating inst _ _ => some inst
  | _ => none

/-- A record goes to an instrument of its type, and its search has found or made a data point. -/
def Point.Reports (data : Data) (histories : Histories) (point : Point) : Prop :=
  match point.stage with
  | .recording inst record =>
      record.attrs.Nodup ∧ ∃ points, data.points inst = some points ∧ record.measurement.fits points = true
  | .searching inst record =>
      record.attrs.Nodup ∧ ∃ points, data.points inst = some points ∧ record.measurement.fits points = true
  | .updating inst record index =>
      record.attrs.Nodup ∧ ∃ base points, data.points inst = some points ∧ record.measurement.fits base = true ∧
        Accounts (histories inst) base ∧ base.getOrCreate record.attrs = (points, index)
  | _ => True

/-- What a step can do to the data points and to the histories. -/
inductive Effect (data : Data) (point : Point) (histories : Histories) : Data → Point → Histories → Prop where
  | kept {after : Data} {moved : Point} (points : after.points = data.points) (calm : point.updates = none)
      (still : moved.updates = none) : Effect data point histories after moved histories
  | created {after : Data} {moved : Point} (inst : Nat) (type : InstrumentType) (fresh : data.points inst = none)
      (points : after.points = Function.update data.points inst (some (.empty type))) (calm : point.updates = none)
      (still : moved.updates = none) : Effect data point histories after moved (Function.update histories inst [])
  | searched {after : Data} {moved : Point} (inst : Nat) (record : Record) (base : DataPoints)
      (stage : point.stage = .searching inst record) (live : data.points inst = some base)
      (points : after.points = Function.update data.points inst (some (base.getOrCreate record.attrs).1))
      (search : moved.stage = .updating inst record (base.getOrCreate record.attrs).2) :
      Effect data point histories after moved histories
  | updated {after : Data} {moved : Point} (inst : Nat) (record : Record) (index : Nat) (old : DataPoints)
      (stage : point.stage = .updating inst record index) (live : data.points inst = some old)
      (points : after.points = Function.update data.points inst (some (old.update index record.measurement)))
      (still : moved.updates = none) :
      Effect data point histories after moved (Function.update histories inst (histories inst ++ [record]))
  | destroyed {after : Data} {moved : Point} (inst : Nat) (stage : point.stage = .destroying inst)
      (points : after.points = Function.update data.points inst none) (still : moved.updates = none) :
      Effect data point histories after moved histories

theorem fits_getOrCreate (measurement : Measurement) (attrs : AttrSet) (points : DataPoints) :
    measurement.fits (points.getOrCreate attrs).1 = measurement.fits points := by
  cases points <;> cases measurement <;> rfl

theorem fits_update (measurement other : Measurement) (index : Nat) (points : DataPoints) :
    measurement.fits (points.update index other) = measurement.fits points := by
  cases points <;> cases measurement <;> cases other <;> rfl

/-- The attributes of a record are a set. -/
def Choice.Sets : Choice → Prop
  | .record _ arguments _ => (attrSetFromVa arguments).Nodup
  | _ => True

variable {operation : Operation Mutex} {choice : Choice}

theorem exists_points {count : Nat} (live : data.count inst = some count) :
    ∃ instrument, data.instrument inst = some instrument ∧ data.points inst = some instrument.dataPoints := by
  obtain ⟨instrument, found, _⟩ := exists_instrument live
  exact ⟨instrument, found, by rw [Data.points, found]; rfl⟩

theorem withInstrument_points {use : Instrument → Option (Operation Mutex × Data × Point)} {count : Nat}
    (live : data.count inst = some count) {result : Operation Mutex × Data × Point}
    (taken : withInstrument data point inst use = some result) :
    ∃ instrument, data.points inst = some instrument.dataPoints ∧ use instrument = some result := by
  obtain ⟨instrument, found, points⟩ := exists_points live
  rw [withInstrument, found] at taken
  exact ⟨instrument, points, taken⟩

/-- The effect of a step, and what it prepares for the next one. -/
structure Traced (data : Data) (point : Point) (histories : Histories) (choice : Choice) (after : Data) (moved : Point) :
    Prop where
  effect : Effect data point histories after moved (follow histories point choice)
  reports : moved.Reports after (follow histories point choice)

/-- A step between two calls. -/
theorem start_traced (idle : point.stage = .idle) (covers : data.Covers point) (sets : choice.Sets)
    (taken : start data point choice = some (operation, after, moved)) :
    Traced data point histories choice after moved := by
  obtain ⟨owned, stage⟩ := point
  cases idle
  have quiet {after : Data} {moved : Point} {choice : Choice} (same : after.points = data.points)
      (still : moved.updates = none) (reports : moved.Reports after histories)
      (follows : follow histories ⟨owned, .idle⟩ choice = histories) :
      Traced data ⟨owned, .idle⟩ histories choice after moved := by
    refine ⟨?_, ?_⟩
    · rw [follows]
      exact .kept same rfl still
    · rw [follows]
      exact reports
  cases choice with
  | create type name description unit inst =>
      rw [start, create] at taken
      split at taken
      · rename_i unnamed
        cases taken
        exact quiet rfl rfl trivial (if_pos unnamed)
      · rename_i named
        split at taken
        · cases taken
        · rename_i free
          have fresh : data.count inst = none := by
            rw [Data.count]
            simpa using free
          cases taken
          have follows : follow histories ⟨owned, .idle⟩ (.create type name description unit inst) =
            Function.update histories inst [] := if_neg named
          refine ⟨?_, trivial⟩
          rw [follows]
          refine .created inst type ?_ (points_append _ fresh) rfl rfl
          rw [Data.points]
          simpa using free
  | record inst arguments measurement =>
      cases inst with
      | none =>
          cases taken
          exact quiet rfl rfl trivial rfl
      | some inst =>
          rw [start, startRecord] at taken
          split at taken
          · rename_i allowed
            cases taken
            rw [Bool.and_eq_true] at allowed
            obtain ⟨count, live⟩ := covers.usable inst allowed.1
            obtain ⟨instrument, found, points⟩ := exists_points live
            refine quiet rfl rfl ⟨sets, instrument.dataPoints, points, ?_⟩ rfl
            rw [found] at allowed
            exact allowed.2
          · cases taken
  | acquire inst =>
      cases inst with
      | none =>
          cases taken
          exact quiet rfl rfl trivial rfl
      | some inst =>
          rw [start, acquire] at taken
          split at taken
          · rename_i allowed
            obtain ⟨count, live⟩ := covers.usable inst allowed
            obtain ⟨instrument, points, used⟩ := withInstrument_points live taken
            cases used
            exact quiet (points_write_references (· + 1)) rfl trivial rfl
          · cases taken
  | release inst =>
      cases inst with
      | none =>
          cases taken
          exact quiet rfl rfl trivial rfl
      | some inst =>
          rw [start, release] at taken
          split at taken
          · rename_i mine
            obtain ⟨count, live⟩ := covers.usable inst (by simp [usable, List.contains_iff_mem.mp mine])
            obtain ⟨instrument, points, used⟩ := withInstrument_points live taken
            cases used
            refine quiet (points_write_references (· - 1)) ?_ ?_ rfl
            · by_cases last : instrument.references = 1
              · rw [if_pos last]
                rfl
              · rw [if_neg last]
                rfl
            · by_cases last : instrument.references = 1
              · rw [if_pos last]
                trivial
              · rw [if_neg last]
                trivial
          · cases taken
  | give inst =>
      change move data ⟨owned, .idle⟩ (.give inst) = _ at taken
      rw [move] at taken
      split at taken
      · cases taken
        exact quiet rfl rfl trivial rfl
      · cases taken
  | take inst =>
      change move data ⟨owned, .idle⟩ (.take inst) = _ at taken
      rw [move] at taken
      split at taken
      · cases taken
        exact quiet rfl rfl trivial rfl
      · cases taken
  | keep inst =>
      change move data ⟨owned, .idle⟩ (.keep inst) = _ at taken
      rw [move] at taken
      split at taken
      · cases taken
        exact quiet rfl rfl trivial rfl
      · cases taken
  | dump | shutdown =>
      cases taken
      exact quiet rfl rfl trivial rfl
  | proceed => cases taken

/-- A step inside a call. -/
theorem proceed_traced (valid : point.Valid data) (covers : data.Covers point) (reports : point.Reports data histories)
    (settled : ∀ inst record, point.stage = .searching inst record → ∀ points, data.points inst = some points →
      Accounts (histories inst) points)
    (taken : proceed data point point.stage = some (operation, after, moved)) :
    Traced data point histories .proceed after moved := by
  obtain ⟨owned, stage⟩ := point
  cases stage with
  | idle => cases taken
  | recording inst record =>
      obtain ⟨count, live⟩ := covers.usable inst valid
      obtain ⟨instrument, points, used⟩ := withInstrument_points live taken
      cases used
      exact ⟨.kept rfl rfl rfl, reports⟩
  | searching inst record =>
      obtain ⟨count, live⟩ := covers.usable inst valid
      obtain ⟨instrument, points, used⟩ := withInstrument_points live taken
      cases used
      obtain ⟨distinct, base, same, fits⟩ := reports
      rw [points, Option.some.injEq] at same
      subst same
      have changed := points_write_dataPoints (fun _ => (instrument.dataPoints.getOrCreate record.attrs).1) points
      refine ⟨.searched inst record _ rfl points changed rfl, distinct, instrument.dataPoints,
        (instrument.dataPoints.getOrCreate record.attrs).1, ?_, fits, settled inst record rfl _ points, rfl⟩
      rw [changed, Function.update_self]
  | updating inst record index =>
      obtain ⟨count, live⟩ := covers.usable inst valid
      obtain ⟨instrument, points, used⟩ := withInstrument_points live taken
      cases used
      exact ⟨.updated inst record index _ rfl points
        (points_write_dataPoints (·.update index record.measurement) points) rfl, trivial⟩
  | destroying inst =>
      obtain ⟨instrument, points, used⟩ := withInstrument_points valid.1 taken
      cases used
      exact ⟨.destroyed inst rfl points_delete rfl, trivial⟩
  | listing rest metrics =>
      cases rest with
      | nil =>
          cases taken
          exact ⟨.kept rfl rfl rfl, trivial⟩
      | cons inst rest =>
          obtain ⟨count, live⟩ := covers.listed inst (valid inst List.mem_cons_self)
          obtain ⟨instrument, points, used⟩ := withInstrument_points live taken
          cases used
          exact ⟨.kept rfl rfl rfl, trivial⟩
  | copying inst rest metrics =>
      obtain ⟨count, live⟩ := covers.listed inst valid.1
      obtain ⟨instrument, points, used⟩ := withInstrument_points live taken
      cases used
      exact ⟨.kept rfl rfl rfl, trivial⟩
  | fault => cases taken
  | _ =>
      cases taken
      exact ⟨.kept rfl rfl rfl, trivial⟩

theorem next_traced (valid : point.Valid data) (covers : data.Covers point) (sets : choice.Sets)
    (reports : point.Reports data histories)
    (settled : ∀ inst record, point.stage = .searching inst record → ∀ points, data.points inst = some points →
      Accounts (histories inst) points)
    (taken : next data point choice = some (operation, after, moved)) :
    Traced data point histories choice after moved := by
  unfold next at taken
  split at taken
  · rename_i idle
    exact start_traced idle covers sets taken
  · exact proceed_traced valid covers reports settled taken
  · cases taken

/-- The step of one thread keeps what the records of the others rely on. -/
theorem Effect.keeps {later : Histories} (effect : Effect data point histories after moved later) {other : Point}
    (reports : other.Reports data histories) (valid : other.Valid data)
    (live : ∀ inst, usable data other inst = true → data.count inst ≠ some 0)
    (mover : point.Valid data) (apart : ∀ inst, .lock inst ∈ other.locks → .lock inst ∉ point.locks) :
    other.Reports after later := by
  have fitting {inst : Nat} {measurement : Measurement} {points : DataPoints} (there : data.points inst = some points)
      (fits : measurement.fits points = true) (used : usable data other inst = true) :
      ∃ points, after.points inst = some points ∧ measurement.fits points = true := by
    cases effect with
    | kept same calm still => exact ⟨points, same ▸ there, fits⟩
    | created address type fresh same calm still =>
        have differs : inst ≠ address := by
          rintro rfl
          rw [fresh] at there
          cases there
        exact ⟨points, by rw [same, Function.update_of_ne differs]; exact there, fits⟩
    | searched address record base stage known same search =>
        by_cases equal : inst = address
        · subst equal
          rw [there, Option.some.injEq] at known
          subst known
          exact ⟨_, by rw [same, Function.update_self], by rw [fits_getOrCreate]; exact fits⟩
        · exact ⟨points, by rw [same, Function.update_of_ne equal]; exact there, fits⟩
    | updated address record index old stage known same still =>
        by_cases equal : inst = address
        · subst equal
          rw [there, Option.some.injEq] at known
          subst known
          exact ⟨_, by rw [same, Function.update_self], by rw [fits_update]; exact fits⟩
        · exact ⟨points, by rw [same, Function.update_of_ne equal]; exact there, fits⟩
    | destroyed address stage same still =>
        have differs : inst ≠ address := by
          rintro rfl
          rw [Point.Valid, stage] at mover
          exact live inst used mover.1
        exact ⟨points, by rw [same, Function.update_of_ne differs]; exact there, fits⟩
  obtain ⟨owned, stage⟩ := other
  cases stage with
  | recording | searching =>
      obtain ⟨distinct, points, there, fits⟩ := reports
      exact ⟨distinct, fitting there fits valid⟩
  | updating inst record index =>
      obtain ⟨distinct, base, points, there, fits, accounts, found⟩ := reports
      have alone := apart inst List.mem_cons_self
      have same : after.points inst = some points ∧ later inst = histories inst := by
        cases effect with
        | kept same calm still => exact ⟨same ▸ there, rfl⟩
        | created address type fresh same calm still =>
            have differs : inst ≠ address := by
              rintro rfl
              rw [fresh] at there
              cases there
            exact ⟨by rw [same, Function.update_of_ne differs]; exact there, Function.update_of_ne differs _ _⟩
        | searched address other base stage known same search =>
            have differs : inst ≠ address := by
              rintro rfl
              exact alone (by rw [Point.locks, stage]; exact List.mem_cons_self)
            exact ⟨by rw [same, Function.update_of_ne differs]; exact there, rfl⟩
        | updated address other index old stage known same still =>
            have differs : inst ≠ address := by
              rintro rfl
              exact alone (by rw [Point.locks, stage]; exact List.mem_cons_self)
            exact ⟨by rw [same, Function.update_of_ne differs]; exact there, Function.update_of_ne differs _ _⟩
        | destroyed address stage same still =>
            have differs : inst ≠ address := by
              rintro rfl
              rw [Point.Valid, stage] at mover
              exact live inst valid mover.1
            exact ⟨by rw [same, Function.update_of_ne differs]; exact there, rfl⟩
      exact ⟨distinct, base, points, same.1, fits, same.2.symm ▸ accounts, found⟩
  | _ => trivial

end Effects

section Runs
variable {data after : Data} {state : Configuration × Histories} {schedule : List (Nat × Choice)}
  {point moved : Point} {operation : Operation Mutex} {thread : Thread Point} {input : Nat × Choice} {inst : Nat}
  {metric : Metric} {ids : List Nat}

/-- What every reachable state satisfies together with the histories. -/
structure Accounted (state : Configuration × Histories) : Prop where
  sound : Sound state.1
  distinct : ∀ inst, ∀ record ∈ state.2 inst, record.attrs.Nodup
  settled : ∀ inst points, state.1.shared.data.points inst = some points →
    (∀ thread ∈ state.1.threads, thread.point.updates ≠ some inst) → Accounts (state.2 inst) points
  reports : ∀ thread ∈ state.1.threads, thread.point.Reports state.1.shared.data state.2

theorem Point.updates_locks {point : Point} (updates : point.updates = some inst) : .lock inst ∈ point.locks := by
  obtain ⟨owned, stage⟩ := point
  cases stage with
  | updating other record index =>
      cases updates
      exact List.mem_cons_self
  | _ => cases updates

/-- A thread that holds the mutex of an instrument and does not update it finds it settled. -/
theorem Accounted.settled_of_lock (accounted : Accounted state)
    (member : thread ∈ state.1.threads) (mine : .lock inst ∈ thread.point.locks)
    (calm : thread.point.updates ≠ some inst) {points : DataPoints}
    (there : state.1.shared.data.points inst = some points) : Accounts (state.2 inst) points := by
  obtain ⟨before, after, split⟩ := List.append_of_mem member
  refine accounted.settled inst points there ?_
  intro other inside updates
  rw [split] at inside
  rcases mem_middle.mp inside with rfl | elsewhere
  · exact calm updates
  · exact accounted.sound.owned.alone split mine elsewhere (Point.updates_locks updates)

/-- The distinct sets of the histories are those that were recorded. -/
theorem follow_distinct {histories later : Histories}
    (effect : Effect data point histories after moved later) (reports : point.Reports data histories)
    (distinct : ∀ inst, ∀ record ∈ histories inst, record.attrs.Nodup) :
    ∀ inst, ∀ record ∈ later inst, record.attrs.Nodup := by
  cases effect with
  | kept | searched | destroyed => exact distinct
  | created address type fresh same calm still =>
      intro inst record member
      by_cases equal : inst = address
      · rw [equal, Function.update_self] at member
        cases member
      · rw [Function.update_of_ne equal] at member
        exact distinct inst record member
  | updated address record index old stage known same still =>
      rw [Point.Reports, stage] at reports
      intro inst other member
      by_cases equal : inst = address
      · rw [equal, Function.update_self] at member
        rcases List.mem_append.mp member with past | new
        · exact distinct address other past
        · rw [List.mem_singleton.mp new]
          exact reports.1
      · rw [Function.update_of_ne equal] at member
        exact distinct inst other member

/-- An instrument that no thread updates accounts for its history after a step. -/
theorem Effect.settled {histories later : Histories}
    (effect : Effect data point histories after moved later) (reports : point.Reports data histories)
    (distinct : ∀ inst, ∀ record ∈ histories inst, record.attrs.Nodup) {points : DataPoints}
    (there : after.points inst = some points) (calm : moved.updates ≠ some inst)
    (settled : point.updates ≠ some inst → ∀ points, data.points inst = some points → Accounts (histories inst) points) :
    Accounts (later inst) points := by
  cases effect with
  | kept same calm still => exact settled (by rw [calm]; exact nofun) points (same ▸ there)
  | created address type fresh same quiet still =>
      by_cases equal : inst = address
      · rw [equal, Function.update_self]
        rw [same, equal, Function.update_self, Option.some.injEq] at there
        exact there ▸ accounts_empty type
      · rw [Function.update_of_ne equal]
        rw [same, Function.update_of_ne equal] at there
        exact settled (by rw [quiet]; exact nofun) points there
  | searched address record base stage known same search =>
      have differs : inst ≠ address := by
        rintro rfl
        exact calm (by rw [Point.updates, search])
      rw [same, Function.update_of_ne differs] at there
      exact settled (by rw [Point.updates, stage]; exact nofun) points there
  | updated address record index old stage known same still =>
      by_cases equal : inst = address
      · subst equal
        rw [Point.Reports, stage] at reports
        obtain ⟨_, base, held, live, fits, accounts, found⟩ := reports
        rw [live, Option.some.injEq] at known
        rw [same, Function.update_self, Option.some.injEq] at there
        rw [Function.update_self, ← there, ← known]
        have recorded := accounts.record (distinct inst) fits
        rw [found] at recorded
        exact recorded
      · rw [Function.update_of_ne equal]
        rw [same, Function.update_of_ne equal] at there
        refine settled ?_ points there
        rw [Point.updates, stage]
        exact fun other => equal (Option.some.inj other).symm
  | destroyed address stage same still =>
      have differs : inst ≠ address := by
        rintro rfl
        rw [same, Function.update_self] at there
        cases there
      rw [same, Function.update_of_ne differs] at there
      exact settled (by rw [Point.updates, stage]; exact nofun) points there

/-- Every step of a traced run keeps the account. -/
theorem Accounted.step {state next : Configuration × Histories} (accounted : Accounted state)
    (sets : input.2.Sets) (stepped : tracedStep state input = some next) : Accounted next := by
  obtain ⟨current, histories⟩ := state
  obtain ⟨thread, found, rest⟩ := Option.bind_eq_some_iff.mp stepped
  obtain ⟨following, moves, rfl⟩ := Option.map_eq_some_iff.mp rest
  have sound := accounted.sound
  obtain ⟨before, other, after, shared, moved, split, here, taken, rfl⟩ := step_at moves
  obtain rfl : thread = other := Option.some.inj (found.symm.trans here)
  obtain ⟨operation, goes, _, _⟩ := move_cases taken
  have member : thread ∈ current.threads := List.mem_of_getElem? found
  have reports := accounted.reports thread member
  obtain ⟨effect, prepared⟩ := next_traced (sound.valid thread member) (sound.covers member) sets reports
    (fun inst record stage points there => accounted.settled_of_lock member
      (by rw [Point.locks, stage]; exact List.mem_cons_self)
      (by rw [Point.updates, stage]; intro same; cases same) there) goes
  have others (other : Thread Point) (elsewhere : other ∈ before ++ after) : other ∈ current.threads :=
    split ▸ mem_middle.mpr (Or.inr elsewhere)
  refine ⟨sound.step moves, follow_distinct effect reports accounted.distinct, ?_, ?_⟩
  · intro inst points there calm
    refine effect.settled reports accounted.distinct there (calm moved (mem_middle.mpr (Or.inl rfl))) ?_
    intro quiet old known
    refine accounted.settled inst old known ?_
    intro other inside
    rw [show current.threads = before ++ thread :: after from split] at inside
    rcases mem_middle.mp inside with rfl | elsewhere
    · exact quiet
    · exact calm other (mem_middle.mpr (Or.inr elsewhere))
  · intro other inside
    rcases mem_middle.mp inside with rfl | elsewhere
    · exact prepared
    · have there := others other elsewhere
      refine effect.keeps (accounted.reports other there) (sound.valid other there) ?_ (sound.valid thread member) ?_
      · intro inst used zero
        obtain ⟨count, live⟩ := sound.usable there used
        rw [live] at zero
        cases zero
      · intro inst mine held
        exact sound.owned.alone split held elsewhere mine

theorem accounted_initial (distinct : ids.Nodup) : Accounted (initial ids, fun _ => []) := by
  refine ⟨sound_initial distinct, fun _ => nofun, nofun, ?_⟩
  intro thread member
  obtain ⟨id, _, rfl⟩ := List.mem_map.mp member
  trivial

/-- The metrics that a dump has collected. -/
def Point.metrics (point : Point) : List Metric :=
  match point.stage with
  | .listing _ metrics => metrics
  | .copying _ _ metrics => metrics
  | .dumped metrics => metrics
  | _ => []

/-- A dump takes a metric from an instrument that accounts for its history at that moment. -/
def Copied (start : Configuration) (schedule : List (Nat × Choice)) (index : Nat) (metric : Metric) : Prop :=
  ∃ earlier later middle past thread rest metrics, schedule = earlier ++ later ∧
    trace start earlier = some (middle, past) ∧ middle.threads[index]? = some thread ∧
      thread.point.stage = .copying metric.inst rest metrics ∧ Accounts (past metric.inst) metric.dataPoints

theorem Copied.append {start : Configuration} {index : Nat}
    (copied : Copied start schedule index metric) (more : List (Nat × Choice)) :
    Copied start (schedule ++ more) index metric := by
  obtain ⟨earlier, later, middle, past, thread, rest, metrics, split, traced, found, stage, accounts⟩ := copied
  exact ⟨earlier, later ++ more, middle, past, thread, rest, metrics, by rw [split, List.append_assoc], traced, found,
    stage, accounts⟩

theorem withInstrument_metrics {use : Instrument → Option (Operation Mutex × Data × Point)}
    (taken : withInstrument data point inst use = some (operation, after, moved))
    (empty : ∀ instrument, use instrument = some (operation, after, moved) → moved.metrics = []) :
    moved.metrics = [] := by
  unfold withInstrument at taken
  split at taken
  · cases taken
    rfl
  · exact empty _ taken

/-- A thread between two calls has no metrics. -/
theorem start_metrics {owned : List Nat} {moved : Point} {choice : Choice}
    (taken : start data ⟨owned, .idle⟩ choice = some (operation, after, moved)) :
    moved.metrics = [] := by
  cases choice with
  | create type name description unit inst =>
      rw [start, create] at taken
      split at taken
      · cases taken
        rfl
      · split at taken
        · cases taken
        · cases taken
          rfl
  | record inst arguments measurement =>
      cases inst with
      | none =>
          cases taken
          rfl
      | some inst =>
          rw [start, startRecord] at taken
          split at taken
          · cases taken
            rfl
          · cases taken
  | acquire inst =>
      cases inst with
      | none =>
          cases taken
          rfl
      | some inst =>
          rw [start, acquire] at taken
          split at taken
          · refine withInstrument_metrics taken ?_
            rintro instrument ⟨⟩
            rfl
          · cases taken
  | release inst =>
      cases inst with
      | none =>
          cases taken
          rfl
      | some inst =>
          rw [start, release] at taken
          split at taken
          · refine withInstrument_metrics taken ?_
            rintro instrument ⟨⟩
            by_cases last : instrument.references = 1
            · rw [if_pos last]
              rfl
            · rw [if_neg last]
              rfl
          · cases taken
  | give inst =>
      change move data ⟨owned, .idle⟩ (.give inst) = _ at taken
      rw [move] at taken
      split at taken
      · cases taken
        rfl
      · cases taken
  | take inst =>
      change move data ⟨owned, .idle⟩ (.take inst) = _ at taken
      rw [move] at taken
      split at taken
      · cases taken
        rfl
      · cases taken
  | keep inst =>
      change move data ⟨owned, .idle⟩ (.keep inst) = _ at taken
      rw [move] at taken
      split at taken
      · cases taken
        rfl
      · cases taken
  | dump | shutdown =>
      cases taken
      rfl
  | proceed => cases taken

/-- A metric that a dump has after a step was there before or is a copy of an instrument. -/
theorem metrics_next {choice : Choice} (taken : next data point choice = some (operation, after, moved))
    (member : metric ∈ moved.metrics) : metric ∈ point.metrics ∨
      (∃ rest metrics, point.stage = .copying metric.inst rest metrics) ∧
        data.points metric.inst = some metric.dataPoints := by
  have used {inst : Nat} {use : Instrument → Option (Operation Mutex × Data × Point)}
      (took : withInstrument data point inst use = some (operation, after, moved)) :
      ∃ instrument, data.instrument inst = some instrument ∧ use instrument = some (operation, after, moved) := by
    unfold withInstrument at took
    split at took
    · cases took
      cases member
    · rename_i instrument found
      exact ⟨instrument, found, took⟩
  obtain ⟨owned, stage⟩ := point
  cases stage with
  | listing rest metrics =>
      cases choice with
      | proceed =>
          cases rest with
          | nil =>
              cases taken
              exact Or.inl member
          | cons inst rest =>
              obtain ⟨instrument, found, took⟩ := used taken
              cases took
              exact Or.inl member
      | _ => cases taken
  | copying inst rest metrics =>
      cases choice with
      | proceed =>
          obtain ⟨instrument, found, took⟩ := used taken
          cases took
          rcases List.mem_append.mp member with old | new
          · exact Or.inl old
          · rw [List.mem_singleton.mp new]
            refine Or.inr ⟨⟨rest, metrics, rfl⟩, ?_⟩
            rw [Data.points, found]
            rfl
      | _ => cases taken
  | idle =>
      rw [start_metrics taken] at member
      cases member
  | recording | searching | updating | destroying =>
      cases choice with
      | proceed =>
          obtain ⟨instrument, found, took⟩ := used taken
          cases took
          cases member
      | _ => cases taken
  | fault => cases choice <;> cases taken
  | _ =>
      cases choice with
      | proceed =>
          cases taken
          cases member
      | _ => cases taken

theorem trace_accounted (distinct : ids.Nodup) (sets : ∀ input ∈ schedule, input.2.Sets)
    (traced : trace (initial ids) schedule = some state) : Accounted state :=
  Runs.Guarded.invariant _ Accounted (fun _ _ _ accounted sets stepped => accounted.step sets stepped)
    (Runs.Guarded.of_forall _ sets _) (accounted_initial distinct) traced

/-- A traced run without its histories is a run. -/
theorem tracedStep_step {state next : Configuration × Histories}
    (stepped : tracedStep state input = some next) : step state.1 input = some next.1 := by
  obtain ⟨thread, _, rest⟩ := Option.bind_eq_some_iff.mp stepped
  obtain ⟨following, moves, rfl⟩ := Option.map_eq_some_iff.mp rest
  exact moves

/-- A thread after a step was there before. -/
theorem thread_before {current next : Configuration} (stepped : step current input = some next)
    {index : Nat} (found : next.threads[index]? = some thread) :
    ∃ old, current.threads[index]? = some old := by
  obtain ⟨before, other, after, shared, moved, split, _, _, rfl⟩ := step_split stepped
  obtain ⟨inside, _⟩ := List.getElem?_eq_some_iff.mp found
  refine ⟨_, List.getElem?_eq_getElem (i := index) ?_⟩
  rw [split]
  simpa using inside

theorem trace_copied (distinct : ids.Nodup) (sets : ∀ input ∈ schedule, input.2.Sets)
    (traced : trace (initial ids) schedule = some state) {index : Nat}
    (found : state.1.threads[index]? = some thread) (member : metric ∈ thread.point.metrics) :
    Copied (initial ids) schedule index metric := by
  induction schedule using List.reverseRecOn generalizing state thread with
  | nil =>
      cases traced
      obtain ⟨id, _, rfl⟩ := List.mem_map.mp (List.mem_of_getElem? found)
      cases member
  | append_singleton earlier input ih =>
      have before : ∀ input ∈ earlier, input.2.Sets := fun other inside => sets other (List.mem_append_left _ inside)
      rw [trace, Runs.run_append] at traced
      obtain ⟨middle, reached, last⟩ := Option.bind_eq_some_iff.mp traced
      rw [Runs.run, Option.bind_eq_some_iff] at last
      obtain ⟨next, stepped, same⟩ := last
      cases same
      have accounted := trace_accounted distinct before reached
      have moves := tracedStep_step stepped
      obtain ⟨old, there⟩ := thread_before moves found
      rcases step_thread there moves with ⟨same, moved, taken, now⟩ | ⟨_, now⟩
      · obtain ⟨operation, goes, _, _⟩ := move_cases taken
        obtain rfl : moved = thread := Option.some.inj (now.symm.trans found)
        rcases metrics_next goes member with past | ⟨⟨rest, metrics, stage⟩, points⟩
        · exact (ih before reached there past).append [input]
        · have held : .lock metric.inst ∈ old.point.locks := by
            rw [Point.locks, stage]
            exact List.mem_cons_self
          have calm : old.point.updates ≠ some metric.inst := by
            rw [Point.updates, stage]
            intro same
            cases same
          exact ⟨earlier, [input], middle.1, middle.2, old, rest, metrics, rfl, reached, there, stage,
            accounted.settled_of_lock (List.mem_of_getElem? there) held calm points⟩
      · obtain rfl : old = thread := Option.some.inj (now.symm.trans found)
        exact (ih before reached there member).append [input]

/-- However the calls interleave, an instrument that is not being updated accounts for all records since its creation,
with one data point for each set of attributes. Every metric of a dump is the account of one moment of the dump. -/
theorem run_accounts {ids : List Nat} (distinct : ids.Nodup) {schedule : List (Nat × Choice)}
    (sets : ∀ input ∈ schedule, input.2.Sets) {final : Configuration}
    (reached : run (initial ids) schedule = some final) :
    ∃ histories, trace (initial ids) schedule = some (final, histories) ∧
      (∀ inst points, final.shared.data.points inst = some points →
        (∀ thread ∈ final.threads, thread.point.updates ≠ some inst) → Accounts (histories inst) points) ∧
      ∀ index thread, final.threads[index]? = some thread → ∀ metric ∈ thread.point.metrics,
        Copied (initial ids) schedule index metric := by
  obtain ⟨histories, traced⟩ := exists_trace (fun _ => []) reached
  refine ⟨histories, traced, (trace_accounted distinct sets traced).settled, ?_⟩
  intro index thread found metric member
  exact trace_copied distinct sets traced found member

theorem run_accounts_sample : ∃ final histories, trace (initial [0, 1]) sampleSchedule = some (final, histories) ∧
    ∀ index thread, final.threads[index]? = some thread → ∀ metric ∈ thread.point.metrics,
      Copied (initial [0, 1]) sampleSchedule index metric := by
  obtain ⟨final, reached⟩ : ∃ final, run (initial [0, 1]) sampleSchedule = some final := ⟨_, rfl⟩
  have sets : ∀ input ∈ sampleSchedule, input.2.Sets := by simp [sampleSchedule, Choice.Sets, attrSetFromVa]
  obtain ⟨histories, traced, _, copied⟩ := run_accounts (by decide) sets reached
  exact ⟨final, histories, traced, copied⟩

end Runs
end Barton.Metrics
