/-
This file contains the threads that share the instruments and their registry.
-/

import BartonCore.ToMathlib.Cells
import BartonCore.ToMathlib.Locking
import BartonCore.Construction.Observability.Metrics

namespace Barton.Metrics
open Locking (Operation)

/-- An instrument has a mutex of its own. -/
inductive Mutex where
  | registryLock
  | lock (inst : Nat)
  deriving DecidableEq

/-- An instrument lives in a box that counts its references. -/
structure Instrument where
  address : Nat
  name : String
  description : String
  unit : String
  references : Nat
  dataPoints : DataPoints

/-- A reference belongs to a thread, or it is passed between threads, or it is never released. -/
structure Data where
  registry : List Nat
  instruments : List Instrument
  passed : List Nat
  statics : List Nat

/-- The dump copies the fields of an instrument. -/
structure Metric where
  inst : Nat
  name : String
  description : String
  unit : String
  dataPoints : DataPoints

/-- A thread is between two calls or inside a call. A fault uses memory that is freed. -/
inductive Stage where
  | idle
  | registryAdd (inst : Nat)
  | adding (inst : Nat)
  | recording (inst : Nat) (record : Record)
  | searching (inst : Nat) (record : Record)
  | updating (inst : Nat) (record : Record) (index : Nat)
  | registryRemove (inst : Nat)
  | removing (inst : Nat)
  | destroying (inst : Nat)
  | dumping
  | listing (rest : List Nat) (metrics : List Metric)
  | copying (inst : Nat) (rest : List Nat) (metrics : List Metric)
  | dumped (metrics : List Metric)
  | shuttingDown
  | clearing
  | fault

/-- A thread owns references. -/
structure Point where
  owned : List Nat
  stage : Stage

/-- A thread between two calls chooses the next one. -/
inductive Choice where
  | create (type : InstrumentType) (name description unit : Option String) (inst : Nat)
  | record (inst : Option Nat) (arguments : List (Option String)) (measurement : Measurement)
  | acquire (inst : Option Nat)
  | release (inst : Option Nat)
  | give (inst : Nat)
  | take (inst : Nat)
  | keep (inst : Nat)
  | dump
  | shutdown
  | proceed

section
variable (data : Data) (point : Point)

def Data.instrument (inst : Nat) : Option Instrument := Cells.read Instrument.address inst data.instruments

def Data.write (inst : Nat) (update : Instrument → Instrument) : Data :=
  { data with instruments := Cells.write Instrument.address inst update data.instruments }

/-- A step does not touch a mutex. -/
def pass (data : Data) (point : Point) : Option (Operation Mutex × Data × Point) := some (.pass, data, point)

/-- The caller of a function guarantees that its handle stays valid. -/
def usable (inst : Nat) : Bool := point.owned.contains inst || data.statics.contains inst

/-- A freed instrument is a fault. -/
def withInstrument (inst : Nat) (use : Instrument → Option (Operation Mutex × Data × Point)) :
    Option (Operation Mutex × Data × Point) :=
  match data.instrument inst with
  | none => pass data { point with stage := .fault }
  | some instrument => use instrument

/-- The allocator returns an address that is not in use. A null or empty name creates nothing, and a null description
and a null unit have defaults. -/
def create (type : InstrumentType) (name description unit : Option String) (inst : Nat) :
    Option (Operation Mutex × Data × Point) :=
  if name.getD "" = "" then pass data point
  else if (data.instrument inst).isSome then none
  else
    pass { data with
        instruments := data.instruments ++
          [⟨inst, name.getD "", description.getD "", unit.getD "1", 1, .empty type⟩] }
      ⟨inst :: point.owned, .registryAdd inst⟩

/-- A null handle records nothing. -/
def startRecord (inst : Option Nat) (record : Record) : Option (Operation Mutex × Data × Point) :=
  match inst with
  | none => pass data point
  | some inst =>
      if usable data point inst && (data.instrument inst).all (record.measurement.fits ·.dataPoints) then
        pass data { point with stage := .recording inst record }
      else none

/-- This is `g_atomic_rc_box_acquire`. -/
def acquire (inst : Option Nat) : Option (Operation Mutex × Data × Point) :=
  match inst with
  | none => pass data point
  | some inst =>
      if usable data point inst then
        withInstrument data point inst fun _ =>
          pass (data.write inst fun instrument => { instrument with references := instrument.references + 1 })
            { point with owned := inst :: point.owned }
      else none

/-- This is `g_atomic_rc_box_release_full`. The last reference destroys the instrument. -/
def release (inst : Option Nat) : Option (Operation Mutex × Data × Point) :=
  match inst with
  | none => pass data point
  | some inst =>
      if point.owned.contains inst then
        withInstrument data point inst fun instrument =>
          pass (data.write inst fun instrument => { instrument with references := instrument.references - 1 })
            ⟨point.owned.erase inst, if instrument.references = 1 then .registryRemove inst else .idle⟩
      else none

/-- A reference moves between threads outside of the functions. -/
def move (choice : Choice) : Option (Operation Mutex × Data × Point) :=
  match choice with
  | .give inst =>
      if point.owned.contains inst then
        pass { data with passed := inst :: data.passed } { point with owned := point.owned.erase inst }
      else none
  | .take inst =>
      if data.passed.contains inst then
        pass { data with passed := data.passed.erase inst } { point with owned := inst :: point.owned }
      else none
  | .keep inst =>
      if point.owned.contains inst then
        pass { data with statics := inst :: data.statics } { point with owned := point.owned.erase inst }
      else none
  | _ => none

/-- The call that an idle thread starts. -/
def start : Choice → Option (Operation Mutex × Data × Point)
  | .create type name description unit inst => create data point type name description unit inst
  | .record inst arguments measurement => startRecord data point inst ⟨attrSetFromVa arguments, measurement⟩
  | .acquire inst => acquire data point inst
  | .release inst => release data point inst
  | .dump => pass data { point with stage := .dumping }
  | .shutdown => pass data { point with stage := .shuttingDown }
  | choice => move data point choice

/-- The next step of a call. -/
def proceed : Stage → Option (Operation Mutex × Data × Point)
  | .idle => none
  | .registryAdd inst => some (.lock .registryLock, data, { point with stage := .adding inst })
  | .adding inst =>
      some (.unlock .registryLock, { data with registry := inst :: data.registry }, { point with stage := .idle })
  | .recording inst record =>
      withInstrument data point inst fun _ =>
        some (.lock (.lock inst), data, { point with stage := .searching inst record })
  | .searching inst record =>
      withInstrument data point inst fun instrument =>
        let found := instrument.dataPoints.getOrCreate record.attrs
        pass (data.write inst fun instrument => { instrument with dataPoints := found.1 })
          { point with stage := .updating inst record found.2 }
  | .updating inst record index =>
      withInstrument data point inst fun _ =>
        some (.unlock (.lock inst),
          data.write inst fun instrument =>
            { instrument with dataPoints := instrument.dataPoints.update index record.measurement },
          { point with stage := .idle })
  | .registryRemove inst => some (.lock .registryLock, data, { point with stage := .removing inst })
  | .removing inst =>
      some (.unlock .registryLock, { data with registry := data.registry.erase inst },
        { point with stage := .destroying inst })
  | .destroying inst =>
      withInstrument data point inst fun _ =>
        pass { data with instruments := Cells.delete Instrument.address inst data.instruments }
          { point with stage := .idle }
  | .dumping => some (.lock .registryLock, data, { point with stage := .listing data.registry [] })
  | .listing rest metrics =>
      match rest with
      | [] => some (.unlock .registryLock, data, { point with stage := .dumped metrics })
      | inst :: rest =>
          withInstrument data point inst fun _ =>
            some (.lock (.lock inst), data, { point with stage := .copying inst rest metrics })
  | .copying inst rest metrics =>
      withInstrument data point inst fun instrument =>
        let metric : Metric :=
          ⟨inst, instrument.name, instrument.description, instrument.unit, instrument.dataPoints⟩
        some (.unlock (.lock inst), data, { point with stage := .listing rest (metrics ++ [metric]) })
  | .dumped _ => pass data { point with stage := .idle }
  | .shuttingDown => some (.lock .registryLock, data, { point with stage := .clearing })
  | .clearing => some (.unlock .registryLock, { data with registry := [] }, { point with stage := .idle })
  | .fault => none

end

/-- A thread starts a call or goes on with it. -/
def next (data : Data) (point : Point) (choice : Choice) : Option (Operation Mutex × Data × Point) :=
  match point.stage, choice with
  | .idle, choice => start data point choice
  | stage, .proceed => proceed data point stage
  | _, _ => none

abbrev Configuration := Threads.Configuration (Locking.Shared Mutex Data) (Locking.Thread Point)

def step : Configuration → Nat × Choice → Option Configuration := Threads.step (Locking.move next)

def run (current : Configuration) (schedule : List (Nat × Choice)) : Option Configuration :=
  Threads.run (Locking.move next) current schedule

/-- The threads have not called a function yet. -/
def initial (ids : List Nat) : Configuration :=
  ⟨⟨⟨[], [], [], []⟩, fun _ => none⟩, ids.map fun id => ⟨id, [], .idle⟩⟩

end Barton.Metrics
