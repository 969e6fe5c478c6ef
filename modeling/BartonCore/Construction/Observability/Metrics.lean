/-
This file contains the data points of the metrics that stay in memory.
-/

import Mathlib.Tactic

namespace Barton.Metrics

section Attributes

/-- This is `AttrPair`, a key and its value. -/
abbrev AttrPair := String × String

/-- This is `AttrSet`. -/
abbrev AttrSet := List AttrPair

/-- The arguments end at the first null pointer. -/
def attrSetFromVa : List (Option String) → AttrSet
  | some key :: some val :: rest => (key, val) :: attrSetFromVa rest
  | _ => []

/-- Every pair of the one set must be in the other. -/
def attrSetEqual (a b : AttrSet) : Bool :=
  a.length = b.length && a.all fun pairA => b.any fun pairB => pairA = pairB

end Attributes

section DataPoints

/-- A data point keeps the value of one attribute set. -/
structure DataPoint (Value : Type) where
  attrs : AttrSet
  value : Value

section
variable {Value : Type}

/-- The instruments search their data points in the same way. The result holds the index of the point. -/
def getOrCreateDataPoint (fresh : Value) (dataPoints : List (DataPoint Value)) (attrs : AttrSet) :
    List (DataPoint Value) × Nat :=
  match dataPoints.findIdx? fun dp => attrSetEqual dp.attrs attrs with
  | some index => (dataPoints, index)
  | none => (dataPoints ++ [⟨attrs, fresh⟩], dataPoints.length)

/-- An update writes through the pointer to a data point. -/
def updateDataPoint (update : Value → Value) (dataPoints : List (DataPoint Value)) (index : Nat) :
    List (DataPoint Value) :=
  dataPoints.modify index fun dp => { dp with value := update dp.value }

end

def counterGetOrCreateDataPoint : List (DataPoint UInt64) → AttrSet → List (DataPoint UInt64) × Nat :=
  getOrCreateDataPoint 0

def gaugeGetOrCreateDataPoint : List (DataPoint Int64) → AttrSet → List (DataPoint Int64) × Nat :=
  getOrCreateDataPoint 0

def histogramBounds : List Float := [0, 5, 10, 25, 50, 75, 100, 250, 500, 750, 1000, 2500, 5000, 7500, 10000]

def numBounds : Nat := 15

/-- These are the fields of `HistogramDataPoint` besides its attributes. -/
structure HistogramValue where
  count : UInt64
  sum : Float
  min : Float
  max : Float
  buckets : List UInt64

/-- A data point is allocated with zeros. -/
def HistogramValue.zero : HistogramValue := ⟨0, 0, 0, 0, List.replicate (numBounds + 1) 0⟩

def histogramGetOrCreateDataPoint :
    List (DataPoint HistogramValue) → AttrSet → List (DataPoint HistogramValue) × Nat :=
  getOrCreateDataPoint HistogramValue.zero

/-- The bucket is that of the first boundary from the value on, or the overflow bucket. -/
def bucketOf (value : Float) : Nat := histogramBounds.findIdx fun bound => value ≤ bound

def histogramRecordValue (dp : HistogramValue) (value : Float) : HistogramValue :=
  let count := dp.count + 1
  { count := count
    sum := dp.sum + value
    min := if count = 1 then value else if value < dp.min then value else dp.min
    max := if count = 1 then value else if dp.max < value then value else dp.max
    buckets := dp.buckets.modify (bucketOf value) (· + 1) }

end DataPoints

section Instruments

/-- The data points of an instrument have the values of its type. -/
inductive DataPoints where
  | counter (points : List (DataPoint UInt64))
  | gauge (points : List (DataPoint Int64))
  | histogram (points : List (DataPoint HistogramValue))

/-- This is `InstrumentType`. -/
inductive InstrumentType where
  | counter
  | gauge
  | histogram
  deriving DecidableEq

/-- A new instrument has no data points. -/
def DataPoints.empty : InstrumentType → DataPoints
  | .counter => .counter []
  | .gauge => .gauge []
  | .histogram => .histogram []

/-- A recorded value has the type of its instrument. -/
inductive Measurement where
  | add (value : UInt64)
  | record (value : Int64)
  | observe (value : Float)

/-- The handles of the three types are different, so that a value goes to an instrument of its type. -/
def Measurement.fits : Measurement → DataPoints → Bool
  | .add _, .counter _ => true
  | .record _, .gauge _ => true
  | .observe _, .histogram _ => true
  | _, _ => false

/-- The search for a data point of the attribute set. -/
def DataPoints.getOrCreate (attrs : AttrSet) : DataPoints → DataPoints × Nat
  | .counter points =>
      let found := counterGetOrCreateDataPoint points attrs
      (.counter found.1, found.2)
  | .gauge points =>
      let found := gaugeGetOrCreateDataPoint points attrs
      (.gauge found.1, found.2)
  | .histogram points =>
      let found := histogramGetOrCreateDataPoint points attrs
      (.histogram found.1, found.2)

/-- The update of the data point. -/
def DataPoints.update (index : Nat) : Measurement → DataPoints → DataPoints
  | .add value, .counter points => .counter (updateDataPoint (· + value) points index)
  | .record value, .gauge points => .gauge (updateDataPoint (fun _ => value) points index)
  | .observe value, .histogram points => .histogram (updateDataPoint (histogramRecordValue · value) points index)
  | _, points => points

/-- A measurement belongs to an attribute set. -/
structure Record where
  attrs : AttrSet
  measurement : Measurement

end Instruments
end Barton.Metrics
