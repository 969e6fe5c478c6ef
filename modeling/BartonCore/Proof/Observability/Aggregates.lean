import Mathlib
import BartonCore.ToMathlib.Doubles
import BartonCore.ToMathlib.Threads
import BartonCore.Construction.Observability.Metrics

namespace Barton.Metrics
open Threads (mem_middle)

section Attributes

/-- Two sets are equal when they have the same pairs in any order. -/
theorem attrSetEqual_iff {a b : AttrSet} (distinct : a.Nodup) : attrSetEqual a b = true ↔ a.Perm b := by
  unfold attrSetEqual
  simp only [Bool.and_eq_true, decide_eq_true_eq, List.all_eq_true, List.any_eq_true]
  constructor
  · rintro ⟨lengths, inside⟩
    refine (List.subperm_of_subset distinct ?_).perm_of_length_le lengths.ge
    intro pair member
    obtain ⟨other, there, same⟩ := inside pair member
    exact same ▸ there
  · intro perm
    exact ⟨perm.length_eq, fun pair member => ⟨pair, perm.subset member, rfl⟩⟩

end Attributes

section Summaries

/-- The amount that a measurement adds to a counter. -/
def Measurement.added : Measurement → UInt64
  | .add value => value
  | _ => 0

/-- The value that a measurement gives to a gauge. -/
def Measurement.recorded : Measurement → Int64
  | .record value => value
  | _ => 0

/-- The value that a measurement gives to a histogram. -/
def Measurement.observed : Measurement → Float
  | .observe value => value
  | _ => 0

/-- The boundary of a bucket is not below the value, and the boundaries before it are. -/
def InBucket (bucket : Nat) (value : Float) : Prop :=
  (∀ bound ∈ histogramBounds.take bucket, ¬value ≤ bound) ∧ ∀ bound ∈ histogramBounds[bucket]?, value ≤ bound

instance (bucket : Nat) (value : Float) : Decidable (InBucket bucket value) := inferInstanceAs (Decidable (_ ∧ _))

/-- The minimum and the maximum of a histogram ignore nothing. -/
structure Extremes (values : List Float) (value : HistogramValue) : Prop where
  min_mem : value.min ∈ values
  le_min : ∀ other ∈ values, value.min ≤ other
  max_mem : value.max ∈ values
  max_le : ∀ other ∈ values, other ≤ value.max

/-- A histogram counts its values in all and in each bucket. -/
structure Summarizes (values : List Float) (value : HistogramValue) : Prop where
  count : value.count = UInt64.ofNat values.length
  sum : value.sum = values.foldl (· + ·) 0
  buckets : value.buckets = (List.range (numBounds + 1)).map fun bucket =>
    UInt64.ofNat (values.countP fun value => InBucket bucket value)
  extremes : values ≠ [] → values.length ≤ 2 ^ 64 → (∀ other ∈ values, other.isNaN = false) → Extremes values value

theorem findIdx_iff {Item : Type} (items : List Item) (test : Item → Bool) {index : Nat} (inside : index ≤ items.length) :
    ((∀ item ∈ items.take index, ¬test item = true) ∧ ∀ item ∈ items[index]?, test item = true) ↔
      index = items.findIdx test := by
  induction items generalizing index with
  | nil =>
      obtain rfl : index = 0 := Nat.le_zero.mp inside
      simp
  | cons first rest ih =>
      rw [List.findIdx_cons]
      cases index with
      | zero => cases fits : test first <;> simp [fits]
      | succ index =>
          have later := ih (Nat.le_of_succ_le_succ inside)
          cases fits : test first with
          | true => simp [fits]
          | false =>
              simp only [List.take_succ_cons, List.mem_cons, forall_eq_or_imp, fits, Bool.false_eq_true, not_false_eq_true,
                true_and, List.getElem?_cons_succ, cond_false, Nat.add_right_cancel_iff]
              exact later

/-- A value is counted in one bucket. -/
theorem inBucket_iff {bucket : Nat} (inside : bucket ≤ numBounds) (value : Float) :
    InBucket bucket value ↔ bucket = bucketOf value := by
  have found := findIdx_iff histogramBounds (fun bound => decide (value ≤ bound)) inside
  simp only [decide_eq_true_eq] at found
  exact found

theorem count_eq_one {length : Nat} (bounded : length < 2 ^ 64) : UInt64.ofNat (length + 1) = 1 ↔ length = 0 := by
  rw [← UInt64.toNat_inj, UInt64.toNat_ofNat']
  constructor
  · intro same
    have one : (length + 1) % 2 ^ 64 = 1 := same
    omega
  · rintro rfl
    rfl

theorem summarizes_nil : Summarizes [] HistogramValue.zero :=
  ⟨rfl, rfl, by decide, fun nonempty => absurd rfl nonempty⟩

/-- The first value is both extremes. -/
theorem extremes_singleton {value : Float} {dp : HistogramValue} (number : value.isNaN = false) (min : dp.min = value)
    (max : dp.max = value) : Extremes [value] dp := by
  have self := Doubles.le_refl number
  refine ⟨by rw [min]; exact List.mem_singleton_self _, ?_, by rw [max]; exact List.mem_singleton_self _, ?_⟩
  · intro other member
    rw [List.mem_singleton.mp member, min]
    exact self
  · intro other member
    rw [List.mem_singleton.mp member, max]
    exact self

/-- A later value replaces an extreme that it exceeds. -/
theorem Extremes.append {values : List Float} {dp : HistogramValue} {value : Float} (extremes : Extremes values dp)
    (numbers : ∀ other ∈ values, other.isNaN = false) (number : value.isNaN = false) {next : HistogramValue}
    (min : next.min = if value < dp.min then value else dp.min)
    (max : next.max = if dp.max < value then value else dp.max) : Extremes (values ++ [value]) next := by
  have least : next.min ≤ dp.min ∧ next.min ≤ value := by
    rw [min]
    split
    · rename_i below
      exact ⟨Doubles.le_of_lt below, Doubles.le_refl number⟩
    · rename_i above
      have known := numbers _ extremes.min_mem
      exact ⟨Doubles.le_refl known, Doubles.le_of_not_lt known number above⟩
  have greatest : dp.max ≤ next.max ∧ value ≤ next.max := by
    rw [max]
    split
    · rename_i above
      exact ⟨Doubles.le_of_lt above, Doubles.le_refl number⟩
    · rename_i below
      have known := numbers _ extremes.max_mem
      exact ⟨Doubles.le_refl known, Doubles.le_of_not_lt number known below⟩
  refine ⟨?_, ?_, ?_, ?_⟩
  · rw [min]
    split
    · exact List.mem_append_right _ (List.mem_singleton_self _)
    · exact List.mem_append_left _ extremes.min_mem
  · intro other member
    rcases List.mem_append.mp member with old | new
    · exact Doubles.le_trans least.1 (extremes.le_min other old)
    · rw [List.mem_singleton.mp new]
      exact least.2
  · rw [max]
    split
    · exact List.mem_append_right _ (List.mem_singleton_self _)
    · exact List.mem_append_left _ extremes.max_mem
  · intro other member
    rcases List.mem_append.mp member with old | new
    · exact Doubles.le_trans (extremes.max_le other old) greatest.1
    · rw [List.mem_singleton.mp new]
      exact greatest.2

/-- A histogram that records a value summarizes it with the values before. -/
theorem Summarizes.record {values : List Float} {dp : HistogramValue} (summary : Summarizes values dp) (value : Float) :
    Summarizes (values ++ [value]) (histogramRecordValue dp value) := by
  have count : dp.count + 1 = UInt64.ofNat (values.length + 1) := by
    rw [summary.count, UInt64.ofNat_add]
    rfl
  refine ⟨?_, ?_, ?_, ?_⟩
  · rw [List.length_append, List.length_singleton]
    exact count
  · rw [List.foldl_append, ← summary.sum]
    rfl
  · change dp.buckets.modify (bucketOf value) (· + 1) = _
    rw [summary.buckets]
    refine List.ext_getElem? ?_
    intro bucket
    rw [List.getElem?_modify, List.getElem?_map, List.getElem?_map]
    by_cases inside : bucket < numBounds + 1
    · rw [List.getElem?_range inside]
      have here := inBucket_iff (Nat.le_of_lt_succ inside) value
      by_cases same : bucketOf value = bucket
      · simp [List.countP_append, here, same, UInt64.ofNat_add]
      · have differs : ¬InBucket bucket value := fun mine => same (here.mp mine).symm
        simp [List.countP_append, differs, same]
    · rw [List.getElem?_eq_none (by simpa using inside)]
      rfl
  · intro _ bounded numbers
    rw [List.length_append, List.length_singleton] at bounded
    have number := numbers value (by simp)
    have one : UInt64.ofNat (values.length + 1) = 1 ↔ values.length = 0 := count_eq_one (by omega)
    rw [← count] at one
    by_cases first : values = []
    · have single : dp.count + 1 = 1 := one.mpr (by rw [first]; rfl)
      subst first
      exact extremes_singleton number (if_pos single) (if_pos single)
    · have several : ¬dp.count + 1 = 1 := fun single => first (List.length_eq_zero_iff.mp (one.mp single))
      have old := summary.extremes first (by omega) fun other member => numbers other (List.mem_append_left _ member)
      exact old.append (fun other member => numbers other (List.mem_append_left _ member)) number (if_neg several)
        (if_neg several)

end Summaries

section Keys

/-- The measurements of an attribute set in the order of their records. -/
def measured (attrs : AttrSet) (history : List Record) : List Measurement :=
  (history.filter fun record => record.attrs.Perm attrs).map Record.measurement

/-- There is one data point for each attribute set that was recorded. -/
structure Keyed {Value : Type} (holds : List Measurement → Value → Prop) (history : List Record)
    (points : List (DataPoint Value)) : Prop where
  distinct : points.Pairwise fun dp other => ¬dp.attrs.Perm other.attrs
  complete : ∀ record ∈ history, ∃ dp ∈ points, dp.attrs.Perm record.attrs
  recorded : ∀ dp ∈ points, ∃ record ∈ history, record.attrs = dp.attrs
  holds : ∀ dp ∈ points, holds (measured dp.attrs history) dp.value

variable {Value : Type} {holds : List Measurement → Value → Prop} {history : List Record}
  {points : List (DataPoint Value)}

theorem keyed_nil : Keyed holds [] ([] : List (DataPoint Value)) := ⟨List.Pairwise.nil, nofun, nofun, nofun⟩

theorem measured_append (attrs : AttrSet) (record : Record) : measured attrs (history ++ [record]) =
    measured attrs history ++ if record.attrs.Perm attrs then [record.measurement] else [] := by
  unfold measured
  rw [List.filter_append, List.map_append]
  by_cases same : record.attrs.Perm attrs
  · rw [if_pos same, List.filter_cons_of_pos (by simpa using same)]
    rfl
  · rw [if_neg same, List.filter_cons_of_neg (by simpa using same)]
    rfl

/-- The point of an attribute set splits the points, and no other point belongs to the set. -/
theorem Keyed.split (keyed : Keyed holds history points) {before after : List (DataPoint Value)} {dp : DataPoint Value}
    (parts : points = before ++ dp :: after) {attrs : AttrSet} (same : dp.attrs.Perm attrs) {other : DataPoint Value}
    (member : other ∈ before ++ after) : ¬attrs.Perm other.attrs := by
  intro perm
  have distinct := keyed.distinct
  rw [parts, List.pairwise_append, List.pairwise_cons] at distinct
  rcases List.mem_append.mp member with left | right
  · exact distinct.2.2 other left dp List.mem_cons_self ((same.trans perm).symm)
  · exact distinct.2.1.1 other right (same.trans perm)

theorem modify_middle {Item : Type} (update : Item → Item) (before after : List Item) (item : Item) :
    (before ++ item :: after).modify before.length update = before ++ update item :: after := by
  rw [List.modify_eq_take_cons_drop (by simp)]
  simp

/-- The search finds the point of the set or appends one. -/
theorem getOrCreateDataPoint_cases (fresh : Value) (keyed : Keyed holds history points) {attrs : AttrSet}
    (distinct : ∀ record ∈ history, record.attrs.Nodup) :
    (∃ before dp after, points = before ++ dp :: after ∧ dp.attrs.Perm attrs ∧
      getOrCreateDataPoint fresh points attrs = (points, before.length)) ∨
    (∀ dp ∈ points, ¬dp.attrs.Perm attrs) ∧
      getOrCreateDataPoint fresh points attrs = (points ++ [⟨attrs, fresh⟩], points.length) := by
  have equal (dp : DataPoint Value) (member : dp ∈ points) : attrSetEqual dp.attrs attrs = true ↔ dp.attrs.Perm attrs := by
    obtain ⟨record, inside, same⟩ := keyed.recorded dp member
    exact attrSetEqual_iff (same ▸ distinct record inside)
  unfold getOrCreateDataPoint
  cases found : points.findIdx? fun dp => attrSetEqual dp.attrs attrs with
  | none =>
      refine Or.inr ⟨?_, rfl⟩
      intro dp member perm
      have differs := List.findIdx?_eq_none_iff.mp found dp member
      rw [(equal dp member).mpr perm] at differs
      cases differs
  | some index =>
      obtain ⟨inside, matched, _⟩ := List.findIdx?_eq_some_iff_getElem.mp found
      refine Or.inl ⟨points.take index, points[index], points.drop (index + 1), ?_, ?_, ?_⟩
      · rw [List.getElem_cons_drop, List.take_append_drop]
      · exact (equal _ (List.getElem_mem inside)).mp matched
      · rw [List.length_take, Nat.min_eq_left inside.le]

variable {record : Record} {update : Value → Value}

/-- A record of a set that has a point updates the point and keeps the others. -/
theorem Keyed.replaced (keyed : Keyed holds history points) {before after : List (DataPoint Value)}
    {dp : DataPoint Value} (parts : points = before ++ dp :: after) (same : dp.attrs.Perm record.attrs)
    (updates : ∀ measurements value, holds measurements value →
      holds (measurements ++ [record.measurement]) (update value)) :
    Keyed holds (history ++ [record]) (before ++ { dp with value := update dp.value } :: after) := by
  have distinct := keyed.distinct
  rw [parts, List.pairwise_append, List.pairwise_cons] at distinct
  have old (point : DataPoint Value) (elsewhere : point ∈ before ++ after) : point ∈ points :=
    parts ▸ mem_middle.mpr (Or.inr elsewhere)
  have member : dp ∈ points := parts ▸ mem_middle.mpr (Or.inl rfl)
  refine ⟨?_, ?_, ?_, ?_⟩
  · rw [List.pairwise_append, List.pairwise_cons]
    refine ⟨distinct.1, distinct.2.1, ?_⟩
    intro other left another right
    rcases List.mem_cons.mp right with rfl | right
    · exact distinct.2.2 other left dp List.mem_cons_self
    · exact distinct.2.2 other left another (List.mem_cons_of_mem _ right)
  · intro other inside
    rcases List.mem_append.mp inside with known | new
    · obtain ⟨point, there, perm⟩ := keyed.complete other known
      rw [parts] at there
      rcases mem_middle.mp there with rfl | elsewhere
      · exact ⟨_, mem_middle.mpr (Or.inl rfl), perm⟩
      · exact ⟨point, mem_middle.mpr (Or.inr elsewhere), perm⟩
    · rw [List.mem_singleton.mp new]
      exact ⟨_, mem_middle.mpr (Or.inl rfl), same⟩
  · intro point inside
    rcases mem_middle.mp inside with rfl | elsewhere
    · obtain ⟨first, there, equal⟩ := keyed.recorded dp member
      exact ⟨first, List.mem_append_left _ there, equal⟩
    · obtain ⟨first, there, equal⟩ := keyed.recorded point (old point elsewhere)
      exact ⟨first, List.mem_append_left _ there, equal⟩
  · intro point inside
    rw [measured_append]
    rcases mem_middle.mp inside with rfl | elsewhere
    · rw [if_pos same.symm]
      exact updates _ _ (keyed.holds dp member)
    · rw [if_neg (keyed.split parts same elsewhere), List.append_nil]
      exact keyed.holds point (old point elsewhere)

/-- A record of a new set adds a point for it. -/
theorem Keyed.appended {fresh : Value} (keyed : Keyed holds history points)
    (absent : ∀ dp ∈ points, ¬dp.attrs.Perm record.attrs) (empty : holds [] fresh)
    (updates : ∀ measurements value, holds measurements value →
      holds (measurements ++ [record.measurement]) (update value)) :
    Keyed holds (history ++ [record]) (points ++ [⟨record.attrs, update fresh⟩]) := by
  refine ⟨?_, ?_, ?_, ?_⟩
  · rw [List.pairwise_append]
    refine ⟨keyed.distinct, List.pairwise_singleton _ _, ?_⟩
    intro point inside other single
    rw [List.mem_singleton.mp single]
    exact absent point inside
  · intro other inside
    rcases List.mem_append.mp inside with known | new
    · obtain ⟨point, there, perm⟩ := keyed.complete other known
      exact ⟨point, List.mem_append_left _ there, perm⟩
    · rw [List.mem_singleton.mp new]
      exact ⟨_, List.mem_append_right _ (List.mem_singleton_self _), List.Perm.refl _⟩
  · intro point inside
    rcases List.mem_append.mp inside with known | new
    · obtain ⟨first, there, equal⟩ := keyed.recorded point known
      exact ⟨first, List.mem_append_left _ there, equal⟩
    · rw [List.mem_singleton.mp new]
      exact ⟨record, List.mem_append_right _ (List.mem_singleton_self _), rfl⟩
  · intro point inside
    rw [measured_append]
    rcases List.mem_append.mp inside with known | new
    · rw [if_neg fun perm => absent point known perm.symm, List.append_nil]
      exact keyed.holds point known
    · have unmeasured : measured record.attrs history = [] := by
        unfold measured
        rw [List.map_eq_nil_iff, List.filter_eq_nil_iff]
        intro other there perm
        obtain ⟨point, listed, same⟩ := keyed.complete other there
        exact absent point listed (same.trans (of_decide_eq_true perm))
      rw [List.mem_singleton.mp new]
      dsimp only
      rw [if_pos (List.Perm.refl _), unmeasured]
      exact updates _ _ empty

/-- The search and the update together record a measurement. -/
theorem Keyed.measure (fresh : Value) (keyed : Keyed holds history points)
    (distinct : ∀ record ∈ history, record.attrs.Nodup) (empty : holds [] fresh)
    (updates : ∀ measurements value, holds measurements value →
      holds (measurements ++ [record.measurement]) (update value)) :
    Keyed holds (history ++ [record])
      (updateDataPoint update (getOrCreateDataPoint fresh points record.attrs).1
        (getOrCreateDataPoint fresh points record.attrs).2) := by
  unfold updateDataPoint
  rcases getOrCreateDataPoint_cases fresh keyed distinct with ⟨before, dp, after, parts, same, found⟩ | ⟨absent, found⟩
  · rw [found]
    dsimp only
    rw [parts, modify_middle]
    exact keyed.replaced parts same updates
  · rw [found]
    dsimp only
    rw [modify_middle]
    exact keyed.appended absent empty updates

end Keys

section Accounts

/-- A counter is the sum of its measurements, a gauge is the last one, and a histogram summarizes them. -/
def Accounts (history : List Record) : DataPoints → Prop
  | .counter points => Keyed (fun measurements value => value = (measurements.map Measurement.added).sum) history points
  | .gauge points =>
      Keyed (fun measurements value => value = (measurements.map Measurement.recorded).getLastD 0) history points
  | .histogram points =>
      Keyed (fun measurements => Summarizes (measurements.map Measurement.observed)) history points

theorem accounts_empty (type : InstrumentType) : Accounts [] (.empty type) := by
  cases type with
  | counter | gauge | histogram => exact keyed_nil

/-- The critical section of a record accounts for its measurement. -/
theorem Accounts.record {history : List Record} {points : DataPoints} (accounts : Accounts history points)
    (distinct : ∀ record ∈ history, record.attrs.Nodup) {record : Record} (fits : record.measurement.fits points = true) :
    Accounts (history ++ [record])
      ((points.getOrCreate record.attrs).1.update (points.getOrCreate record.attrs).2 record.measurement) := by
  obtain ⟨attrs, measurement⟩ := record
  cases points with
  | counter points =>
      cases measurement with
      | add value =>
          refine Keyed.measure 0 accounts distinct rfl ?_
          rintro measurements _ rfl
          simp [Measurement.added]
      | record | observe => cases fits
  | gauge points =>
      cases measurement with
      | add | observe => cases fits
      | record value =>
          refine Keyed.measure 0 accounts distinct rfl ?_
          rintro measurements _ rfl
          simp [Measurement.recorded]
  | histogram points =>
      cases measurement with
      | add | record => cases fits
      | observe value =>
          refine Keyed.measure HistogramValue.zero accounts distinct summarizes_nil ?_
          intro measurements before summary
          rw [List.map_append]
          exact summary.record value

end Accounts
end Barton.Metrics
