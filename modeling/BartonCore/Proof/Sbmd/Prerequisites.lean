import BartonCore.Construction.Sbmd.Prerequisites

namespace Barton.Prerequisites

open Endpoints Strtol Dispatch

/-- These are the aliases of a driver by their names. -/
abbrev AliasTable := Text → Option SbmdAlias

section meaning

/-- Some endpoint of the device hosts the cluster. -/
def Hosted (device : MatterDevice) (clusterId : ℤ) : Prop :=
  ∃ cache ∈ device.deviceDataCache, ∃ endpointId ∈ cache.getEndpointIds, ∃ cluster : ClusterId,
    cache.endpointHasServerCluster endpointId cluster = true ∧ (cluster.toNat : ℤ) = clusterId

/-- A numeral stands for its value and another name for the cluster of the alias. -/
def clusterOf (aliases : AliasTable) (prerequisite : Text) : Option ℤ :=
  match signedNumeral prerequisite with
  | some number => some number
  | none => (aliases prerequisite).map fun found => (found.clusterId.toNat : ℤ)

def Met (aliases : AliasTable) (device : MatterDevice) (prerequisite : Text) : Prop :=
  ∃ clusterId ∈ clusterOf aliases prerequisite, Hosted device clusterId

/-- The number is a 32-bit id. -/
def IsClusterId (number : ℤ) : Prop := 0 ≤ number ∧ number < 2 ^ 32

/-- The names matter only if every numeral is found, and then they are aliases of hosted clusters. -/
def Decided (aliases : AliasTable) (resource : SbmdResource) (device : MatterDevice) : Prop :=
  device.deviceDataCache = none ∨
  (∃ prerequisite ∈ resource.prerequisites, signedNumeral prerequisite ≠ none ∧
    ¬ Hosted device (strtoul prerequisite).1.toUInt32.toNat) ∨
  ∀ prerequisite ∈ resource.prerequisites,
    (∀ number ∈ signedNumeral prerequisite, IsClusterId number) ∧
    (signedNumeral prerequisite = none →
      ∃ found ∈ aliases prerequisite, Hosted device found.clusterId.toNat)

end meaning

section check

theorem clusterFound_iff (cache : DeviceDataCache) (clusterId : ClusterId) (endpointIds : List EndpointId) :
    clusterFound cache clusterId endpointIds = true ↔
      ∃ endpointId ∈ endpointIds, cache.endpointHasServerCluster endpointId clusterId = true := by
  induction endpointIds with
  | nil => simp [clusterFound]
  | cons endpointId rest ih =>
      rw [clusterFound]
      split
      next hosted => simp [hosted]
      next unhosted => simp [unhosted, ih]

/-- Only the numerals are looked up. -/
theorem checkEach_iff (cache : DeviceDataCache) (endpointIds : List EndpointId) (prerequisites : List Text) :
    checkEach cache endpointIds prerequisites = true ↔
      ∀ prerequisite ∈ prerequisites, signedNumeral prerequisite ≠ none →
        clusterFound cache (strtoul prerequisite).1.toUInt32 endpointIds = true := by
  induction prerequisites with
  | nil => simp [checkEach]
  | cons prerequisite rest ih =>
      rw [checkEach]
      dsimp only
      rw [List.forall_mem_cons, ← ih]
      split
      next skipped =>
        have name := strtoul_whole_iff.mp skipped
        simp [name]
      next read =>
        have numeral : signedNumeral prerequisite ≠ none := mt strtoul_whole_iff.mpr read
        split
        next found => simp [numeral, found]
        next missing => simp [numeral, missing]

variable {resource : SbmdResource} {device : MatterDevice} {aliases : AliasTable}

/-- A cluster of 32 bits is hosted if the search finds it. -/
theorem hosted_iff {cache : DeviceDataCache} (cached : device.deviceDataCache = some cache)
    (clusterId : ClusterId) :
    Hosted device clusterId.toNat ↔ clusterFound cache clusterId cache.getEndpointIds = true := by
  rw [clusterFound_iff]
  constructor
  · rintro ⟨other, held, endpointId, listed, cluster, hosted, same⟩
    have equal : cache = other := Option.some.inj (cached.symm.trans held)
    have cluster_eq : cluster = clusterId := UInt32.toNat_inj.mp (by exact_mod_cast same)
    subst equal cluster_eq
    exact ⟨endpointId, listed, hosted⟩
  · rintro ⟨endpointId, listed, hosted⟩
    exact ⟨cache, cached, endpointId, listed, clusterId, hosted, rfl⟩

theorem not_hosted_of_none (absent : device.deviceDataCache = none) (clusterId : ℤ) : ¬ Hosted device clusterId := by
  rintro ⟨cache, held, -⟩
  simp [absent] at held

/-- With a cache, the check asks for the narrowed value of every numeral. -/
theorem checkPrerequisites_iff {cache : DeviceDataCache} (cached : device.deviceDataCache = some cache) :
    checkPrerequisites resource device = true ↔
      ∀ prerequisite ∈ resource.prerequisites, signedNumeral prerequisite ≠ none →
        Hosted device (strtoul prerequisite).1.toUInt32.toNat := by
  have each := checkEach_iff cache cache.getEndpointIds resource.prerequisites
  simp only [hosted_iff cached]
  rw [← each]
  unfold checkPrerequisites
  split
  next empty => simp [List.isEmpty_iff.mp empty, checkEach]
  next => rw [cached]

/-- A cluster id is a number of 32 bits. -/
theorem Hosted.isClusterId {clusterId : ℤ} (hosted : Hosted device clusterId) : IsClusterId clusterId := by
  obtain ⟨cache, -, endpointId, -, cluster, -, rfl⟩ := hosted
  have small := cluster.toNat_lt
  exact ⟨by omega, by omega⟩

/-- The value of a numeral of 32 bits is not changed by the narrowing. -/
theorem narrowed_value {prerequisite : Text} {number : ℤ} (reads : signedNumeral prerequisite = some number)
    (fits : IsClusterId number) : ((strtoul prerequisite).1.toUInt32.toNat : ℤ) = number := by
  obtain ⟨nonneg, small⟩ := fits
  have value := strtoul_value reads nonneg (by omega)
  rw [UInt64.toNat_toUInt32, Nat.mod_eq_of_lt (by omega)]
  exact value

/-- A numeral that is met is found by the check. -/
theorem Met.found {prerequisite : Text} (met : Met aliases device prerequisite)
    (numeral : signedNumeral prerequisite ≠ none) :
    Hosted device (strtoul prerequisite).1.toUInt32.toNat := by
  obtain ⟨number, reads⟩ := Option.ne_none_iff_exists'.mp numeral
  obtain ⟨clusterId, stands, hosted⟩ := met
  have same : number = clusterId := by
    simpa [clusterOf, reads] using stands
  subst same
  rw [narrowed_value reads hosted.isClusterId]
  exact hosted

/-- What a numeral of 32 bits and a name stand for. -/
theorem met_iff {prerequisite : Text} : Met aliases device prerequisite ↔
    (∀ number ∈ signedNumeral prerequisite, IsClusterId number ∧ Hosted device number) ∧
    (signedNumeral prerequisite = none →
      ∃ found ∈ aliases prerequisite, Hosted device found.clusterId.toNat) := by
  unfold Met clusterOf
  cases reads : signedNumeral prerequisite with
  | none =>
      cases aliases prerequisite <;> simp
  | some number =>
      simp only [Option.mem_def, Option.some.injEq, exists_eq_left', forall_eq', reduceCtorEq, false_implies,
        and_true]
      exact ⟨fun hosted => ⟨hosted.isClusterId, hosted⟩, And.right⟩

end check

section agreement

/-- The check is right: it accepts exactly the resources whose prerequisites are all met. -/
def Enforced (aliases : AliasTable) (resource : SbmdResource) (device : MatterDevice) : Prop :=
  checkPrerequisites resource device = true ↔
    ∀ prerequisite ∈ resource.prerequisites, Met aliases device prerequisite

variable (aliases : AliasTable) (resource : SbmdResource) (device : MatterDevice)

/-- A device without a cache meets no prerequisite. -/
theorem enforced_of_none (absent : device.deviceDataCache = none) : Enforced aliases resource device := by
  unfold Enforced checkPrerequisites
  rw [absent]
  have unmet : ∀ prerequisite, ¬ Met aliases device prerequisite := by
    rintro prerequisite ⟨clusterId, -, hosted⟩
    exact not_hosted_of_none absent clusterId hosted
  cases resource.prerequisites with
  | nil => simp
  | cons prerequisite rest =>
      simp only [List.isEmpty_cons, Bool.false_eq_true, if_false, false_iff]
      exact fun met => unmet prerequisite (met prerequisite List.mem_cons_self)

/-- Where every numeral is found, the prerequisites are met if the names are and the numerals are ids. -/
theorem met_all_iff
    (found : ∀ prerequisite ∈ resource.prerequisites, signedNumeral prerequisite ≠ none →
      Hosted device (strtoul prerequisite).1.toUInt32.toNat) :
    (∀ prerequisite ∈ resource.prerequisites, Met aliases device prerequisite) ↔
      ∀ prerequisite ∈ resource.prerequisites,
        (∀ number ∈ signedNumeral prerequisite, IsClusterId number) ∧
        (signedNumeral prerequisite = none →
          ∃ found ∈ aliases prerequisite, Hosted device found.clusterId.toNat) := by
  refine forall₂_congr fun prerequisite listed => ?_
  rw [met_iff]
  refine and_congr_left' (forall₂_congr fun number reads => ?_)
  constructor
  · exact And.left
  · intro fits
    have hosted := found prerequisite listed (Option.ne_none_iff_exists'.mpr ⟨number, reads⟩)
    rw [narrowed_value reads fits] at hosted
    exact ⟨fits, hosted⟩

/-- The check is wrong exactly if it finds every numeral and a name or an oversized numeral is not met. -/
theorem enforced_of_cache {cache : DeviceDataCache} (cached : device.deviceDataCache = some cache) :
    Enforced aliases resource device ↔ Decided aliases resource device := by
  have cases_eq : Decided aliases resource device ↔
      ((∀ prerequisite ∈ resource.prerequisites, signedNumeral prerequisite ≠ none →
        Hosted device (strtoul prerequisite).1.toUInt32.toNat) →
      ∀ prerequisite ∈ resource.prerequisites,
        (∀ number ∈ signedNumeral prerequisite, IsClusterId number) ∧
        (signedNumeral prerequisite = none →
          ∃ found ∈ aliases prerequisite, Hosted device found.clusterId.toNat)) := by
    rw [imp_iff_not_or]
    simp only [Decided, cached, reduceCtorEq, false_or, not_forall, exists_prop]
  rw [cases_eq, Enforced, checkPrerequisites_iff cached]
  constructor
  · intro agrees found
    exact (met_all_iff aliases resource device found).mp (agrees.mp found)
  · intro names
    constructor
    · exact fun found => (met_all_iff aliases resource device found).mpr (names found)
    · exact fun met prerequisite listed numeral => (met prerequisite listed).found numeral

/-- The check enforces the prerequisites if and only if the names and the large numerals do not matter. -/
theorem checkPrerequisites_enforced_iff : Enforced aliases resource device ↔ Decided aliases resource device := by
  cases cached : device.deviceDataCache with
  | none =>
      exact iff_of_true (enforced_of_none aliases resource device cached) (Or.inl cached)
  | some cache => exact enforced_of_cache aliases resource device cached

/-- The device has a root endpoint with a Descriptor cluster only. -/
def rootDevice : MatterDevice :=
  ⟨some ⟨some fun _ => AList.insert descriptor ⟨some [], none⟩ ∅⟩, ∅⟩

/-- The name `lock` is an event alias of the door lock cluster. -/
def lockAliases : AliasTable := fun name =>
  if name = ['l', 'o', 'c', 'k'] then some ⟨0x0101, none, some 0x0002, none⟩ else none

/-- The prerequisite is an alias of a cluster that the device does not have, and the check accepts it. -/
theorem not_enforced : ¬ ∀ (aliases : AliasTable) (resource : SbmdResource) (device : MatterDevice),
    Enforced aliases resource device := by
  intro enforced
  have met := (enforced lockAliases ⟨[['l', 'o', 'c', 'k']]⟩ rootDevice).mp (by decide) _ List.mem_cons_self
  have name : signedNumeral ['l', 'o', 'c', 'k'] = none := by decide
  obtain ⟨found, listed, hosted⟩ := (met_iff.mp met).2 name
  simp only [lockAliases, if_true, Option.mem_def, Option.some.injEq] at listed
  subst listed
  have lock : Hosted rootDevice (0x0101 : ClusterId).toNat := hosted
  have searched := (hosted_iff rfl _).mp lock
  exact absurd searched (by decide)

end agreement

end Barton.Prerequisites
