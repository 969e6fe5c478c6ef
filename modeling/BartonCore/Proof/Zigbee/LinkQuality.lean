import BartonCore.Construction.Zigbee.LinkQuality
import BartonCore.ToMathlib.Hysteresis

namespace Barton.LinkQuality
open Hysteresis ZigbeeSubsystemLinkQualityLevel

section Levels
variable {level : ZigbeeSubsystemLinkQualityLevel}

theorem unknown_le (level : ZigbeeSubsystemLinkQualityLevel) : unknown ≤ level := by
  revert level
  rintro (_ | _ | _ | _) <;> decide

theorem le_good (level : ZigbeeSubsystemLinkQualityLevel) : level ≤ good := by
  revert level
  rintro (_ | _ | _ | _) <;> decide

theorem le_fair (lower : level < good) : level ≤ fair := by
  revert level
  rintro (_ | _ | _ | _) <;> decide

theorem eq_fair (lower : level < good) (higher : poor < level) : level = fair := by
  revert level
  rintro (_ | _ | _ | _) <;> decide

theorem poor_le (known : level ≠ unknown) : poor ≤ level := by
  revert level
  rintro (_ | _ | _ | _) <;> decide

theorem eq_unknown_or_poor (lower : level < fair) : level = unknown ∨ level = poor := by
  revert level
  rintro (_ | _ | _ | _) <;> decide

theorem stringToEnum_label (level : ZigbeeSubsystemLinkQualityLevel) :
    zigbeeSubsystemLinkQualityStringToEnum (linkQualityLevelLabels level) = level := by
  cases level <;> rfl

end Levels

/-- The samples are used, and the margins are at most the distance of the thresholds. -/
structure Configuration extends Settings where
  used : useRssiForLinkQuality = true
  ordered : rssiBadThreshold ≤ rssiWarnThreshold
  above_le : (crossAboveDb.toNat : Int) ≤ rssiWarnThreshold.toInt - rssiBadThreshold.toInt
  below_le : (crossBelowDb.toNat : Int) ≤ rssiWarnThreshold.toInt - rssiBadThreshold.toInt

section Exact
variable (settings : Configuration)

/-- The level of a sample of any size. -/
def levelAt (sample : Int) : ZigbeeSubsystemLinkQualityLevel :=
  if sample < settings.rssiBadThreshold.toInt then poor
  else if sample < settings.rssiWarnThreshold.toInt then fair
  else good

theorem calculateLinkQuality_eq (sample : Int8) :
    calculateLinkQuality settings.toSettings sample = levelAt settings sample.toInt := by
  rw [calculateLinkQuality, levelAt]
  simp only [Int8.lt_iff_toInt_lt]

theorem thresholds_ordered : settings.rssiBadThreshold.toInt ≤ settings.rssiWarnThreshold.toInt :=
  Int8.le_iff_toInt_le.mp settings.ordered

variable {settings} {sample : Int}

theorem levelAt_poor (lower : sample < settings.rssiBadThreshold.toInt) : levelAt settings sample = poor := if_pos lower

theorem levelAt_fair (lower : settings.rssiBadThreshold.toInt ≤ sample)
    (upper : sample < settings.rssiWarnThreshold.toInt) : levelAt settings sample = fair := by
  rw [levelAt, if_neg lower.not_gt, if_pos upper]

theorem levelAt_good (higher : settings.rssiWarnThreshold.toInt ≤ sample) : levelAt settings sample = good := by
  rw [levelAt, if_neg ((thresholds_ordered settings).trans higher).not_gt, if_neg higher.not_gt]

theorem fair_le_levelAt : fair ≤ levelAt settings sample ↔ settings.rssiBadThreshold.toInt ≤ sample := by
  rcases lt_or_ge sample settings.rssiBadThreshold.toInt with lower | higher
  · rw [levelAt_poor lower]
    exact iff_of_false (by decide) lower.not_ge
  · refine iff_of_true ?_ higher
    rcases lt_or_ge sample settings.rssiWarnThreshold.toInt with between | best
    · rw [levelAt_fair higher between]
    · rw [levelAt_good best]
      decide

theorem levelAt_lt_good : levelAt settings sample < good ↔ sample < settings.rssiWarnThreshold.toInt := by
  rcases lt_or_ge sample settings.rssiWarnThreshold.toInt with lower | higher
  · refine iff_of_true ?_ lower
    rcases lt_or_ge sample settings.rssiBadThreshold.toInt with worst | between
    · rw [levelAt_poor worst]
      decide
    · rw [levelAt_fair between lower]
      decide
  · rw [levelAt_good higher]
    exact iff_of_false (lt_irrefl _) higher.not_gt

theorem poor_le_levelAt (settings : Configuration) (sample : Int) : poor ≤ levelAt settings sample := by
  rcases lt_or_ge sample settings.rssiBadThreshold.toInt with lower | higher
  · rw [levelAt_poor lower]
  · exact (by decide : poor ≤ fair).trans (fair_le_levelAt.mpr higher)

theorem levelAt_monotone (settings : Configuration) : Monotone (levelAt settings) := by
  intro low high ordered
  rcases lt_or_ge high settings.rssiWarnThreshold.toInt with lower | higher
  · rcases lt_or_ge low settings.rssiBadThreshold.toInt with worst | between
    · rw [levelAt_poor worst]
      exact poor_le_levelAt settings high
    · rw [levelAt_fair between (ordered.trans_lt lower), levelAt_fair (between.trans ordered) lower]
  · rw [levelAt_good higher]
    exact le_good _

/-- No threshold lies between two samples. -/
def SameSide (settings : Configuration) (left right : Int) : Prop :=
  (settings.rssiBadThreshold.toInt ≤ left ↔ settings.rssiBadThreshold.toInt ≤ right) ∧
    (settings.rssiWarnThreshold.toInt ≤ left ↔ settings.rssiWarnThreshold.toInt ≤ right)

theorem levelAt_eq_iff {left right : Int} :
    levelAt settings left = levelAt settings right ↔ SameSide settings left right := by
  constructor
  · intro same
    refine ⟨?_, ?_⟩
    · rw [← fair_le_levelAt, ← fair_le_levelAt, same]
    · rw [← not_lt, ← not_lt, ← levelAt_lt_good, ← levelAt_lt_good, same]
  · rintro ⟨bad, warn⟩
    have badly := not_congr bad
    have warned := not_congr warn
    rw [not_le, not_le] at badly warned
    rw [levelAt, levelAt, if_congr badly rfl (if_congr warned rfl rfl)]

/-- The margins are those of the settings. -/
def margins (settings : Configuration) : Margins Int ZigbeeSubsystemLinkQualityLevel where
  level := levelAt settings
  monotone := levelAt_monotone settings
  above := settings.crossAboveDb.toNat
  above_nonneg := Int.natCast_nonneg _
  below := settings.crossBelowDb.toNat
  below_nonneg := Int.natCast_nonneg _

theorem margins_narrow (settings : Configuration) (hint : ZigbeeSubsystemLinkQualityLevel) :
    (margins settings).Narrow hint where
  below sample lower := by
    have bound := settings.below_le
    rcases (le_good hint).eq_or_lt with rfl | middle
    · exact le_good _
    · have worst : sample < settings.rssiBadThreshold.toInt := by
        rw [← not_le, ← fair_le_levelAt]
        exact fun fairly => ((fairly.trans_lt lower).trans_le (le_fair middle)).false
      have known : fair ≤ hint := by
        have reached := lower
        rw [show (margins settings).level sample = poor from levelAt_poor worst] at reached
        exact (eq_fair middle reached).ge
      refine (le_fair (levelAt_lt_good.mpr ?_)).trans known
      change sample + settings.crossBelowDb.toNat < _
      omega
  above sample higher := by
    have bound := settings.above_le
    rcases lt_or_ge hint fair with lower | fairly
    · refine le_trans ?_ (poor_le_levelAt settings _)
      rcases eq_unknown_or_poor lower with rfl | rfl <;> decide
    · have best : settings.rssiWarnThreshold.toInt ≤ sample := by
        rw [← not_lt, ← levelAt_lt_good]
        exact fun upper => ((fairly.trans_lt higher).trans_le (le_fair upper)).false
      have reached : hint < good := higher.trans_le (le_good _)
      refine (le_fair reached).trans (fair_le_levelAt.mpr ?_)
      change _ ≤ sample - settings.crossAboveDb.toNat
      omega

theorem settle_mem (settings : Configuration) (hint : ZigbeeSubsystemLinkQualityLevel) (sample : Int) :
    (margins settings).settle hint sample ∈ Set.uIcc hint (levelAt settings sample) :=
  (margins settings).settle_mem_uIcc (margins_narrow settings hint) sample

end Exact

section Wrapping
variable (settings : Configuration) (hint : ZigbeeSubsystemLinkQualityLevel) (worst : Int8)

/-- The sample and its margin are above the range of an `int8_t`. -/
def Falls : Prop :=
  levelAt settings worst.toInt < hint ∧ 127 < worst.toInt + settings.crossBelowDb.toNat

/-- The sample without its margin is below the range of an `int8_t`. -/
def Rises : Prop :=
  hint < levelAt settings worst.toInt ∧ worst.toInt - settings.crossAboveDb.toNat < -128

/-- A sample that wraps stays on its side of the thresholds. -/
structure Safe : Prop where
  falls : Falls settings hint worst → SameSide settings (worst.toInt + settings.crossBelowDb.toNat - 256) worst.toInt
  rises : Rises settings hint worst → SameSide settings (worst.toInt - settings.crossAboveDb.toNat + 256) worst.toInt

theorem toInt_ofInt_shift {value : Int} (low : -384 ≤ value) (high : value < 384) :
    (Int8.ofInt value).toInt = if 127 < value then value - 256 else if value < -128 then value + 256 else value := by
  rw [Int8.toInt_ofInt, Int.bmod_def]
  simp only [Int8.size]
  split_ifs <;> omega

variable {settings hint worst}

theorem rssiHealth_falls (falls : Falls settings hint worst) :
    rssiHealth settings.toSettings worst hint =
      levelAt settings (worst.toInt + settings.crossBelowDb.toNat - 256) := by
  have upper := worst.toInt_lt
  have margin := settings.crossBelowDb.toNat_lt
  rw [rssiHealth, calculateLinkQuality_eq, if_pos falls.1, calculateLinkQuality_eq,
    toInt_ofInt_shift (by have := worst.le_toInt; omega) (by omega), if_pos falls.2]

theorem rssiHealth_rises (rises : Rises settings hint worst) :
    rssiHealth settings.toSettings worst hint =
      levelAt settings (worst.toInt - settings.crossAboveDb.toNat + 256) := by
  have lower := worst.le_toInt
  have margin := settings.crossAboveDb.toNat_lt
  have small := rises.2
  rw [rssiHealth, calculateLinkQuality_eq, if_neg rises.1.asymm, if_pos rises.1, calculateLinkQuality_eq,
    toInt_ofInt_shift (by omega) (by omega), if_neg (by omega), if_pos small]

/-- The code follows the exact level unless a sample wraps. -/
theorem rssiHealth_settle (falls : ¬ Falls settings hint worst) (rises : ¬ Rises settings hint worst) :
    rssiHealth settings.toSettings worst hint = (margins settings).settle hint worst.toInt := by
  have lower := worst.le_toInt
  have upper := worst.toInt_lt
  have below := settings.crossBelowDb.toNat_lt
  have above := settings.crossAboveDb.toNat_lt
  rw [rssiHealth, calculateLinkQuality_eq, calculateLinkQuality_eq, calculateLinkQuality_eq]
  rcases lt_trichotomy (levelAt settings worst.toInt) hint with worse | same | better
  · have small : ¬ 127 < worst.toInt + settings.crossBelowDb.toNat := fun large => falls ⟨worse, large⟩
    rw [if_pos worse, toInt_ofInt_shift (by omega) (by omega), if_neg small, if_neg (by omega)]
    exact ((margins settings).settle_of_lt worse).symm
  · rw [if_neg same.not_lt, if_neg same.symm.not_lt]
    exact same.trans ((margins settings).settle_of_eq same).symm
  · have large : ¬ worst.toInt - settings.crossAboveDb.toNat < -128 := fun small => rises ⟨better, small⟩
    rw [if_neg better.asymm, if_pos better, toInt_ofInt_shift (by omega) (by omega), if_neg (by omega), if_neg large]
    exact ((margins settings).settle_of_gt better).symm

/-- Only a fair sample can fall, and only from a good level. -/
theorem Falls.fair (falls : Falls settings hint worst) : levelAt settings worst.toInt = fair := by
  have bound := settings.below_le
  have upper := settings.rssiWarnThreshold.toInt_lt
  have large := falls.2
  refine le_antisymm (le_fair (falls.1.trans_le (le_good hint))) (fair_le_levelAt.mpr ?_)
  omega

/-- A good sample does not rise. -/
theorem Rises.lt_good (rises : Rises settings hint worst) : levelAt settings worst.toInt < good := by
  have bound := settings.above_le
  have lower := settings.rssiBadThreshold.le_toInt
  have small := rises.2
  rw [levelAt_lt_good]
  omega

end Wrapping

section Laws
variable (settings : Configuration) (hint : ZigbeeSubsystemLinkQualityLevel)

/-- The level lies between the previous level and the level of the sample. -/
structure Between (worst : Int8) : Prop where
  known : hint ≠ unknown → rssiHealth settings.toSettings worst hint ∈
    Set.uIcc hint (calculateLinkQuality settings.toSettings worst)
  unknown : hint = unknown → rssiHealth settings.toSettings worst hint ≤ calculateLinkQuality settings.toSettings worst

/-- An unknown level is below every level. -/
theorem between_iff_mem (worst : Int8) : Between settings hint worst ↔
    rssiHealth settings.toSettings worst hint ∈ Set.uIcc hint (levelAt settings worst.toInt) := by
  have level := calculateLinkQuality_eq settings worst
  constructor
  · intro between
    rw [← level]
    by_cases named : hint = unknown
    · rw [named, Set.uIcc_of_le (unknown_le _)]
      exact ⟨unknown_le _, named ▸ between.unknown named⟩
    · exact between.known named
  · intro member
    rw [← level] at member
    refine ⟨fun _ => member, fun named => ?_⟩
    rw [named, Set.uIcc_of_le (unknown_le _)] at member
    rw [named]
    exact member.2

theorem between_iff (worst : Int8) : Between settings hint worst ↔ Safe settings hint worst := by
  rw [between_iff_mem]
  by_cases falls : Falls settings hint worst
  · have stays : ¬ Rises settings hint worst := fun rises => rises.1.asymm falls.1
    have lower : levelAt settings (worst.toInt + settings.crossBelowDb.toNat - 256) ≤ levelAt settings worst.toInt := by
      have margin := settings.crossBelowDb.toNat_lt
      exact levelAt_monotone settings (by omega)
    rw [rssiHealth_falls falls, Set.uIcc_of_ge falls.1.le]
    constructor
    · intro member
      exact ⟨fun _ => levelAt_eq_iff.mp (lower.antisymm member.1), fun rises => absurd rises stays⟩
    · intro safe
      rw [levelAt_eq_iff.mpr (safe.falls falls)]
      exact ⟨le_rfl, falls.1.le⟩
  by_cases rises : Rises settings hint worst
  · have upper : levelAt settings worst.toInt ≤ levelAt settings (worst.toInt - settings.crossAboveDb.toNat + 256) := by
      have margin := settings.crossAboveDb.toNat_lt
      exact levelAt_monotone settings (by omega)
    rw [rssiHealth_rises rises, Set.uIcc_of_le rises.1.le]
    constructor
    · intro member
      exact ⟨fun other => absurd other falls, fun _ => levelAt_eq_iff.mp (member.2.antisymm upper)⟩
    · intro safe
      rw [levelAt_eq_iff.mpr (safe.rises rises)]
      exact ⟨rises.1.le, le_rfl⟩
  rw [rssiHealth_settle falls rises]
  exact iff_of_true (settle_mem settings hint worst.toInt)
    ⟨fun other => absurd other falls, fun other => absurd other rises⟩

/-- A better sample does not have a worse level. -/
def Ordered (low high : Int8) : Prop :=
  low ≤ high → rssiHealth settings.toSettings low hint ≤ rssiHealth settings.toSettings high hint

/-- If only one of two samples wraps, they stay on one side of the thresholds. -/
def OrderedWithin (low high : Int8) : Prop :=
  low ≤ high →
    (Falls settings hint high → ¬ Falls settings hint low →
      SameSide settings (low.toInt + settings.crossBelowDb.toNat) (high.toInt + settings.crossBelowDb.toNat - 256)) ∧
    (Rises settings hint low → ¬ Rises settings hint high →
      SameSide settings (low.toInt - settings.crossAboveDb.toNat + 256) (high.toInt - settings.crossAboveDb.toNat))

variable {settings hint} {low high : Int8}

theorem le_rssiHealth {worst : Int8} (better : hint ≤ levelAt settings worst.toInt) :
    hint ≤ rssiHealth settings.toSettings worst hint := by
  have falls : ¬ Falls settings hint worst := fun falls => falls.1.not_ge better
  by_cases rises : Rises settings hint worst
  · have margin := settings.crossAboveDb.toNat_lt
    rw [rssiHealth_rises rises]
    exact better.trans (levelAt_monotone settings (by omega))
  · have member := settle_mem settings hint worst.toInt
    rw [Set.uIcc_of_le better] at member
    rw [rssiHealth_settle falls rises]
    exact member.1

theorem rssiHealth_le {worst : Int8} (worse : levelAt settings worst.toInt ≤ hint) :
    rssiHealth settings.toSettings worst hint ≤ hint := by
  have rises : ¬ Rises settings hint worst := fun rises => rises.1.not_ge worse
  by_cases falls : Falls settings hint worst
  · have margin := settings.crossBelowDb.toNat_lt
    rw [rssiHealth_falls falls]
    exact le_trans (levelAt_monotone settings (by omega)) worse
  · have member := settle_mem settings hint worst.toInt
    rw [Set.uIcc_of_ge worse] at member
    rw [rssiHealth_settle falls rises]
    exact member.2

theorem settled_ordered (ordered : low.toInt ≤ high.toInt) (lowFalls : ¬ Falls settings hint low)
    (lowRises : ¬ Rises settings hint low) (highFalls : ¬ Falls settings hint high)
    (highRises : ¬ Rises settings hint high) :
    rssiHealth settings.toSettings low hint ≤ rssiHealth settings.toSettings high hint := by
  rw [rssiHealth_settle lowFalls lowRises, rssiHealth_settle highFalls highRises]
  exact (margins settings).settle_monotone (margins_narrow settings hint) ordered

theorem ordered_worse (ordered : low.toInt ≤ high.toInt) (worse : levelAt settings high.toInt < hint) :
    rssiHealth settings.toSettings low hint ≤ rssiHealth settings.toSettings high hint ↔
      (Falls settings hint high → ¬ Falls settings hint low →
        SameSide settings (low.toInt + settings.crossBelowDb.toNat)
          (high.toInt + settings.crossBelowDb.toNat - 256)) := by
  have lowWorse := (levelAt_monotone settings ordered).trans_lt worse
  have lowRises : ¬ Rises settings hint low := fun rises => rises.1.asymm lowWorse
  have highRises : ¬ Rises settings hint high := fun rises => rises.1.asymm worse
  by_cases highFalls : Falls settings hint high
  · by_cases lowFalls : Falls settings hint low
    · refine iff_of_true ?_ fun _ other => absurd lowFalls other
      rw [rssiHealth_falls lowFalls, rssiHealth_falls highFalls]
      exact levelAt_monotone settings (by omega)
    · have back : levelAt settings (high.toInt + settings.crossBelowDb.toNat - 256) ≤
          levelAt settings (low.toInt + settings.crossBelowDb.toNat) := by
        have upper := high.toInt_lt
        have lower := low.le_toInt
        exact levelAt_monotone settings (by omega)
      rw [rssiHealth_falls highFalls, rssiHealth_settle lowFalls lowRises, ← levelAt_eq_iff,
        (margins settings).settle_of_lt lowWorse]
      exact ⟨fun kept _ _ => kept.antisymm back, fun same => (same highFalls lowFalls).le⟩
  · refine iff_of_true (settled_ordered ordered ?_ lowRises highFalls highRises) fun other => absurd other highFalls
    exact fun falls => highFalls ⟨worse, by have large := falls.2; omega⟩

theorem ordered_better (ordered : low.toInt ≤ high.toInt) (better : hint < levelAt settings low.toInt) :
    rssiHealth settings.toSettings low hint ≤ rssiHealth settings.toSettings high hint ↔
      (Rises settings hint low → ¬ Rises settings hint high →
        SameSide settings (low.toInt - settings.crossAboveDb.toNat + 256)
          (high.toInt - settings.crossAboveDb.toNat)) := by
  have highBetter := better.trans_le (levelAt_monotone settings ordered)
  have lowFalls : ¬ Falls settings hint low := fun falls => falls.1.asymm better
  have highFalls : ¬ Falls settings hint high := fun falls => falls.1.asymm highBetter
  by_cases lowRises : Rises settings hint low
  · by_cases highRises : Rises settings hint high
    · refine iff_of_true ?_ fun _ other => absurd highRises other
      rw [rssiHealth_rises lowRises, rssiHealth_rises highRises]
      exact levelAt_monotone settings (by omega)
    · have back : levelAt settings (high.toInt - settings.crossAboveDb.toNat) ≤
          levelAt settings (low.toInt - settings.crossAboveDb.toNat + 256) := by
        have upper := high.toInt_lt
        have lower := low.le_toInt
        exact levelAt_monotone settings (by omega)
      rw [rssiHealth_rises lowRises, rssiHealth_settle highFalls highRises, ← levelAt_eq_iff,
        (margins settings).settle_of_gt highBetter]
      exact ⟨fun kept _ _ => kept.antisymm back, fun same => (same lowRises highRises).le⟩
  · refine iff_of_true (settled_ordered ordered lowFalls lowRises highFalls ?_) fun other => absurd other lowRises
    exact fun rises => lowRises ⟨better, by have small := rises.2; omega⟩

theorem ordered_iff (settings : Configuration) (hint : ZigbeeSubsystemLinkQualityLevel) (low high : Int8) :
    Ordered settings hint low high ↔ OrderedWithin settings hint low high := by
  refine imp_congr_right fun below => ?_
  have ordered : low.toInt ≤ high.toInt := Int8.le_iff_toInt_le.mp below
  have levels := levelAt_monotone settings ordered
  rcases lt_or_ge (levelAt settings high.toInt) hint with worse | notWorse
  · rw [ordered_worse ordered worse]
    exact (and_iff_left fun rises => absurd (levels.trans_lt worse) rises.1.asymm).symm
  rcases lt_or_ge hint (levelAt settings low.toInt) with better | notBetter
  · rw [ordered_better ordered better]
    exact (and_iff_right fun falls => absurd falls.1 notWorse.not_gt).symm
  · refine iff_of_true ((rssiHealth_le notBetter).trans (le_rssiHealth notWorse)) ⟨fun falls => ?_, fun rises => ?_⟩
    · exact absurd falls.1 notWorse.not_gt
    · exact absurd rises.1 notBetter.not_gt

end Laws

section Runs
variable (settings : Configuration)

/-- The worst sample is within the margins of a threshold. A sample that is a whole margin above it has crossed it. -/
def Near (threshold worst : Int8) : Prop :=
  threshold.toInt - settings.crossBelowDb.toNat ≤ worst.toInt ∧
    worst.toInt < threshold.toInt + settings.crossAboveDb.toNat

/-- The signal strength alone decides every level, and every sample is near the threshold. -/
def NearRun (threshold : Int8) (measurements : List Measurement) : Prop :=
  ∀ measured ∈ measurements, usedLqiHealth settings.toSettings measured = unknown ∧
    ∃ worst, worstRssi measured.neRssi measured.feRssi = some worst ∧ Near settings threshold worst

/-- Every sample that wraps stays on its side of the thresholds. -/
def SafeRun : ZigbeeSubsystemLinkQualityLevel → List Measurement → Prop
  | _, [] => True
  | hint, measured :: rest =>
      (∀ worst, worstRssi measured.neRssi measured.feRssi = some worst → Safe settings hint worst) ∧
        SafeRun (nextLevel settings.toSettings hint measured) rest

/-- These are the changes between the levels that are known. -/
def changes (levels : List ZigbeeSubsystemLinkQualityLevel) : Nat :=
  ((levels.filter (· ≠ unknown)).destutter (· ≠ ·)).length - 1

/-- The level changes at most once around one threshold. -/
def Calm (hint : ZigbeeSubsystemLinkQualityLevel) (measurements : List Measurement) : Prop :=
  ∀ threshold ∈ [settings.rssiBadThreshold, settings.rssiWarnThreshold], NearRun settings threshold measurements →
    changes (hint :: levels settings.toSettings hint measurements) ≤ 1

variable {settings} {threshold worst : Int8} {hint : ZigbeeSubsystemLinkQualityLevel} {measured : Measurement}

theorem levelAt_known (settings : Configuration) (sample : Int) : levelAt settings sample ≠ unknown :=
  fun same => absurd (same ▸ poor_le_levelAt settings sample) (by decide)

theorem rssiHealth_known (worst : Int8) (hint : ZigbeeSubsystemLinkQualityLevel) :
    rssiHealth settings.toSettings worst hint ≠ unknown := by
  rw [rssiHealth, calculateLinkQuality_eq, calculateLinkQuality_eq, calculateLinkQuality_eq]
  split_ifs <;> exact levelAt_known settings _

/-- The result is read back as the level of the worst sample. -/
theorem nextLevel_eq (decides : usedLqiHealth settings.toSettings measured = unknown)
    (present : worstRssi measured.neRssi measured.feRssi = some worst) :
    nextLevel settings.toSettings hint measured = rssiHealth settings.toSettings worst hint := by
  have health : usedRssiHealth settings.toSettings measured hint = rssiHealth settings.toSettings worst hint := by
    rw [usedRssiHealth, usedHealth, if_pos settings.used, present, Option.elim_some]
  rw [nextLevel, zigbeeSubsystemDetermineLinkQuality, decides, health, if_neg fun both => both.1 rfl,
    if_neg fun other => other rfl, if_pos (rssiHealth_known worst hint), stringToEnum_label]

/-- Near a threshold the level stays or becomes fair. -/
theorem rssiHealth_near (known : hint ≠ unknown)
    (one : threshold ∈ [settings.rssiBadThreshold, settings.rssiWarnThreshold]) (near : Near settings threshold worst)
    (safe : Safe settings hint worst) :
    rssiHealth settings.toSettings worst hint = hint ∨ rssiHealth settings.toSettings worst hint = fair := by
  have thresholds := thresholds_ordered settings
  have bounded : settings.rssiBadThreshold.toInt ≤ threshold.toInt ∧
      threshold.toInt ≤ settings.rssiWarnThreshold.toInt := by
    rcases List.mem_pair.mp one with rfl | rfl
    · exact ⟨le_rfl, thresholds⟩
    · exact ⟨thresholds, le_rfl⟩
  have lower := near.1
  have upper := near.2
  by_cases falls : Falls settings hint worst
  · right
    rw [rssiHealth_falls falls, levelAt_eq_iff.mpr (safe.falls falls), falls.fair]
  by_cases rises : Rises settings hint worst
  · right
    rw [rssiHealth_rises rises, levelAt_eq_iff.mpr (safe.rises rises)]
    exact eq_fair rises.lt_good ((poor_le known).trans_lt rises.1)
  have member := settle_mem settings hint worst.toInt
  rw [rssiHealth_settle falls rises]
  rcases lt_trichotomy (levelAt settings worst.toInt) hint with worse | same | better
  · rw [Set.uIcc_of_ge worse.le] at member
    rw [(margins settings).settle_of_lt worse] at member ⊢
    have fairly : fair ≤ levelAt settings (worst.toInt + settings.crossBelowDb.toNat) := fair_le_levelAt.mpr (by omega)
    rcases (le_good (levelAt settings (worst.toInt + settings.crossBelowDb.toNat))).eq_or_lt with best | middle
    · exact Or.inl (member.2.antisymm ((le_good hint).trans_eq best.symm))
    · exact Or.inr ((le_fair middle).antisymm fairly)
  · exact Or.inl ((margins settings).settle_of_eq same)
  · rw [Set.uIcc_of_le better.le] at member
    rw [(margins settings).settle_of_gt better] at member ⊢
    have middle : levelAt settings (worst.toInt - settings.crossAboveDb.toNat) < good :=
      levelAt_lt_good.mpr (by omega)
    rcases (le_fair middle).eq_or_lt with fairly | worst_level
    · exact Or.inr fairly
    · have bad := (eq_unknown_or_poor worst_level).resolve_left (levelAt_known settings _)
      exact Or.inl (le_antisymm (bad.trans_le (poor_le known)) member.1)

/-- Every step stays at its level or becomes fair. -/
theorem levels_chain {measurements : List Measurement}
    (one : threshold ∈ [settings.rssiBadThreshold, settings.rssiWarnThreshold])
    (near : NearRun settings threshold measurements) (safe : SafeRun settings hint measurements)
    (known : hint ≠ unknown) :
    (hint :: levels settings.toSettings hint measurements).IsChain fun level next => next = level ∨ next = fair := by
  induction measurements generalizing hint with
  | nil => exact List.isChain_singleton hint
  | cons measured rest ih =>
      obtain ⟨decides, worst, present, close⟩ := near measured List.mem_cons_self
      have next : nextLevel settings.toSettings hint measured = _ := nextLevel_eq decides present
      have reached : nextLevel settings.toSettings hint measured ≠ unknown := by
        rw [next]
        exact rssiHealth_known worst hint
      have later : NearRun settings threshold rest := fun other member => near other (List.mem_cons_of_mem _ member)
      refine List.isChain_cons_cons.mpr ⟨?_, ih later safe.2 reached⟩
      rw [next]
      exact rssiHealth_near known one close (safe.1 worst present)

theorem levels_known {measurements : List Measurement} (near : NearRun settings threshold measurements) :
    ∀ level ∈ levels settings.toSettings hint measurements, level ≠ unknown := by
  induction measurements generalizing hint with
  | nil => exact fun level member => absurd member List.not_mem_nil
  | cons measured rest ih =>
      obtain ⟨decides, worst, present, _⟩ := near measured List.mem_cons_self
      have next : nextLevel settings.toSettings hint measured = _ := nextLevel_eq decides present
      intro level member
      rcases List.mem_cons.mp member with rfl | later
      · rw [next]
        exact rssiHealth_known worst hint
      · exact ih (fun other member => near other (List.mem_cons_of_mem _ member)) level later

theorem changes_le_one {measurements : List Measurement}
    (one : threshold ∈ [settings.rssiBadThreshold, settings.rssiWarnThreshold])
    (near : NearRun settings threshold measurements) (safe : SafeRun settings hint measurements)
    (known : hint ≠ unknown) :
    changes (hint :: levels settings.toSettings hint measurements) ≤ 1 := by
  have every : ∀ level ∈ hint :: levels settings.toSettings hint measurements, decide (level ≠ unknown) = true := by
    intro level member
    rcases List.mem_cons.mp member with rfl | later
    · exact decide_eq_true known
    · exact decide_eq_true (levels_known near level later)
  rw [changes, List.filter_eq_self.mpr every, List.destutter_cons']
  have short : ((levels settings.toSettings hint measurements).destutter' (· ≠ ·) hint).length ≤ 2 := by
    refine length_destutter_le_two fair ?_ ?_ (levels_chain one near safe known)
    · exact fun next moved => moved.elim id id
    · exact fun level next moved => moved
  omega

theorem calm (settings : Configuration) (hint : ZigbeeSubsystemLinkQualityLevel) (measurements : List Measurement)
    (safe : SafeRun settings hint measurements) : Calm settings hint measurements := by
  intro threshold one near
  by_cases known : hint = unknown
  · subst known
    cases measurements with
    | nil => exact Nat.zero_le 1
    | cons measured rest =>
        obtain ⟨decides, worst, present, _⟩ := near measured List.mem_cons_self
        have reached : nextLevel settings.toSettings unknown measured ≠ unknown := by
          rw [nextLevel_eq decides present]
          exact rssiHealth_known worst unknown
        have later : NearRun settings threshold rest := fun other member => near other (List.mem_cons_of_mem _ member)
        have count := changes_le_one one later safe.2 reached
        exact count
  · exact changes_le_one one near safe known

/-- The level follows the samples with the margins, exactly if no sample wraps to another side of a threshold. -/
theorem linkQuality_iff (settings : Configuration) :
    (∀ hint worst, Between settings hint worst ↔ Safe settings hint worst) ∧
      (∀ hint low high, Ordered settings hint low high ↔ OrderedWithin settings hint low high) ∧
      ∀ hint measurements, SafeRun settings hint measurements → Calm settings hint measurements :=
  ⟨between_iff settings, ordered_iff settings, calm settings⟩

end Runs

section Counterexample

/-- These are the defaults of the configuration. -/
def defaultConfiguration : Configuration where
  useLqiForLinkQuality := false
  useRssiForLinkQuality := true
  crossAboveDb := 6
  crossBelowDb := 6
  lqiWarnThreshold := 236
  lqiBadThreshold := 150
  rssiWarnThreshold := -65
  rssiBadThreshold := -75
  used := rfl
  ordered := by decide
  above_le := by decide
  below_le := by decide

theorem not_linkQuality :
    ¬ ∀ settings : Configuration, (∀ hint worst, Between settings hint worst) ∧
      (∀ hint low high, Ordered settings hint low high) ∧ ∀ hint measurements, Calm settings hint measurements := by
  intro always
  have better := ((always defaultConfiguration).1 unknown (-125)).unknown rfl
  exact absurd better (by decide)

end Counterexample
end Barton.LinkQuality
