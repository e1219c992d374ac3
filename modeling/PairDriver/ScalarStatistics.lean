/-
This file models the statistics that the driver keeps of every scalar input: the streaming
mean and variance, the observed range, the drift test, the rolling minimum at rest and, for
a stick, the histogram of its radii by direction. The axis X of a stick owns the histogram;
a sample of either axis enters it together with the last value of the other. A reset wipes
the statistics of one input.

Numbers are exact here. The radius and the direction of a point are parameters, since they
come from the mathematical library. After any run the statistics of an input are those of
the samples since its last reset.
-/

import PairDriver.InputComponents
import PairDriver.MaximalSuffix
import PairDriver.StreamingMoments

namespace PairDriver.InputHealth.Scalar

open StreamingMoments

/-! ### Mean and variance -/

/-- `WelfordState`. -/
abbrev WelfordState := Moments Rat

def welfordUpdate (s : WelfordState) (x : Rat) : WelfordState :=
  let count := s.count + 1
  let delta := x - s.mean
  let mean := s.mean + delta / count
  let delta2 := x - mean
  { count, mean, m2 := s.m2 + delta * delta2 }

def sampleVariance (s : WelfordState) : Rat :=
  if s.count < 2 then 0 else s.m2 / (s.count - 1 : Nat)

/-! ### Drift -/

structure PageHinkleyState where
  mean : Rat := 0
  phPos : Rat := 0
  phNeg : Rat := 0
  initialized : Bool := false
  triggered : Bool := false
  triggeredPositive : Bool := false
deriving DecidableEq

structure PageHinkleyParams where
  alpha : Rat
  delta : Rat
  lambda : Rat
  oneSidedPositive : Bool

/-- The reference and the two accumulators after a sample. -/
def PageHinkleyState.nextMean (p : PageHinkleyParams) (s : PageHinkleyState) (x : Rat) : Rat :=
  if s.initialized then (1 - p.alpha) * s.mean + p.alpha * x else x

def PageHinkleyState.nextPos (p : PageHinkleyParams) (s : PageHinkleyState) (x : Rat) : Rat :=
  max 0 (s.phPos + (x - s.nextMean p x - p.delta))

def PageHinkleyState.nextNeg (p : PageHinkleyParams) (s : PageHinkleyState) (x : Rat) : Rat :=
  if p.oneSidedPositive then s.phNeg else max 0 (s.phNeg - (x - s.nextMean p x + p.delta))

/-- The state after a sample, and whether it is the one that first crosses the threshold. -/
def pageHinkleyUpdate (p : PageHinkleyParams) (s : PageHinkleyState) (x : Rat) :
    PageHinkleyState × Bool :=
  let next := { s with
    mean := s.nextMean p x
    phPos := s.nextPos p x
    phNeg := s.nextNeg p x
    initialized := true }
  if s.triggered = false ∧ s.nextPos p x > p.lambda then
    ({ next with triggered := true, triggeredPositive := true }, true)
  else if s.triggered = false ∧ p.oneSidedPositive = false ∧ s.nextNeg p x > p.lambda then
    ({ next with triggered := true, triggeredPositive := false }, true)
  else (next, false)

/-- `DefaultDriftParams`. -/
def defaultDriftParams : PageHinkleyParams where
  alpha := 1 / 10000
  delta := 2 / 1000
  lambda := 5 / 100
  oneSidedPositive := false

/-! ### Rolling minimum -/

structure EWMARollingMinState where
  value : Rat := 0
  initialized : Bool := false
deriving DecidableEq

def clampUnit (value : Rat) : Rat :=
  let value := if value < 0 then 0 else value
  if value > 1 then 1 else value

def ewmaRollingMinUpdate (s : EWMARollingMinState) (x decay : Rat) : EWMARollingMinState :=
  let decay := clampUnit decay
  if !s.initialized then { value := x, initialized := true }
  else if x < s.value then { s with value := x }
  else { s with value := (1 - decay) * s.value + decay * x }

/-- `kRestMinDecay`. -/
def kRestMinDecay : Rat := 32 / 1000000000

/-- `kRestThreshold`. -/
def kRestThreshold : Rat := 1 / 10

/-! ### Histogram -/

def kBinCount : Nat := 36

def kPerBinCap : Nat := 256

structure PolarBin where
  maxR : Rat := 0
  count : Nat := 0
  lastUpdateUs : UInt64 := 0
deriving DecidableEq

structure PolarHistogramState where
  bins : Fin kBinCount → PolarBin := fun _ => {}
  globalMaxR : Rat := 0

/-- `std::hypot`, and the bin of the angle that `std::atan2` gives. -/
structure Plane where
  radius : Rat → Rat → Rat
  bin : Rat → Rat → Fin kBinCount

/-- A bin after a sample with a radius. -/
def PolarBin.update (b : PolarBin) (rf : Rat) (timestampUs : UInt64) (saturatedDecay : Rat) :
    PolarBin :=
  if b.count < kPerBinCap then
    { maxR := if rf > b.maxR then rf else b.maxR
      count := b.count + 1
      lastUpdateUs := timestampUs }
  else
    let decay := clampUnit saturatedDecay
    let blended := (1 - decay) * b.maxR + decay * rf
    { maxR := if rf > b.maxR then rf else blended
      count := b.count
      lastUpdateUs := timestampUs }

def polarHistogramUpdate (plane : Plane) (s : PolarHistogramState) (x y : Rat)
    (timestampUs : UInt64) (saturatedDecay : Rat) : PolarHistogramState :=
  let b := (s.bins (plane.bin x y)).update (plane.radius x y) timestampUs saturatedDecay
  { bins := Function.update s.bins (plane.bin x y) b
    globalMaxR := if b.maxR > s.globalMaxR then b.maxR else s.globalMaxR }

/-! ### One input -/

/-- The scalar part of `ComponentStats`. -/
structure ScalarStats where
  welford : WelfordState := Moments.none
  scalarRangeInitialized : Bool := false
  observedMin : Rat := 0
  observedMax : Rat := 0
  phDrift : PageHinkleyState := {}
  restMin : EWMARollingMinState := {}
  lastValue : Rat := 0
  lastUpdateUs : UInt64 := 0
  axisRole : AxisRole := .unpaired
  partnerHandle : UInt64 := 0
  polar : PolarHistogramState := {}

/-- What of `ComponentStatsResetPassive` concerns a scalar. -/
def ScalarStats.resetPassive (s : ScalarStats) : ScalarStats :=
  { axisRole := s.axisRole, partnerHandle := s.partnerHandle }

/-- The part of `ObserveScalarSample` that needs no partner. -/
def ScalarStats.observe (stats : ScalarStats) (newValue : Rat) (nowUs : UInt64) : ScalarStats :=
  { stats with
    welford := welfordUpdate stats.welford newValue
    scalarRangeInitialized := true
    observedMin :=
      if stats.scalarRangeInitialized then
        if newValue < stats.observedMin then newValue else stats.observedMin
      else newValue
    observedMax :=
      if stats.scalarRangeInitialized then
        if newValue > stats.observedMax then newValue else stats.observedMax
      else newValue
    phDrift := (pageHinkleyUpdate defaultDriftParams stats.phDrift newValue).1
    restMin :=
      if newValue < kRestThreshold ∧ newValue > -kRestThreshold then
        ewmaRollingMinUpdate stats.restMin newValue kRestMinDecay
      else stats.restMin
    lastValue := newValue
    lastUpdateUs := nowUs }

/-- `PolarHistogramUpdate` on the histogram of an input. -/
def ScalarStats.plot (plane : Plane) (stats : ScalarStats) (x y : Rat) (nowUs : UInt64) :
    ScalarStats :=
  { stats with polar := polarHistogramUpdate plane stats.polar x y nowUs kRestMinDecay }

/-- The inputs by handle. -/
abbrev Statistics := UInt64 → Option ScalarStats

/-- `ObserveScalarSample` on the map: the histogram of an axis X takes the last value of the
partner, and an axis Y writes into the histogram of its partner if that is an axis X. -/
def observeScalarSample (plane : Plane) (components : Statistics) (handle : UInt64)
    (newValue : Rat) (nowUs : UInt64) : Statistics :=
  match components handle with
  | none => components
  | some stats =>
    match stats.axisRole, components stats.partnerHandle with
    | .unpaired, _ | .stickY, none =>
      Function.update components handle (some (stats.observe newValue nowUs))
    | .stickX, partner =>
      let partnerY := (partner.map ScalarStats.lastValue).getD 0
      Function.update components handle
        (some ((stats.plot plane newValue partnerY nowUs).observe newValue nowUs))
    | .stickY, some partner =>
      let observed := Function.update components handle (some (stats.observe newValue nowUs))
      if partner.axisRole = .stickX then
        Function.update observed stats.partnerHandle
          (some (partner.plot plane partner.lastValue newValue nowUs))
      else observed

/-- The wipe of one input. -/
def resetPassive (components : Statistics) (handle : UInt64) : Statistics :=
  Function.update components handle ((components handle).map ScalarStats.resetPassive)

/-- What a registration does to an entry: it sets the role and the partner, and keeps the
statistics of a handle that is known already. -/
def pairAxis (components : Statistics) (handle : UInt64) (role : AxisRole)
    (partnerHandle : UInt64) : Statistics :=
  Function.update components handle
    (some { (components handle).getD {} with
      axisRole := role
      partnerHandle := partnerHandle })

/-- What the driver sees. -/
inductive Event where
  | pair (handle : UInt64) (role : AxisRole) (partnerHandle : UInt64)
  | sample (handle : UInt64) (newValue : Rat) (nowUs : UInt64)
  | reset (handle : UInt64)

def observe (plane : Plane) (components : Statistics) : Event → Statistics
  | .pair handle role partnerHandle => pairAxis components handle role partnerHandle
  | .sample handle newValue nowUs => observeScalarSample plane components handle newValue nowUs
  | .reset handle => resetPassive components handle

/-- The statistics after a list of events, from the start. -/
def statistics (plane : Plane) (events : List Event) : Statistics :=
  events.foldl (observe plane) fun _ => none

/-! ### Each statistic of a list of samples -/

/-- The drift test over a list of samples. -/
def driftOf (p : PageHinkleyParams) (samples : List Rat) : PageHinkleyState :=
  samples.foldl (fun s x => (pageHinkleyUpdate p s x).1) {}

/-- The reference after a list of samples, from one before. -/
def referenceOf (p : PageHinkleyParams) (before : Option Rat) (samples : List Rat) : Option Rat :=
  samples.foldl (fun mean x => some (mean.elim x fun mean => (1 - p.alpha) * mean + p.alpha * x))
    before

/-- The distance of a sample from the reference it has moved. -/
def deviation (p : PageHinkleyParams) (before : Option Rat) (x : Rat) : Rat :=
  x - before.elim x fun mean => (1 - p.alpha) * mean + p.alpha * x

/-- The deviations of a list of samples. -/
def driftDeviations (p : PageHinkleyParams) (before : Option Rat) : List Rat → List Rat
  | [] => []
  | x :: rest => deviation p before x :: driftDeviations p (referenceOf p before [x]) rest

theorem referenceOf_append (p : PageHinkleyParams) (before : Option Rat)
    (first second : List Rat) :
    referenceOf p before (first ++ second) = referenceOf p (referenceOf p before first) second :=
  List.foldl_append

theorem driftDeviations_snoc (p : PageHinkleyParams) (before : Option Rat) (samples : List Rat)
    (x : Rat) :
    driftDeviations p before (samples ++ [x]) =
      driftDeviations p before samples ++ [deviation p (referenceOf p before samples) x] := by
  induction samples generalizing before with
  | nil => rfl
  | cons first rest inductionHypothesis =>
    rw [List.cons_append, driftDeviations, driftDeviations, inductionHypothesis,
      ← referenceOf_append]
    rfl

theorem driftOf_snoc (p : PageHinkleyParams) (samples : List Rat) (x : Rat) :
    driftOf p (samples ++ [x]) = (pageHinkleyUpdate p (driftOf p samples) x).1 :=
  List.foldl_concat _ _ _ _

/-- What a positive and a negative deviation add to the accumulators. -/
def upward (p : PageHinkleyParams) (deviations : List Rat) : List Rat :=
  deviations.map fun dev => dev - p.delta

def downward (p : PageHinkleyParams) (deviations : List Rat) : List Rat :=
  deviations.map fun dev => -(dev + p.delta)

/-- One of the accumulators is past the threshold. -/
def Crossed (p : PageHinkleyParams) (deviations : List Rat) : Prop :=
  p.lambda < MaximalSuffix.level (upward p deviations) ∨
    p.oneSidedPositive = false ∧ p.lambda < MaximalSuffix.level (downward p deviations)

/-- What the state of the drift test says of the samples. -/
structure Drifts (p : PageHinkleyParams) (samples : List Rat) (s : PageHinkleyState) : Prop where
  initialized : s.initialized = (referenceOf p none samples).isSome
  mean : ∀ mean, referenceOf p none samples = some mean → s.mean = mean
  phPos : s.phPos = MaximalSuffix.level (upward p (driftDeviations p none samples))
  phNeg : p.oneSidedPositive = false →
    s.phNeg = MaximalSuffix.level (downward p (driftDeviations p none samples))
  triggered : s.triggered = true ↔
    ∃ seen, seen ≠ [] ∧ seen <+: driftDeviations p none samples ∧ Crossed p seen

theorem crossed_snoc (p : PageHinkleyParams) (deviations : List Rat) (dev : Rat) :
    (∃ seen, seen ≠ [] ∧ seen <+: deviations ++ [dev] ∧ Crossed p seen) ↔
      (∃ seen, seen ≠ [] ∧ seen <+: deviations ∧ Crossed p seen) ∨
        Crossed p (deviations ++ [dev]) := by
  constructor
  · rintro ⟨seen, some, inside, crossed⟩
    rcases List.prefix_concat_iff.mp inside with rfl | earlier
    · exact Or.inr crossed
    · exact Or.inl ⟨seen, some, earlier, crossed⟩
  · rintro (⟨seen, some, inside, crossed⟩ | crossed)
    · exact ⟨seen, some, inside.trans (List.prefix_append _ _), crossed⟩
    · exact ⟨_, List.append_ne_nil_of_right_ne_nil _ (List.cons_ne_nil _ _),
        List.prefix_refl _, crossed⟩

theorem drifts_nil (p : PageHinkleyParams) : Drifts p [] {} where
  initialized := rfl
  mean := fun _ none => absurd none (Option.some_ne_none _).symm
  phPos := rfl
  phNeg := fun _ => rfl
  triggered := iff_of_false Bool.false_ne_true fun ⟨_, nonempty, inside, _⟩ =>
    nonempty (List.prefix_nil.mp inside)

theorem pageHinkleyUpdate_fields (p : PageHinkleyParams) (s : PageHinkleyState) (x : Rat) :
    (pageHinkleyUpdate p s x).1.initialized = true ∧
      (pageHinkleyUpdate p s x).1.mean = s.nextMean p x ∧
      (pageHinkleyUpdate p s x).1.phPos = s.nextPos p x ∧
      (pageHinkleyUpdate p s x).1.phNeg = s.nextNeg p x := by
  unfold pageHinkleyUpdate
  split_ifs <;> exact ⟨rfl, rfl, rfl, rfl⟩

theorem pageHinkleyUpdate_triggered (p : PageHinkleyParams) (s : PageHinkleyState) (x : Rat) :
    (pageHinkleyUpdate p s x).1.triggered = true ↔ s.triggered = true ∨
      p.lambda < s.nextPos p x ∨ p.oneSidedPositive = false ∧ p.lambda < s.nextNeg p x := by
  unfold pageHinkleyUpdate
  split_ifs with up down
  · exact iff_of_true rfl (Or.inr (Or.inl up.2))
  · exact iff_of_true rfl (Or.inr (Or.inr down.2))
  · constructor
    · exact Or.inl
    · rintro (latched | past)
      · exact latched
      · by_contra idle
        have fresh := Bool.eq_false_iff.mpr idle
        rcases past with above | below
        · exact up ⟨fresh, above⟩
        · exact down ⟨fresh, below⟩

theorem drifts_snoc {p : PageHinkleyParams} {samples : List Rat} {s : PageHinkleyState}
    (drifts : Drifts p samples s) (x : Rat) :
    Drifts p (samples ++ [x]) (pageHinkleyUpdate p s x).1 := by
  obtain ⟨initialized, mean, phPos, phNeg, triggered⟩ := drifts
  obtain ⟨begun, follows, rises, falls⟩ := pageHinkleyUpdate_fields p s x
  have reference : referenceOf p none (samples ++ [x]) = some (s.nextMean p x) := by
    rw [referenceOf_append, PageHinkleyState.nextMean]
    cases before : referenceOf p none samples with
    | none =>
      rw [before] at initialized
      rw [initialized]
      rfl
    | some last =>
      rw [before] at initialized
      rw [initialized, mean last before]
      rfl
  have dev : x - s.nextMean p x = deviation p (referenceOf p none samples) x := by
    rw [referenceOf_append] at reference
    rw [deviation]
    exact congrArg (x - ·) (Option.some.inj reference).symm
  have up : s.nextPos p x =
      MaximalSuffix.level (upward p (driftDeviations p none (samples ++ [x]))) := by
    rw [PageHinkleyState.nextPos, dev, driftDeviations_snoc, upward, List.map_append,
      List.map_singleton, MaximalSuffix.level_append, MaximalSuffix.raise, phPos, upward]
  have down (both : p.oneSidedPositive = false) : s.nextNeg p x =
      MaximalSuffix.level (downward p (driftDeviations p none (samples ++ [x]))) := by
    rw [PageHinkleyState.nextNeg, both, if_neg Bool.false_ne_true, dev, driftDeviations_snoc,
      downward, List.map_append, List.map_singleton, MaximalSuffix.level_append,
      MaximalSuffix.raise, phNeg both, downward, sub_eq_add_neg]
  refine ⟨begun.trans (by rw [reference]; rfl), fun last same => ?_, rises.trans up,
    fun both => falls.trans (down both), ?_⟩
  · rw [follows]
    exact Option.some.inj (reference.symm.trans same)
  · rw [pageHinkleyUpdate_triggered, triggered, driftDeviations_snoc, crossed_snoc,
      ← driftDeviations_snoc, Crossed, up]
    refine or_congr_right (or_congr_right (and_congr_right fun both => ?_))
    rw [down both]

theorem drifts_driftOf (p : PageHinkleyParams) (samples : List Rat) :
    Drifts p samples (driftOf p samples) := by
  induction samples using List.reverseRecOn with
  | nil => exact drifts_nil p
  | append_singleton samples x inductionHypothesis =>
    rw [driftOf_snoc]
    exact drifts_snoc inductionHypothesis x

/-- The test has fired exactly if the deviations of some consecutive samples sum up past the
threshold, after the slack is taken off each. -/
theorem driftOf_triggered_iff (p : PageHinkleyParams) (nonneg : 0 ≤ p.lambda)
    (samples : List Rat) :
    (driftOf p samples).triggered = true ↔
      ∃ window, window ≠ [] ∧ window <:+: driftDeviations p none samples ∧
        (p.lambda < (upward p window).sum ∨
          p.oneSidedPositive = false ∧ p.lambda < (downward p window).sum) := by
  have windows (step : Rat → Rat) (seen : List Rat) :
      p.lambda < MaximalSuffix.level (seen.map step) ↔
        ∃ window, window ≠ [] ∧ window <:+ seen ∧ p.lambda < (window.map step).sum := by
    rw [MaximalSuffix.lt_level_iff]
    constructor
    · rintro (below | ⟨total, ⟨steps, nonempty, inside, rfl⟩, past⟩)
      · exact absurd below (not_lt.mpr nonneg)
      · obtain ⟨window, suffix, rfl⟩ := List.suffix_map_iff.mp inside
        exact ⟨window, fun none => nonempty (by rw [none]; rfl), suffix, past⟩
    · rintro ⟨window, nonempty, inside, past⟩
      exact Or.inr ⟨_, ⟨window.map step, fun none => nonempty (List.map_eq_nil_iff.mp none),
        inside.map step, rfl⟩, past⟩
  rw [(drifts_driftOf p samples).triggered]
  constructor
  · rintro ⟨seen, -, inside, crossed⟩
    rcases crossed with past | ⟨both, past⟩
    · obtain ⟨window, nonempty, suffix, beyond⟩ := (windows _ seen).mp past
      exact ⟨window, nonempty, suffix.isInfix.trans inside.isInfix, Or.inl beyond⟩
    · obtain ⟨window, nonempty, suffix, beyond⟩ := (windows _ seen).mp past
      exact ⟨window, nonempty, suffix.isInfix.trans inside.isInfix, Or.inr ⟨both, beyond⟩⟩
  · rintro ⟨window, nonempty, inside, past⟩
    obtain ⟨seen, suffix, first⟩ := List.infix_iff_suffix_prefix.mp inside
    refine ⟨seen, fun none => nonempty (List.suffix_nil.mp (none ▸ suffix)), first, ?_⟩
    rcases past with beyond | ⟨both, beyond⟩
    · exact Or.inl ((windows _ seen).mpr ⟨window, nonempty, suffix, beyond⟩)
    · exact Or.inr ⟨both, (windows _ seen).mpr ⟨window, nonempty, suffix, beyond⟩⟩

/-- The least and the greatest of the samples. -/
def rangeOf (samples : List Rat) : Option (Rat × Rat) :=
  samples.foldl (fun range x => some (range.elim (x, x) fun range =>
    (if x < range.1 then x else range.1, if x > range.2 then x else range.2))) none

theorem rangeOf_snoc (samples : List Rat) (x : Rat) :
    rangeOf (samples ++ [x]) = some ((rangeOf samples).elim (x, x) fun range =>
      (if x < range.1 then x else range.1, if x > range.2 then x else range.2)) :=
  List.foldl_concat _ _ _ _

theorem isLeast_snoc {samples : List Rat} {least : Rat} (before : IsLeast {x | x ∈ samples} least)
    (x : Rat) : IsLeast {y | y ∈ samples ++ [x]} (if x < least then x else least) := by
  have all : {y | y ∈ samples ++ [x]} = insert x {y | y ∈ samples} := by
    ext y
    simp [or_comm]
  rw [all, ← min_def_lt]
  exact before.insert x

theorem isGreatest_snoc {samples : List Rat} {greatest : Rat}
    (before : IsGreatest {x | x ∈ samples} greatest) (x : Rat) :
    IsGreatest {y | y ∈ samples ++ [x]} (if x > greatest then x else greatest) := by
  have all : {y | y ∈ samples ++ [x]} = insert x {y | y ∈ samples} := by
    ext y
    simp [or_comm]
  have larger : (if x > greatest then x else greatest) = max x greatest := by
    rw [max_comm]
    exact (max_def_lt greatest x).symm
  rw [all, larger]
  exact before.insert x

theorem rangeOf_bounds {samples : List Rat} (nonempty : samples ≠ []) :
    ∃ range, rangeOf samples = some range ∧ IsLeast {x | x ∈ samples} range.1 ∧
      IsGreatest {x | x ∈ samples} range.2 := by
  induction samples using List.reverseRecOn with
  | nil => exact absurd rfl nonempty
  | append_singleton samples x inductionHypothesis =>
    rw [rangeOf_snoc]
    rcases List.eq_nil_or_concat' samples with rfl | ⟨first, last, rfl⟩
    · exact ⟨(x, x), rfl, by simp [IsLeast, lowerBounds], by simp [IsGreatest, upperBounds]⟩
    · obtain ⟨range, found, least, greatest⟩ :=
        inductionHypothesis (List.append_ne_nil_of_right_ne_nil _ (List.cons_ne_nil _ _))
      rw [found]
      exact ⟨_, rfl, isLeast_snoc least x, isGreatest_snoc greatest x⟩

/-- The rolling minimum of a list of samples. -/
def restOf (decay : Rat) (samples : List Rat) : EWMARollingMinState :=
  samples.foldl (fun s x => ewmaRollingMinUpdate s x decay) {}

theorem restOf_snoc (decay : Rat) (samples : List Rat) (x : Rat) :
    restOf decay (samples ++ [x]) = ewmaRollingMinUpdate (restOf decay samples) x decay :=
  List.foldl_concat _ _ _ _

theorem clampUnit_mem (value : Rat) : 0 ≤ clampUnit value ∧ clampUnit value ≤ 1 := by
  rw [clampUnit]
  split_ifs with low high high
  · exact ⟨zero_le_one, le_refl _⟩
  · exact ⟨le_refl _, zero_le_one⟩
  · exact ⟨zero_le_one, le_refl _⟩
  · exact ⟨not_lt.mp low, not_lt.mp high⟩

/-- A blend of two numbers lies between them. -/
theorem blend_mem {weight low high : Rat} (unit : 0 ≤ weight ∧ weight ≤ 1) (ordered : low ≤ high) :
    low ≤ (1 - weight) * low + weight * high ∧ (1 - weight) * low + weight * high ≤ high := by
  have gap : 0 ≤ high - low := sub_nonneg.mpr ordered
  constructor
  · linarith [mul_nonneg unit.1 gap]
  · linarith [mul_nonneg (sub_nonneg.mpr unit.2) gap]

theorem ewmaRollingMinUpdate_initialized (s : EWMARollingMinState) (x decay : Rat) :
    (ewmaRollingMinUpdate s x decay).initialized = true := by
  rw [ewmaRollingMinUpdate]
  cases begun : s.initialized with
  | false => rfl
  | true =>
    rw [Bool.not_true, if_neg Bool.false_ne_true]
    split_ifs
    · rfl
    · rfl

theorem restOf_initialized (decay : Rat) (samples : List Rat) :
    (restOf decay samples).initialized = true ↔ samples ≠ [] := by
  rcases List.eq_nil_or_concat' samples with rfl | ⟨first, last, rfl⟩
  · exact iff_of_false Bool.false_ne_true fun some => some rfl
  · rw [restOf_snoc]
    exact iff_of_true (ewmaRollingMinUpdate_initialized _ _ _)
      (List.append_ne_nil_of_right_ne_nil _ (List.cons_ne_nil _ _))

/-- The rolling minimum is no more than the last sample and no less than all of them. -/
theorem restOf_mem (decay : Rat) (samples : List Rat) (x : Rat) :
    (restOf decay (samples ++ [x])).value ≤ x ∧
      ∀ low, (∀ y ∈ samples ++ [x], low ≤ y) → low ≤ (restOf decay (samples ++ [x])).value := by
  induction samples using List.reverseRecOn generalizing x with
  | nil => exact ⟨le_refl _, fun low below => below x List.mem_cons_self⟩
  | append_singleton samples y inductionHypothesis =>
    obtain ⟨-, above⟩ := inductionHypothesis y
    have begun : (restOf decay (samples ++ [y])).initialized = true := by
      rw [restOf_snoc]
      exact ewmaRollingMinUpdate_initialized _ _ _
    rw [restOf_snoc, ewmaRollingMinUpdate, begun, Bool.not_true, if_neg Bool.false_ne_true]
    split_ifs with lower
    · exact ⟨le_refl _, fun low below =>
        below x (List.mem_append_right _ List.mem_cons_self)⟩
    · obtain ⟨least, most⟩ := blend_mem (clampUnit_mem decay) (not_lt.mp lower)
      exact ⟨most, fun low below =>
        (above low fun z member => below z (List.mem_append_left _ member)).trans least⟩

/-! ### The histogram of a list of points -/

/-- A point and the time it was seen. -/
structure Point where
  x : Rat
  y : Rat
  timestampUs : UInt64

/-- The histogram of a list of points. -/
def histogramOf (plane : Plane) (points : List Point) : PolarHistogramState :=
  points.foldl (fun s point => polarHistogramUpdate plane s point.x point.y point.timestampUs
    kRestMinDecay) {}

theorem histogramOf_snoc (plane : Plane) (points : List Point) (point : Point) :
    histogramOf plane (points ++ [point]) =
      polarHistogramUpdate plane (histogramOf plane points) point.x point.y point.timestampUs
        kRestMinDecay :=
  List.foldl_concat _ _ _ _

/-! ### What was seen of an input -/

/-- The samples of an input and the points of its histogram, since its last reset. -/
structure History where
  axisRole : AxisRole := .unpaired
  partnerHandle : UInt64 := 0
  samples : List (Rat × UInt64) := []
  points : List Point := []

def History.values (history : History) : List Rat :=
  history.samples.map Prod.fst

def History.lastValue (history : History) : Rat :=
  history.values.getLast?.getD 0

/-- The values near zero. -/
def History.resting (history : History) : List Rat :=
  history.values.filter fun value => value < kRestThreshold ∧ value > -kRestThreshold

/-- The histories by handle. -/
abbrev Histories := UInt64 → Option History

/-- The point that a sample of an input adds to the histogram of another, or of itself. -/
def plotted (histories : Histories) (handle : UInt64) (history : History) (newValue : Rat)
    (nowUs : UInt64) (owner : UInt64) (owned : History) : List Point :=
  if owned.axisRole ≠ .stickX then []
  else if owner = handle then
    [⟨newValue, ((histories history.partnerHandle).map History.lastValue).getD 0, nowUs⟩]
  else if history.axisRole = .stickY ∧ history.partnerHandle = owner then
    [⟨owned.lastValue, newValue, nowUs⟩]
  else []

/-- What an event adds to the histories. -/
def record (histories : Histories) : Event → Histories
  | .pair handle role partnerHandle =>
    Function.update histories handle
      (some { (histories handle).getD {} with
        axisRole := role
        partnerHandle := partnerHandle })
  | .sample handle newValue nowUs =>
    match histories handle with
    | none => histories
    | some history => fun owner =>
      (histories owner).map fun owned =>
        { owned with
          samples := if owner = handle then owned.samples ++ [(newValue, nowUs)] else owned.samples
          points := owned.points ++ plotted histories handle history newValue nowUs owner owned }
  | .reset handle =>
    Function.update histories handle
      ((histories handle).map fun history =>
        { axisRole := history.axisRole, partnerHandle := history.partnerHandle })

/-- The histories after a list of events. -/
def histories (events : List Event) : Histories :=
  events.foldl record fun _ => none

/-- The statistics of a history, by one pass over each list. -/
def History.summary (plane : Plane) (history : History) : ScalarStats where
  welford := Moments.none.addAll history.values
  scalarRangeInitialized := (rangeOf history.values).isSome
  observedMin := (rangeOf history.values).elim 0 Prod.fst
  observedMax := (rangeOf history.values).elim 0 Prod.snd
  phDrift := driftOf defaultDriftParams history.values
  restMin := restOf kRestMinDecay history.resting
  lastValue := history.lastValue
  lastUpdateUs := history.samples.getLast?.elim 0 Prod.snd
  axisRole := history.axisRole
  partnerHandle := history.partnerHandle
  polar := histogramOf plane history.points

def summaries (plane : Plane) (histories : Histories) : Statistics :=
  fun handle => (histories handle).map (History.summary plane)

theorem rangeOf_snoc_fst (samples : List Rat) (x : Rat) :
    (rangeOf (samples ++ [x])).elim 0 Prod.fst =
      if (rangeOf samples).isSome then
        if x < (rangeOf samples).elim 0 Prod.fst then x else (rangeOf samples).elim 0 Prod.fst
      else x := by
  rw [rangeOf_snoc]
  cases rangeOf samples with
  | none => rfl
  | some range => rfl

theorem rangeOf_snoc_snd (samples : List Rat) (x : Rat) :
    (rangeOf (samples ++ [x])).elim 0 Prod.snd =
      if (rangeOf samples).isSome then
        if x > (rangeOf samples).elim 0 Prod.snd then x else (rangeOf samples).elim 0 Prod.snd
      else x := by
  rw [rangeOf_snoc]
  cases rangeOf samples with
  | none => rfl
  | some range => rfl

/-- A sample of the history is an observation of its summary. -/
theorem summary_sample (plane : Plane) (history : History) (newValue : Rat) (nowUs : UInt64) :
    History.summary plane { history with samples := history.samples ++ [(newValue, nowUs)] } =
      (history.summary plane).observe newValue nowUs := by
  have values : History.values
      { history with samples := history.samples ++ [(newValue, nowUs)] } =
        history.values ++ [newValue] := List.map_append
  have resting : restOf kRestMinDecay (History.resting
      { history with samples := history.samples ++ [(newValue, nowUs)] }) =
        if newValue < kRestThreshold ∧ newValue > -kRestThreshold then
          ewmaRollingMinUpdate (restOf kRestMinDecay history.resting) newValue kRestMinDecay
        else restOf kRestMinDecay history.resting := by
    rw [History.resting, values, List.filter_append, List.filter_singleton]
    split_ifs with inside
    · rw [decide_eq_true inside, cond_true, restOf_snoc, History.resting]
    · rw [decide_eq_false inside, cond_false, List.append_nil, History.resting]
  rw [History.summary, resting, History.lastValue, values, addAll_snoc, rangeOf_snoc_fst,
    rangeOf_snoc_snd, rangeOf_snoc, driftOf_snoc, List.getLast?_concat, List.getLast?_concat]
  rfl

/-- A point of the history is a plot of its summary. -/
theorem summary_point (plane : Plane) (history : History) (point : Point) :
    History.summary plane { history with points := history.points ++ [point] } =
      (history.summary plane).plot plane point.x point.y point.timestampUs := by
  rw [History.summary, histogramOf_snoc]
  rfl

theorem summaries_update (plane : Plane) (histories : Histories) (handle : UInt64)
    (history : Option History) :
    summaries plane (Function.update histories handle history) =
      Function.update (summaries plane histories) handle
        (history.map (History.summary plane)) := by
  funext other
  by_cases here : other = handle
  · rw [here, summaries, Function.update_self, Function.update_self]
  · rw [summaries, Function.update_of_ne here, Function.update_of_ne here, summaries]

theorem summary_lastValue (plane : Plane) (histories : Histories) (handle : UInt64) :
    ((summaries plane histories handle).map ScalarStats.lastValue) =
      (histories handle).map History.lastValue := by
  rw [summaries, Option.map_map]
  rfl

/-- What a sample of a known input does to each entry. -/
theorem observeScalarSample_apply {plane : Plane} {components : Statistics} {handle : UInt64}
    {stats : ScalarStats} (found : components handle = some stats) (newValue : Rat)
    (nowUs : UInt64) (owner : UInt64) :
    observeScalarSample plane components handle newValue nowUs owner =
      if owner = handle then
        some ((if stats.axisRole = .stickX then
          stats.plot plane newValue
            (((components stats.partnerHandle).map ScalarStats.lastValue).getD 0) nowUs
          else stats).observe newValue nowUs)
      else (components owner).map fun owned =>
        if stats.axisRole = .stickY ∧ stats.partnerHandle = owner ∧ owned.axisRole = .stickX then
          owned.plot plane owned.lastValue newValue nowUs
        else owned := by
  have aside {role : AxisRole} (differs : role ≠ .stickY) :
      ((components owner).map fun owned =>
        if role = .stickY ∧ stats.partnerHandle = owner ∧ owned.axisRole = .stickX then
          owned.plot plane owned.lastValue newValue nowUs
        else owned) = components owner := by
    cases components owner with
    | none => rfl
    | some owned => exact congrArg some (if_neg fun both => differs both.1)
  rw [observeScalarSample, found]
  dsimp only
  cases role : stats.axisRole with
  | unpaired =>
    have plain : ¬ AxisRole.unpaired = .stickX := by decide
    rw [aside (by decide), if_neg plain]
    exact Function.update_apply _ _ _ _
  | stickX =>
    have stick : AxisRole.stickX = .stickX := rfl
    rw [aside (by decide), if_pos stick]
    exact Function.update_apply _ _ _ _
  | stickY =>
    have plain : ¬ AxisRole.stickY = .stickX := by decide
    rw [if_neg plain]
    cases peer : components stats.partnerHandle with
    | none =>
      dsimp only
      rw [Function.update_apply]
      split_ifs with same
      · rfl
      · cases entry : components owner with
        | none => rfl
        | some owned =>
          refine (congrArg some (if_neg ?_)).symm
          rintro ⟨-, rfl, -⟩
          exact absurd (peer.symm.trans entry) (Option.some_ne_none _).symm
    | some partner =>
      dsimp only
      by_cases paired : partner.axisRole = .stickX
      · have apart : stats.partnerHandle ≠ handle := by
          rintro same
          rw [same, found] at peer
          rw [← Option.some.inj peer, role] at paired
          exact absurd paired (by decide)
        rw [if_pos paired, Function.update_apply, Function.update_apply]
        by_cases target : owner = stats.partnerHandle
        · rw [if_pos target, target, if_neg apart, peer, Option.map_some,
            if_pos ⟨rfl, rfl, paired⟩]
        · rw [if_neg target]
          split_ifs with same
          · rfl
          · cases components owner with
            | none => rfl
            | some owned =>
              exact (congrArg some (if_neg fun both => target both.2.1.symm)).symm
      · rw [if_neg paired, Function.update_apply]
        split_ifs with same
        · rfl
        · cases entry : components owner with
          | none => rfl
          | some owned =>
            refine (congrArg some (if_neg ?_)).symm
            rintro ⟨-, rfl, stick⟩
            exact paired ((congrArg ScalarStats.axisRole
              (Option.some.inj (peer.symm.trans entry))).trans stick)

/-- One event on the statistics is the event on the histories. -/
theorem observe_summaries (plane : Plane) (histories : Histories) (event : Event) :
    observe plane (summaries plane histories) event =
      summaries plane (record histories event) := by
  cases event with
  | pair handle role partnerHandle =>
    rw [record, summaries_update, observe, pairAxis, summaries]
    cases histories handle with
    | none => rfl
    | some history => rfl
  | reset handle =>
    rw [record, summaries_update, observe, resetPassive, summaries]
    cases histories handle with
    | none => rfl
    | some history => rfl
  | sample handle newValue nowUs =>
    rw [record, observe]
    cases found : histories handle with
    | none =>
      rw [observeScalarSample, summaries, found]
      rfl
    | some history =>
      have entry : summaries plane histories handle = some (history.summary plane) := by
        rw [summaries, found, Option.map_some]
      funext owner
      rw [observeScalarSample_apply entry]
      change _ = Option.map (History.summary plane) (Option.map _ (histories owner))
      by_cases own : owner = handle
      · rw [if_pos own, own, found, Option.map_some, Option.map_some, plotted, if_pos rfl,
          if_pos rfl]
        refine congrArg some ?_
        have partner : (history.summary plane).partnerHandle = history.partnerHandle := rfl
        have role : (history.summary plane).axisRole = history.axisRole := rfl
        rw [role, partner, summary_lastValue, ite_not]
        split_ifs with stick
        · rw [← summary_point plane history ⟨_, _, _⟩]
          exact (summary_sample plane { history with points := _ } newValue nowUs).symm
        · rw [List.append_nil]
          exact (summary_sample plane history newValue nowUs).symm
      · rw [if_neg own]
        change Option.map _ (Option.map _ (histories owner)) = _
        cases owner's : histories owner with
        | none => rfl
        | some owned =>
          have role : (history.summary plane).axisRole = history.axisRole := rfl
          have partner : (history.summary plane).partnerHandle = history.partnerHandle := rfl
          have owned's : (owned.summary plane).axisRole = owned.axisRole := rfl
          rw [Option.map_some, Option.map_some, Option.map_some, plotted, if_neg own, if_neg own,
            ite_not, role, partner, owned's]
          refine congrArg some ?_
          by_cases stick : owned.axisRole = .stickX
          · rw [if_pos stick]
            by_cases paired : history.axisRole = .stickY ∧ history.partnerHandle = owner
            · rw [if_pos paired, if_pos ⟨paired.1, paired.2, stick⟩]
              exact (summary_point plane owned ⟨_, _, _⟩).symm
            · rw [if_neg paired, if_neg fun all => paired ⟨all.1, all.2.1⟩, List.append_nil]
          · rw [if_neg stick, if_neg fun all => stick all.2.2, List.append_nil]

/-- After any run the statistics are the summaries of the histories. -/
theorem statistics_eq (plane : Plane) (events : List Event) :
    statistics plane events = summaries plane (histories events) := by
  induction events using List.reverseRecOn with
  | nil => rfl
  | append_singleton events event inductionHypothesis =>
    rw [statistics, histories, List.foldl_concat, List.foldl_concat, ← observe_summaries]
    exact congrArg (observe plane · event) inductionHypothesis

/-! ### What the statistics say -/

/-- What the statistics of one axis say of the samples since its last reset. -/
structure Describes (plane : Plane) (history : History) (stats : ScalarStats) : Prop where
  roles : stats.axisRole = history.axisRole ∧ stats.partnerHandle = history.partnerHandle
  moments : history.values ≠ [] →
    stats.welford = ⟨history.values.length, mean history.values, deviations history.values⟩
  least : history.values ≠ [] → IsLeast {x | x ∈ history.values} stats.observedMin
  greatest : history.values ≠ [] → IsGreatest {x | x ∈ history.values} stats.observedMax
  drifted : stats.phDrift.triggered = true ↔
    ∃ window, window ≠ [] ∧ window <:+: driftDeviations defaultDriftParams none history.values ∧
      (defaultDriftParams.lambda < (upward defaultDriftParams window).sum ∨
        defaultDriftParams.lambda < (downward defaultDriftParams window).sum)
  rested : stats.restMin.initialized = true ↔ history.resting ≠ []
  resting : ∀ last, history.resting.getLast? = some last → stats.restMin.value ≤ last ∧
    ∀ low, (∀ y ∈ history.resting, low ≤ y) → low ≤ stats.restMin.value
  plotted : stats.polar = histogramOf plane history.points
  empty : history.values = [] → stats.welford = Moments.none ∧
    stats.scalarRangeInitialized = false ∧ stats.phDrift = {} ∧ stats.restMin = {} ∧
    stats.lastValue = 0

theorem describes_summary (plane : Plane) (history : History) :
    Describes plane history (history.summary plane) where
  roles := ⟨rfl, rfl⟩
  moments := fun nonempty => addAll_none nonempty
  least := fun nonempty => by
    obtain ⟨range, found, least, -⟩ := rangeOf_bounds nonempty
    rw [History.summary, found]
    exact least
  greatest := fun nonempty => by
    obtain ⟨range, found, -, greatest⟩ := rangeOf_bounds nonempty
    rw [History.summary, found]
    exact greatest
  drifted := by
    have both : defaultDriftParams.oneSidedPositive = false := rfl
    rw [History.summary, driftOf_triggered_iff defaultDriftParams (by decide +kernel)]
    simp only [both, true_and]
  rested := restOf_initialized _ _
  resting := fun last same => by
    obtain ⟨before, split⟩ := List.getLast?_eq_some_iff.mp same
    have bounds := restOf_mem kRestMinDecay before last
    rw [← split] at bounds
    exact bounds
  plotted := rfl
  empty := fun none => by
    rw [History.summary, History.lastValue, History.resting, none]
    exact ⟨rfl, rfl, rfl, rfl, rfl⟩

/-- After any run of registrations, samples and resets, over any inputs, the statistics of an
input describe what was seen of it since its last reset. -/
theorem statistics_describe (plane : Plane) (events : List Event) (handle : UInt64) :
    Option.Rel (Describes plane) (histories events handle) (statistics plane events handle) := by
  rw [statistics_eq, summaries]
  cases histories events handle with
  | none => exact Option.Rel.none
  | some history => exact Option.Rel.some (describes_summary plane history)

end PairDriver.InputHealth.Scalar
