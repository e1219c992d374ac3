/-
This file is about the estimate of the lag between two series of speeds.

The estimate correlates the two series at every lag of a window, takes the first lag
of the greatest correlation and refines it by a parabola. Every index it reads is
inside its series, and its lag is inside the window. Exchanging the two series
reverses the correlations, and with them the parabola, so it negates the lag, unless
two lags tie for the greatest correlation.
-/

import Mathlib

namespace PairDriver.Latency

/-! ### Reading -/

/-- The element of a vector at an index, if the index is inside. -/
def readAt {Value : Type} (values : List Value) (index : Int) : Option Value :=
  if 0 ≤ index then values[index.toNat]? else none

theorem readAt_isSome_iff {Value : Type} {values : List Value} {index : Int} :
    (readAt values index).isSome ↔ 0 ≤ index ∧ index < values.length := by
  rw [readAt]
  split
  · rw [isSome_getElem?]
    omega
  · simp only [Option.isSome_none, Bool.false_eq_true, false_iff]
    omega

/-- The other end of the reverse. -/
theorem readAt_reverse {Value : Type} (values : List Value) (index : Int) :
    readAt values.reverse (values.length - 1 - index) = readAt values index := by
  by_cases inside : 0 ≤ index ∧ index < values.length
  · have mirrored : ((values.length : Int) - 1 - index).toNat =
        values.length - 1 - index.toNat := by
      omega
    rw [readAt, readAt, if_pos (by omega), if_pos inside.1, mirrored,
      List.getElem?_reverse (by omega)]
    congr 1
    omega
  · have outside : ¬(0 ≤ (values.length : Int) - 1 - index ∧
        (values.length : Int) - 1 - index < values.reverse.length) := by
      rw [List.length_reverse]
      omega
    rw [← readAt_isSome_iff, Option.not_isSome_iff_eq_none] at inside outside
    rw [inside, outside]

section Estimate

variable {Number : Type} [Field Number] [LinearOrder Number]

/-! ### Series -/

def kMinRmsSpeed : Number := 0.1

variable (sqrt : Number → Number) in
/-- The root of the mean of the squares. -/
def rms (series : List Number) : Number :=
  sqrt ((series.map fun value => value * value).sum / series.length)

def mean (series : List Number) : Number :=
  series.sum / series.length

/-- The series less its mean. -/
def centred (series : List Number) : List Number :=
  series.map fun value => value - mean series

variable (sqrt : Number → Number) in
/-- `PrepareSeries`: the energy gate, then the centred copies. -/
def prepareSeries (ref tgt : List Number) : Option (List Number × List Number) :=
  if ref.length < 4 ∨ tgt.length ≠ ref.length then none
  else if rms sqrt ref < kMinRmsSpeed ∨ rms sqrt tgt < kMinRmsSpeed then none
  else some (centred ref, centred tgt)

/-! ### Correlation -/

/-- `static_cast<int>` of a size. -/
def castInt (size : Nat) : Int :=
  (size : Int).bmod (2 ^ 32)

/-- `std::max(0, -tau)`. -/
def kStart (tau : Int) : Int :=
  if 0 < -tau then -tau else 0

/-- `std::min(N, N - tau)`. -/
def kEnd (size : Nat) (tau : Int) : Int :=
  if castInt size - tau < castInt size then castInt size - tau else castInt size

/-- The `k` of the loop. -/
def kRange (size : Nat) (tau : Int) : List Int :=
  (List.range (kEnd size tau - kStart tau).toNat).map fun steps : Nat => kStart tau + steps

/-- The sum of `r[k] * t[k + tau]`. -/
def correlation (r t : List Number) (tau : Int) : Number :=
  ((kRange r.length tau).map fun k => (readAt r k).getD 0 * (readAt t (k + tau)).getD 0).sum

/-- The vector `C`: the lag `tau` is at the index `tau + maxTau`. -/
def correlations (r t : List Number) (maxTau : Nat) : List Number :=
  (List.range (2 * maxTau + 1)).map fun idx : Nat => correlation r t (idx - maxTau)

/-- `bestIdx` and `bestVal` after the first `count` values. -/
def scan (value : Nat → Number) : Nat → Int × WithBot Number
  | 0 => (-1, ⊥)
  | idx + 1 =>
    let best := scan value idx
    if best.2 < value idx then (idx, value idx) else best

def bestIdx (r t : List Number) (maxTau : Nat) : Int :=
  (scan (fun idx : Nat => correlation r t (idx - maxTau)) (2 * maxTau + 1)).1

/-! ### The estimate -/

/-- `ParabolicSubsamplePeak`. -/
def parabolicSubsamplePeak (C : List Number) (bestIdx : Int) : Number :=
  if bestIdx ≤ 0 ∨ (C.length : Int) - 1 ≤ bestIdx then 0
  else
    let y0 := (readAt C (bestIdx - 1)).getD 0
    let y1 := (readAt C bestIdx).getD 0
    let y2 := (readAt C (bestIdx + 1)).getD 0
    let denom := y0 - 2.0 * y1 + y2
    if |denom| ≤ 0.000000000001 then 0
    else
      let frac := 0.5 * (y0 - y2) / denom
      if 1 < |frac| then 0 else frac

/-- The lag of two centred series. -/
def peakLag (r t : List Number) (maxTau : Nat) : Number :=
  let C := correlations r t maxTau
  let bestIdx := bestIdx r t maxTau
  if bestIdx ≤ 0 ∨ (C.length : Int) - 1 ≤ bestIdx then ((bestIdx - maxTau : Int) : Number)
  else ((bestIdx - maxTau : Int) : Number) + parabolicSubsamplePeak C bestIdx

variable (sqrt : Number → Number) in
/-- `EstimateLagTimeDomain`. -/
def estimateLagTimeDomain (ref tgt : List Number) (maxTau : Nat) : Option Number :=
  if ref.length < 2 * maxTau + 4 then none
  else
    match prepareSeries sqrt ref tgt with
    | none => none
    | some (r, t) => some (peakLag r t maxTau)

/-- One lag of the window correlates more than every other. -/
def UniqueMaximum (r t : List Number) (maxTau : Nat) : Prop :=
  ∃ peak : Int, |peak| ≤ maxTau ∧
    ∀ tau : Int, |tau| ≤ maxTau → tau ≠ peak → correlation r t tau < correlation r t peak

/-! ### Indices -/

theorem castInt_le (size : Nat) : castInt size ≤ size := by
  have general (modulus : Nat) : (size : Int).bmod modulus ≤ size := by
    have below : (size : Int) % modulus ≤ size := by exact_mod_cast Nat.mod_le size modulus
    rw [Int.bmod_def]
    split <;> omega
  exact general _

theorem mem_kRange_iff {size : Nat} {tau k : Int} :
    k ∈ kRange size tau ↔ kStart tau ≤ k ∧ k < kEnd size tau := by
  constructor
  · intro inRange
    obtain ⟨steps, below, rfl⟩ := List.mem_map.mp inRange
    have := List.mem_range.mp below
    omega
  · rintro ⟨atLeast, below⟩
    refine List.mem_map.mpr ⟨(k - kStart tau).toNat, List.mem_range.mpr ?_, ?_⟩ <;> omega

theorem kStart_bounds (tau : Int) : 0 ≤ kStart tau ∧ 0 ≤ kStart tau + tau := by
  rw [kStart]
  split <;> omega

theorem kEnd_bounds (size : Nat) (tau : Int) :
    kEnd size tau ≤ castInt size ∧ kEnd size tau + tau ≤ castInt size := by
  rw [kEnd]
  generalize castInt size = truncated
  split <;> omega

/-- Every pair of indices of the sum is inside both series. -/
theorem inside_of_mem_kRange {size : Nat} {tau k : Int} (inRange : k ∈ kRange size tau) :
    (0 ≤ k ∧ k < size) ∧ 0 ≤ k + tau ∧ k + tau < size := by
  have within := mem_kRange_iff.mp inRange
  have smaller := castInt_le size
  have starts := kStart_bounds tau
  have ends := kEnd_bounds size tau
  omega

/-- Exchanging the series moves the indices by the lag. -/
theorem kRange_neg (size : Nat) (tau : Int) :
    kRange size (-tau) = (kRange size tau).map (· + tau) := by
  have starts : kStart (-tau) = kStart tau + tau := by
    rw [kStart, kStart]
    split <;> split <;> omega
  have ends : kEnd size (-tau) = kEnd size tau + tau := by
    rw [kEnd, kEnd]
    generalize castInt size = truncated
    split <;> split <;> omega
  rw [kRange, kRange, List.map_map, starts, ends, add_sub_add_right_eq_sub]
  exact List.map_congr_left fun steps _ => add_right_comm _ _ _

section Series

variable {Number : Type} [Field Number] {r t : List Number}

theorem correlation_neg (equal : t.length = r.length) (tau : Int) :
    correlation t r (-tau) = correlation r t tau := by
  rw [correlation, correlation, equal, kRange_neg, List.map_map]
  refine congrArg List.sum (List.map_congr_left fun k _ => ?_)
  rw [Function.comp_apply, add_neg_cancel_right, mul_comm]

@[simp] theorem length_correlations (r t : List Number) (maxTau : Nat) :
    (correlations r t maxTau).length = 2 * maxTau + 1 := by
  rw [correlations, List.length_map, List.length_range]

/-- Exchanging the series reverses the correlations. -/
theorem correlations_reverse (equal : t.length = r.length) (maxTau : Nat) :
    correlations t r maxTau = (correlations r t maxTau).reverse := by
  refine List.ext_getElem (by simp) fun idx below _ => ?_
  rw [length_correlations] at below
  have mirrored : ((2 * maxTau + 1 - 1 - idx : Nat) : Int) - maxTau = -(idx - maxTau) := by omega
  simp only [correlations, List.getElem_reverse, List.getElem_map, List.getElem_range,
    List.length_map, List.length_range, mirrored]
  rw [← neg_neg ((idx : Int) - maxTau), correlation_neg equal, neg_neg]

@[simp] theorem length_centred (series : List Number) :
    (centred series).length = series.length := by
  rw [centred, List.length_map]

/-- The centred series forgets a constant. -/
theorem centred_add [CharZero Number] (series : List Number) (offset : Number) :
    centred (series.map (· + offset)) = centred series := by
  cases series with
  | nil => rfl
  | cons first rest =>
    have size : ((first :: rest).length : Number) ≠ 0 := by
      rw [List.length_cons]
      exact Nat.cast_ne_zero.mpr (Nat.succ_ne_zero _)
    have shifted : mean ((first :: rest).map (· + offset)) = mean (first :: rest) + offset := by
      rw [mean, mean, List.length_map, List.sum_map_add, List.map_id', List.map_const',
        List.sum_replicate, nsmul_eq_mul, add_div, mul_div_cancel_left₀ _ size]
    rw [centred, centred, List.map_map, shifted]
    exact List.map_congr_left fun value _ => add_sub_add_right_eq_sub _ _ _

end Series

/-! ### The greatest correlation -/

section Scan

variable {Number : Type} [LinearOrder Number] {value : Nat → Number}

/-- The scan remembers an index with its value, and no earlier value is greater. -/
theorem scan_spec (value : Nat → Number) (count : Nat) :
    ∃ idx ≤ count, scan value (count + 1) = (↑idx, ↑(value idx)) ∧
      ∀ other ≤ count, value other ≤ value idx := by
  induction count with
  | zero =>
    refine ⟨0, le_rfl, ?_, fun other atMost => ?_⟩
    · simp [scan, WithBot.bot_lt_coe]
    · rw [Nat.le_zero.mp atMost]
  | succ count inductionHypothesis =>
    obtain ⟨idx, atMost, same, greatest⟩ := inductionHypothesis
    rw [scan, same]
    by_cases greater : value idx < value (count + 1)
    · refine ⟨count + 1, le_rfl, if_pos (WithBot.coe_lt_coe.mpr greater), fun other atMost => ?_⟩
      obtain earlier | rfl := Nat.le_succ_iff.mp atMost
      · exact (greatest other earlier).trans greater.le
      · exact le_rfl
    · refine ⟨idx, by omega, if_neg (mt WithBot.coe_lt_coe.mp greater), fun other atMost => ?_⟩
      obtain earlier | rfl := Nat.le_succ_iff.mp atMost
      · exact greatest other earlier
      · exact not_lt.mp greater

/-- A value greater than every other is found. -/
theorem scan_eq_of_unique {count peak : Nat} (inside : peak ≤ count)
    (unique : ∀ other ≤ count, other ≠ peak → value other < value peak) :
    (scan value (count + 1)).1 = peak := by
  obtain ⟨idx, atMost, same, greatest⟩ := scan_spec value count
  rw [same]
  by_contra different
  have less := unique idx atMost fun equal => different (congrArg _ equal)
  exact less.not_ge (greatest peak inside)

end Scan

section Peak

variable {Number : Type} [Field Number] [LinearOrder Number] {r t : List Number} {maxTau : Nat}

theorem bestIdx_bounds (r t : List Number) (maxTau : Nat) :
    0 ≤ bestIdx r t maxTau ∧ bestIdx r t maxTau ≤ 2 * maxTau := by
  obtain ⟨idx, atMost, same, -⟩ :=
    scan_spec (fun idx : Nat => correlation r t (idx - maxTau)) (2 * maxTau)
  rw [bestIdx, same]
  dsimp only
  omega

/-- The only greatest correlation is found. -/
theorem bestIdx_eq_of_unique {peak : Int} (inside : |peak| ≤ maxTau)
    (unique : ∀ tau : Int, |tau| ≤ maxTau → tau ≠ peak →
      correlation r t tau < correlation r t peak) :
    bestIdx r t maxTau = peak + maxTau := by
  have ends := abs_le.mp inside
  have shifted : (((peak + maxTau).toNat : Nat) : Int) = peak + maxTau := by omega
  rw [bestIdx, ← shifted]
  refine scan_eq_of_unique (by omega) fun other atMost different => ?_
  rw [shifted, add_sub_cancel_right]
  exact unique _ (abs_le.mpr (by omega)) (by omega)

/-- Exchanging the series reverses the place of the only greatest correlation. -/
theorem bestIdx_swap (equal : t.length = r.length) (unique : UniqueMaximum r t maxTau) :
    bestIdx t r maxTau = 2 * maxTau - bestIdx r t maxTau := by
  obtain ⟨peak, inside, greatest⟩ := unique
  have mirrored : bestIdx t r maxTau = -peak + maxTau := by
    refine bestIdx_eq_of_unique (by rwa [abs_neg]) fun tau within different => ?_
    rw [correlation_neg equal, ← neg_neg tau, correlation_neg equal]
    exact greatest _ (by rwa [abs_neg]) (fun same => different (by omega))
  rw [mirrored, bestIdx_eq_of_unique inside greatest]
  omega

end Peak

/-! ### The parabola -/

section Parabola

variable {Number : Type} [Field Number] [LinearOrder Number] {r t : List Number} {maxTau : Nat}

theorem abs_parabolicSubsamplePeak_le [IsStrictOrderedRing Number] (C : List Number)
    (bestIdx : Int) : |parabolicSubsamplePeak C bestIdx| ≤ 1 := by
  rw [parabolicSubsamplePeak]
  split
  · exact abs_zero.trans_le zero_le_one
  · dsimp only
    split
    · exact abs_zero.trans_le zero_le_one
    · split
      · exact abs_zero.trans_le zero_le_one
      · next inside => exact not_lt.mp inside

/-- The neighbours of the peak exchange their places in the reverse. -/
theorem parabolicSubsamplePeak_reverse (C : List Number) (bestIdx : Int) :
    parabolicSubsamplePeak C.reverse (C.length - 1 - bestIdx) =
      -parabolicSubsamplePeak C bestIdx := by
  have below : readAt C.reverse (C.length - 1 - bestIdx - 1) = readAt C (bestIdx + 1) := by
    rw [← readAt_reverse C (bestIdx + 1), sub_add_eq_sub_sub]
  have above : readAt C.reverse (C.length - 1 - bestIdx + 1) = readAt C (bestIdx - 1) := by
    rw [← readAt_reverse C (bestIdx - 1), sub_sub_eq_add_sub, sub_add_eq_add_sub]
  rw [parabolicSubsamplePeak, parabolicSubsamplePeak, below, above, readAt_reverse,
    List.length_reverse]
  by_cases edge : bestIdx ≤ 0 ∨ (C.length : Int) - 1 ≤ bestIdx
  · rw [if_pos edge, if_pos (by omega), neg_zero]
  · rw [if_neg edge, if_neg (by omega)]
    dsimp only
    generalize (readAt C (bestIdx - 1)).getD 0 = y0
    generalize (readAt C bestIdx).getD 0 = y1
    generalize (readAt C (bestIdx + 1)).getD 0 = y2
    have sameDenom : y2 - 2.0 * y1 + y0 = y0 - 2.0 * y1 + y2 := by
      rw [sub_add_eq_add_sub, sub_add_eq_add_sub, add_comm]
    have negated : 0.5 * (y2 - y0) / (y0 - 2.0 * y1 + y2) =
        -(0.5 * (y0 - y2) / (y0 - 2.0 * y1 + y2)) := by
      rw [← neg_div, ← mul_neg, neg_sub]
    rw [sameDenom, negated, abs_neg]
    split
    · exact neg_zero.symm
    · split
      · exact neg_zero.symm
      · rfl

/-- The lag is the lag of the greatest correlation and the fraction of the parabola. -/
theorem peakLag_eq (r t : List Number) (maxTau : Nat) :
    peakLag r t maxTau = ((bestIdx r t maxTau - maxTau : Int) : Number) +
      parabolicSubsamplePeak (correlations r t maxTau) (bestIdx r t maxTau) := by
  rw [peakLag]
  split
  · next edge => rw [parabolicSubsamplePeak, if_pos edge, add_zero]
  · rfl

theorem abs_peakLag_le [IsStrictOrderedRing Number] (r t : List Number) (maxTau : Nat) :
    |peakLag r t maxTau| ≤ maxTau := by
  obtain ⟨lower, upper⟩ := bestIdx_bounds r t maxTau
  rw [peakLag]
  split
  · have within : |bestIdx r t maxTau - maxTau| ≤ maxTau := abs_le.mpr (by omega)
    exact_mod_cast within
  · next inner =>
    rw [length_correlations] at inner
    have within : |bestIdx r t maxTau - maxTau| + 1 ≤ maxTau := by
      have strict : |bestIdx r t maxTau - maxTau| ≤ maxTau - 1 := abs_le.mpr (by omega)
      omega
    have whole : |((bestIdx r t maxTau - maxTau : Int) : Number)| + 1 ≤ maxTau := by
      exact_mod_cast within
    have fraction := abs_parabolicSubsamplePeak_le (correlations r t maxTau) (bestIdx r t maxTau)
    exact (abs_add_le _ _).trans ((add_le_add_right fraction _).trans whole)

/-- Exchanging the series negates the lag. -/
theorem peakLag_swap (equal : t.length = r.length) (unique : UniqueMaximum r t maxTau) :
    peakLag t r maxTau = -peakLag r t maxTau := by
  have mirrored : (2 * maxTau : Int) - bestIdx r t maxTau =
      (correlations r t maxTau).length - 1 - bestIdx r t maxTau := by
    rw [length_correlations]
    omega
  rw [peakLag_eq, peakLag_eq, bestIdx_swap equal unique, correlations_reverse equal]
  conv_lhs => rw [mirrored, parabolicSubsamplePeak_reverse, ← mirrored]
  push_cast
  ring

end Parabola

/-! ### The series -/

section Laws

variable {Number : Type} [Field Number] [LinearOrder Number]
variable {sqrt : Number → Number} {ref tgt : List Number} {maxTau : Nat} {lag : Number}

/-- The series passes the energy gate. -/
def PassesGate (sqrt : Number → Number) (series : List Number) : Prop :=
  ¬rms sqrt series < kMinRmsSpeed

/-- The estimate succeeds on long series of equal length that pass the energy gate. -/
theorem estimateLagTimeDomain_eq_some_iff :
    estimateLagTimeDomain sqrt ref tgt maxTau = some lag ↔
      (2 * maxTau + 4 ≤ ref.length ∧ tgt.length = ref.length) ∧
        (PassesGate sqrt ref ∧ PassesGate sqrt tgt) ∧
          peakLag (centred ref) (centred tgt) maxTau = lag := by
  by_cases short : ref.length < 2 * maxTau + 4
  · rw [estimateLagTimeDomain, if_pos short]
    exact iff_of_false nofun fun conditions => by omega
  rw [estimateLagTimeDomain, if_neg short, prepareSeries]
  by_cases unequal : tgt.length ≠ ref.length
  · rw [if_pos (.inr unequal)]
    exact iff_of_false nofun fun conditions => unequal conditions.1.2
  rw [if_neg (by omega)]
  by_cases quiet : rms sqrt ref < kMinRmsSpeed ∨ rms sqrt tgt < kMinRmsSpeed
  · rw [if_pos quiet]
    exact iff_of_false nofun fun conditions => quiet.elim conditions.2.1.1 conditions.2.1.2
  · rw [if_neg quiet, Option.some_inj]
    exact ⟨fun same => ⟨⟨not_lt.mp short, not_not.mp unequal⟩, not_or.mp quiet, same⟩,
      fun conditions => conditions.2.2⟩

/-- The lag is inside the window, every index is inside the series, exchanging the series
negates the lag, and constants added to the series leave it alone. -/
theorem lag_laws [IsStrictOrderedRing Number]
    (succeeds : estimateLagTimeDomain sqrt ref tgt maxTau = some lag) :
    (-maxTau ≤ lag ∧ lag ≤ maxTau) ∧
      (∀ tau : Int, |tau| ≤ maxTau → ∀ k ∈ kRange (centred ref).length tau,
        (readAt (centred ref) k).isSome ∧ (readAt (centred tgt) (k + tau)).isSome) ∧
      (UniqueMaximum (centred ref) (centred tgt) maxTau →
        estimateLagTimeDomain sqrt tgt ref maxTau = some (-lag)) ∧
      ∀ refOffset tgtOffset : Number,
        PassesGate sqrt (ref.map (· + refOffset)) → PassesGate sqrt (tgt.map (· + tgtOffset)) →
          estimateLagTimeDomain sqrt (ref.map (· + refOffset)) (tgt.map (· + tgtOffset)) maxTau =
            some lag := by
  obtain ⟨⟨long, equal⟩, ⟨refPasses, tgtPasses⟩, rfl⟩ :=
    estimateLagTimeDomain_eq_some_iff.mp succeeds
  refine ⟨abs_le.mp (abs_peakLag_le _ _ _), fun tau _ k inRange => ?_, fun unique => ?_,
    fun refOffset tgtOffset refStill tgtStill => ?_⟩
  · have inside := inside_of_mem_kRange inRange
    rw [readAt_isSome_iff, readAt_isSome_iff, length_centred tgt, equal, ← length_centred ref]
    exact inside
  · exact estimateLagTimeDomain_eq_some_iff.mpr ⟨⟨long.trans_eq equal.symm, equal.symm⟩,
      ⟨tgtPasses, refPasses⟩, peakLag_swap (by simpa using equal) unique⟩
  · refine estimateLagTimeDomain_eq_some_iff.mpr ⟨?_, ⟨refStill, tgtStill⟩, ?_⟩
    · rw [List.length_map, List.length_map]
      exact ⟨long, equal⟩
    · rw [centred_add, centred_add]

/-- A pulse at the place `index` of nine samples. -/
def pulse (index : Nat) : List Rat :=
  (List.range 9).map fun place => if place = index then 3 else 0

/-- The pulse of the target comes one sample later. -/
theorem lag_laws_pulse :
    ∃ lag, estimateLagTimeDomain Rat.sqrt (pulse 3) (pulse 4) 2 = some lag ∧
      (-(2 : Nat) ≤ lag ∧ lag ≤ (2 : Nat)) ∧
        estimateLagTimeDomain Rat.sqrt (pulse 4) (pulse 3) 2 = some (-lag) ∧
          estimateLagTimeDomain Rat.sqrt ((pulse 3).map (· + -2 / 3)) ((pulse 4).map (· + 0)) 2 =
            some lag := by
  have succeeds : estimateLagTimeDomain Rat.sqrt (pulse 3) (pulse 4) 2 =
      some (peakLag (centred (pulse 3)) (centred (pulse 4)) 2) := by
    decide +kernel
  have unique : UniqueMaximum (centred (pulse 3)) (centred (pulse 4)) 2 := by
    refine ⟨1, by decide, fun tau within different => ?_⟩
    obtain ⟨lower, upper⟩ := abs_le.mp within
    interval_cases tau
    all_goals first | exact absurd rfl different | decide +kernel
  obtain ⟨window, -, swapped, shifted⟩ := lag_laws succeeds
  exact ⟨_, succeeds, window, swapped unique,
    shifted _ _ (by rw [PassesGate]; decide +kernel) (by rw [PassesGate]; decide +kernel)⟩

end Laws

end Estimate

end PairDriver.Latency
