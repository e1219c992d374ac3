/-
This file models the reweighting loop of the direct translation solve: the two scale
estimates, the two kernels, the cut-off that shrinks with the speed of a sample, and the
iterations until the weights settle.

The Cauchy kernel keeps every sample. The Tukey kernel cuts off at a multiple of the spread of
the residuals, which says nothing about their size: residuals that are all large and nearly equal
are all cut off, and the next iteration divides by a weight sum of zero.
-/

import PairDriver.Machine
import PairDriver.TranslationSolve

namespace PairDriver.TranslationSolve

open Matrix
open CalibrationSamples (Vec3 Mat3 Sample)
open LeastSquares

variable {Number : Type} [Field Number] [LinearOrder Number] {count : Nat}

/-! ### Scale and weight -/

def kQnConsistency : Number := 22219 / 10000
def kTukeyTune : Number := 4685 / 1000
def kQnInputCap : Nat := 500

/-- `std::nth_element`. -/
def nthElement (values : List Number) (index : Nat) : Number :=
  (values.insertionSort (· ≤ ·)).getD index 0

/-- The entries of a long list that `Qn` looks at. -/
def strideSample (xs : List Number) : List Number :=
  (List.range kQnInputCap).map fun i =>
    xs.getD (min (i * xs.length / kQnInputCap) (xs.length - 1)) 0

def pairDistances : List Number → List Number
  | [] => []
  | x :: rest => rest.map (fun y => |x - y|) ++ pairDistances rest

/-- `Qn`. -/
def qn (xs : List Number) : Number :=
  if xs.length < 2 then 0
  else
    let sampled := if kQnInputCap < xs.length then strideSample xs else xs
    let numPairs := sampled.length * (sampled.length - 1) / 2
    let h := sampled.length / 2 + 1
    let k := h * (h - 1) / 2
    let idx := if 0 < k ∧ k - 1 < numPairs then k - 1 else numPairs - 1
    nthElement (pairDistances sampled) idx * kQnConsistency

/-- `TukeyWeight`. -/
def tukeyWeight (residual c : Number) : Number :=
  if ¬0 < c then 0
  else
    let u := residual / c
    if 1 ≤ |u| then 0
    else
      let oneMinusUSq := 1 - u * u
      oneMinusUSq * oneMinusUSq

/-! ### The loop -/

def kMaxIters : Nat := 5
def kWeightChangeThreshold : Number := 1 / 100
def kMadFloor : Number := 1 / 1000
def kCauchyTune : Number := 1345 / 1000
def kVelocityKappa : Number := 2.0
def kVelocityRefMps : Number := 3 / 10

/-- `DirectOptions`. -/
structure Options where
  useTukeyBiweight : Bool
  useVelocityAwareWeighting : Bool

/-- The median absolute deviation. -/
def mad (residMag : List Number) : Number :=
  let median := nthElement residMag (residMag.length / 2)
  nthElement (residMag.map fun mag => |mag - median|) (residMag.length / 2)

/-- A value that is raised to a floor unless it is above it. -/
def floored (floor value : Number) : Number := if ¬floor < value then floor else value

def scaleEstimate (options : Options) (residMag : List Number) : Number :=
  floored kMadFloor (if options.useTukeyBiweight then qn residMag else mad residMag)

/-- The threshold of a sample, which its speed may shrink. -/
def cutoff (options : Options) (scale : Number) (sample : Sample Number) : Number :=
  let c0 := (if options.useTukeyBiweight then kTukeyTune else kCauchyTune) * scale
  if options.useVelocityAwareWeighting then
    let v := max 0 (max sample.refSpeed sample.targetSpeed)
    let vScale := 1 + kVelocityKappa * v / kVelocityRefMps
    floored (1 / 1000000000) (c0 / vScale)
  else c0

def robustWeight (options : Options) (r cThis : Number) : Number :=
  if options.useTukeyBiweight then tukeyWeight r cThis
  else
    let rOverC := r / cThis
    1 / (1 + rOverC * rOverC)

/-- The loop at the start of an iteration. -/
structure Irls (Number : Type) (count : Nat) where
  weights : Fin count → Number
  point : Vec3 Number × Vec3 Number
  residualRms : Number
  iterations : Nat

def Irls.start : Irls Number count where
  weights := fun _ => 1
  point := 0
  residualRms := 0
  iterations := 0

/-- The linear solver, the square root and the singular values of a matrix. -/
structure Numerics (Number : Type) where
  solve : Mat3 Number → Vec3 Number → Vec3 Number
  sqrt : Number → Number
  singularValues : Mat3 Number → Vec3 Number

section Loop

variable (numerics : Numerics Number) (options : Options) (samples : Fin count → Sample Number)
variable (C_R : Mat3 Number)

/-- The residual magnitudes of an iteration. -/
def residMag (weights : Fin count → Number) (i : Fin count) : Number :=
  numerics.sqrt (sqNorm
    (residual samples C_R ((normalSums samples C_R weights).solution numerics.solve) i))

/-- The threshold of a sample in an iteration. -/
def cThis (weights : Fin count → Number) (i : Fin count) : Number :=
  cutoff options (scaleEstimate options (List.ofFn (residMag numerics samples C_R weights)))
    (samples i)

/-- One iteration. -/
def Irls.iterate (state : Irls Number count) : Irls Number count where
  weights := fun i => robustWeight options (residMag numerics samples C_R state.weights i)
    (cThis numerics options samples C_R state.weights i)
  point := (normalSums samples C_R state.weights).solution numerics.solve
  residualRms := numerics.sqrt ((∑ i, residMag numerics samples C_R state.weights i *
    residMag numerics samples C_R state.weights i) / count)
  iterations := state.iterations + 1

/-- The largest relative change of a weight. -/
def maxDelta (before after : Irls Number count) : Number :=
  (List.ofFn fun i => |after.weights i - before.weights i| /
    max |before.weights i| (1 / 1000000000)).foldl max 0

/-- The loop goes on after an iteration. -/
def goesOn (before after : Irls Number count) : Bool :=
  decide (after.iterations < kMaxIters) &&
    !(decide (0 < before.iterations) && decide (maxDelta before after < kWeightChangeThreshold))

/-- From the start of an iteration to the start of the next. -/
def irlsStep (state : Irls Number count) (_ : Unit) : Option (Irls Number count) :=
  let after := state.iterate numerics options samples C_R
  if goesOn state after then some after else none

/-- The loop from an iteration on. -/
def irls : Nat → Irls Number count → Irls Number count
  | 0, state => state
  | fuel + 1, state =>
    match irlsStep numerics options samples C_R state () with
    | some after => irls fuel after
    | none => state.iterate numerics options samples C_R

/-- `DirectResult`. -/
structure DirectResult (Number : Type) where
  translation : Vec3 Number
  offset : Vec3 Number
  residualRms : Number
  conditionRatio : Number
  iterations : Nat

/-- The condition ratio of the weighted samples. -/
def conditionRatio (weights : Fin count → Number) : Number :=
  let sums := normalSums samples C_R weights
  if 0 < sums.W then
    let normalized := sums.W⁻¹ • sums.M
    let sv := numerics.singularValues (1 - normalized * normalizedᵀ)
    if 0 < sv 0 then numerics.sqrt (sv 2 / sv 0) else 0
  else 0

/-- `SolveDirect`. -/
def solveDirect : DirectResult Number :=
  if count < 2 ∨ ∃ i, ¬(samples i).Admitted then ⟨0, 0, 0, 0, 0⟩
  else
    let final := irls numerics options samples C_R kMaxIters .start
    { translation := final.point.1
      offset := final.point.2
      residualRms := final.residualRms
      conditionRatio := conditionRatio numerics samples C_R final.weights
      iterations := final.iterations }

/-! ### The loop -/

variable {numerics} {options} {samples} {C_R}

/-- Each iteration but the last takes the loop to the next. -/
theorem irlsStep_some {before after : Irls Number count}
    (next : irlsStep numerics options samples C_R before () = some after) :
    after = before.iterate numerics options samples C_R ∧ after.iterations < kMaxIters := by
  unfold irlsStep at next
  dsimp only at next
  split at next
  · rename_i more
    obtain rfl := Option.some.inj next
    exact ⟨rfl, of_decide_eq_true (Bool.and_eq_true_iff.mp more).1⟩
  · cases next

/-- The loop ends within its bound, with the iteration of a state that a run reaches. -/
theorem irls_reaches {start state : Irls Number count}
    (reached : Reaches (irlsStep numerics options samples C_R) (fun _ _ => True) start state)
    (inside : state.iterations < kMaxIters) {fuel : Nat}
    (enough : kMaxIters ≤ state.iterations + fuel) :
    ∃ last, Reaches (irlsStep numerics options samples C_R) (fun _ _ => True) start last ∧
      irlsStep numerics options samples C_R last () = none ∧
      irls numerics options samples C_R fuel state =
        last.iterate numerics options samples C_R := by
  induction fuel generalizing state with
  | zero => exact absurd (inside.trans_le enough) (lt_irrefl _)
  | succ fuel inductionHypothesis =>
    unfold irls
    cases next : irlsStep numerics options samples C_R state () with
    | none => exact ⟨state, reached, next, rfl⟩
    | some after =>
      obtain ⟨iterated, bounded⟩ := irlsStep_some next
      have counted : after.iterations = state.iterations + 1 :=
        congrArg Irls.iterations iterated
      exact inductionHypothesis (reached.next () trivial next) bounded (by omega)

variable (numerics) (options) (samples) (C_R)

/-! ### The condition -/

/-- The kernel is that of Cauchy, or some residual is below its threshold. -/
def KeepsSample (state : Irls Number count) (_ : Unit) : Prop :=
  options.useTukeyBiweight = false ∨ ∃ i,
    residMag numerics samples C_R state.weights i <
      cThis numerics options samples C_R state.weights i

instance (state : Irls Number count) (event : Unit) :
    Decidable (KeepsSample numerics options samples C_R state event) :=
  inferInstanceAs (Decidable (_ ∨ ∃ _, _))

end Loop

/-! ### Weights -/

section Weights

variable [IsStrictOrderedRing Number]

omit [IsStrictOrderedRing Number] in
theorem floored_pos {floor : Number} (positive : 0 < floor) (value : Number) :
    0 < floored floor value := by
  unfold floored
  split
  · exact positive
  · rename_i above
    exact positive.trans (not_not.mp above)

theorem scaleEstimate_pos (options : Options) (residMag : List Number) :
    0 < scaleEstimate options residMag :=
  floored_pos (div_pos one_pos (by norm_num)) _

theorem cutoff_pos (options : Options) {scale : Number} (positive : 0 < scale)
    (sample : Sample Number) : 0 < cutoff options scale sample := by
  have tune : (0 : Number) < if options.useTukeyBiweight then kTukeyTune else kCauchyTune := by
    unfold kTukeyTune kCauchyTune
    split
    · norm_num
    · norm_num
  unfold cutoff
  dsimp only
  split
  · exact floored_pos (div_pos one_pos (by norm_num)) _
  · exact mul_pos tune positive

/-- The Tukey kernel keeps exactly the residuals below the threshold. -/
theorem tukeyWeight_pos_iff {r c : Number} (nonneg : 0 ≤ r) (positive : 0 < c) :
    0 ≤ tukeyWeight r c ∧ (0 < tukeyWeight r c ↔ r < c) := by
  have quotient : 0 ≤ r / c := div_nonneg nonneg positive.le
  unfold tukeyWeight
  dsimp only
  rw [if_neg (not_not.mpr positive), abs_of_nonneg quotient]
  by_cases below : r < c
  · have inside : r / c < 1 := (div_lt_one positive).mpr below
    have square : 0 < 1 - r / c * (r / c) := sub_pos.mpr (mul_lt_one_of_nonneg_of_lt_one_left
      quotient inside inside.le)
    rw [if_neg (not_le.mpr inside)]
    exact ⟨(mul_pos square square).le, iff_of_true (mul_pos square square) below⟩
  · rw [if_pos ((one_le_div positive).mpr (not_lt.mp below))]
    exact ⟨le_rfl, iff_of_false (lt_irrefl 0) below⟩

/-- A weight is positive if the kernel is that of Cauchy, or the residual below the threshold. -/
theorem robustWeight_pos_iff (options : Options) {r c : Number} (nonneg : 0 ≤ r)
    (positive : 0 < c) :
    0 ≤ robustWeight options r c ∧
      (0 < robustWeight options r c ↔ options.useTukeyBiweight = false ∨ r < c) := by
  unfold robustWeight
  cases options.useTukeyBiweight with
  | true =>
    rw [if_pos rfl]
    exact (tukeyWeight_pos_iff nonneg positive).imp_right fun below =>
      below.trans (or_iff_right nofun).symm
  | false =>
    rw [if_neg Bool.false_ne_true]
    have denominator : 0 < 1 + r / c * (r / c) :=
      add_pos_of_pos_of_nonneg one_pos (mul_self_nonneg _)
    have weight := div_pos one_pos denominator
    exact ⟨weight.le, iff_of_true weight (Or.inl rfl)⟩

variable {numerics : Numerics Number} (options : Options) (samples : Fin count → Sample Number)
variable (C_R : Mat3 Number)

/-- An iteration leaves some weight exactly if the kernel is that of Cauchy, or some residual is
below its threshold. -/
theorem W_iterate_pos_iff (sqrt_nonneg : ∀ square, 0 ≤ numerics.sqrt square) (two : 2 ≤ count)
    (state : Irls Number count) :
    0 < (normalSums samples C_R (state.iterate numerics options samples C_R).weights).W ↔
      KeepsSample numerics options samples C_R state () := by
  have weights : ∀ i, _ ∧ _ := fun i => robustWeight_pos_iff options
    (sqrt_nonneg (sqNorm (residual samples C_R
      ((normalSums samples C_R state.weights).solution numerics.solve) i)))
    (cutoff_pos options (scaleEstimate_pos options
      (List.ofFn (residMag numerics samples C_R state.weights))) (samples i))
  have total := Finset.sum_pos_iff_of_nonneg fun i (_ : i ∈ Finset.univ) => (weights i).1
  refine total.trans ⟨?_, ?_⟩
  · rintro ⟨i, _, kept⟩
    exact ((weights i).2.mp kept).imp_right fun below => ⟨i, below⟩
  · rintro (cauchy | ⟨i, below⟩)
    · exact ⟨⟨0, by omega⟩, Finset.mem_univ _, (weights _).2.mpr (Or.inl cauchy)⟩
    · exact ⟨i, Finset.mem_univ _, (weights i).2.mpr (Or.inr below)⟩

/-- In every run of the loop whose iterations keep a sample, the weight sum is positive at the start
of every iteration; an iteration that keeps none makes it zero at the start of the next. -/
theorem weightSum_positive (sqrt_nonneg : ∀ square, 0 ≤ numerics.sqrt square) (two : 2 ≤ count)
    {state : Irls Number count}
    (reached : Reaches (irlsStep numerics options samples C_R)
      (KeepsSample numerics options samples C_R) .start state) :
    0 < (normalSums samples C_R state.weights).W ∧
      ∀ after, irlsStep numerics options samples C_R state () = some after →
        (0 < (normalSums samples C_R after.weights).W ↔
          KeepsSample numerics options samples C_R state ()) := by
  refine ⟨?_, fun after next => ?_⟩
  · induction reached with
    | start =>
      show 0 < ∑ _ : Fin count, (1 : Number)
      rw [Finset.sum_const, Finset.card_univ, Fintype.card_fin, nsmul_one]
      exact_mod_cast Nat.lt_of_lt_of_le Nat.two_pos two
    | next event _ kept next _ =>
      rw [(irlsStep_some next).1]
      exact (W_iterate_pos_iff options samples C_R sqrt_nonneg two _).mpr kept
  · rw [(irlsStep_some next).1]
    exact W_iterate_pos_iff options samples C_R sqrt_nonneg two _

end Weights

/-! ### Runs -/

/-- Cramer's rule as the solver, and the square root of the rational squares. -/
def rationalNumerics : Numerics Rat where
  solve := fun matrix rhs => matrix.det⁻¹ • (matrix.adjugate *ᵥ rhs)
  sqrt := Rat.sqrt
  singularValues := fun _ => 0

def tukey : Options := ⟨true, false⟩

/-- Four rotations that cancel out, and positions at the same distance from the solution. -/
def equidistantSamples (distance : Rat) : Fin 4 → Sample Rat :=
  ![flippedSample ![1, 1, 1] ![distance, 0, 0], flippedSample ![1, -1, -1] ![-distance, 0, 0],
    flippedSample ![-1, 1, -1] ![distance, 0, 0], flippedSample ![-1, -1, 1] ![-distance, 0, 0]]

/-- Four residuals of a metre each, cut off at a multiple of one millimetre. -/
theorem weightSum_vanishes :
    (∀ i, (equidistantSamples 1 i).Admitted ∧
        (equidistantSamples 1 i).ref.rot * (equidistantSamples 1 i).ref.rotᵀ = 1 ∧
        (equidistantSamples 1 i).target.rot * (equidistantSamples 1 i).target.rotᵀ = 1) ∧
      ∃ after, irlsStep rationalNumerics tukey (equidistantSamples 1) 1 .start () = some after ∧
        (normalSums (equidistantSamples 1) 1 after.weights).W = 0 := by
  refine ⟨by decide +kernel, _, rfl, ?_⟩
  decide +kernel

theorem weightSum_positive_still :
    ∃ after, irlsStep rationalNumerics tukey (equidistantSamples 0) 1 .start () = some after ∧
      0 < (normalSums (equidistantSamples 0) 1 after.weights).W := by
  have kept : KeepsSample rationalNumerics tukey (equidistantSamples 0) 1 .start () := by
    decide +kernel
  obtain ⟨after, ran⟩ := Option.isSome_iff_exists.mp (by decide +kernel :
    (irlsStep rationalNumerics tukey (equidistantSamples 0) 1 .start ()).isSome = true)
  have reached : Reaches (irlsStep rationalNumerics tukey (equidistantSamples 0) 1)
      (KeepsSample rationalNumerics tukey (equidistantSamples 0) 1) .start after :=
    .next () .start kept ran
  have nonneg : ∀ square, 0 ≤ rationalNumerics.sqrt square := Rat.sqrt_nonneg
  have spec := weightSum_positive tukey (equidistantSamples 0) 1 nonneg (by decide) reached
  exact ⟨after, ran, spec.1⟩

end PairDriver.TranslationSolve
