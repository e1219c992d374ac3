/-
This file models the samples of the calibration solver and the score of their rotations.
`RotationDiversity` is to measure the widest pair of the buffer, but its loop measures the
rotations against the first usable sample only.

So the score is that of the widest pair exactly if the first sample sees it, or sees a
right angle; between buffers where it does, neither the order of the samples nor the loss
of the oldest one matters.
-/

import Mathlib

namespace PairDriver.CalibrationSamples

/-! ### Samples -/

abbrev Vec3 (Number : Type) := Fin 3 → Number

abbrev Mat3 (Number : Type) := Matrix (Fin 3) (Fin 3) Number

instance neZeroThree : NeZero 3 := ⟨by decide⟩

structure Pose (Number : Type) where
  rot : Mat3 Number
  trans : Vec3 Number

structure Sample (Number : Type) where
  ref : Pose Number
  target : Pose Number
  valid : Bool
  timestamp : Number
  refSpeed : Number
  targetSpeed : Number
  pairedMotionValid : Bool

/-- The samples the diversity scores look at. -/
def Sample.usable {Number : Type} (sample : Sample Number) : Bool :=
  sample.valid && sample.pairedMotionValid

section Diversity

variable {Number : Type} [Field Number] [LinearOrder Number]

/-- The largest translation component of a sample, in metres. -/
def kMaxSampleTranslationM : Number := 5

/-- The size check of `PushSample` and of the translation solver; exact numbers are all finite. -/
def Sample.Admitted (sample : Sample Number) : Prop :=
  ∀ axis, |sample.ref.trans axis| ≤ kMaxSampleTranslationM ∧
    |sample.target.trans axis| ≤ kMaxSampleTranslationM

instance (sample : Sample Number) : Decidable sample.Admitted :=
  inferInstanceAs (Decidable (∀ _, _ ∧ _))

/-! ### The score of the rotations -/

variable (angularDistance : Mat3 Number → Mat3 Number → Number) (kDesiredMaxAngle : Number)

/-- One turn of the loop: the first usable sample is kept, the others are measured against it. -/
def diversityStep (state : Option (Mat3 Number) × Number) (sample : Sample Number) :
    Option (Mat3 Number) × Number :=
  if sample.usable then
    match state.1 with
    | none => (some sample.target.rot, state.2)
    | some first =>
      let a := angularDistance first sample.target.rot
      (some first, if state.2 < a then a else state.2)
  else state

/-- The score of an angle, clamped to one. -/
def score (maxAngle : Number) : Number :=
  min (max (maxAngle / kDesiredMaxAngle) 0) 1

/-- `RotationDiversity`; `kDesiredMaxAngle` is a right angle in the unit of the distance. -/
def rotationDiversity (samples : List (Sample Number)) : Number :=
  if samples.length < 2 then 0
  else score kDesiredMaxAngle (samples.foldl (diversityStep angularDistance) (none, 0)).2

/-! ### The widest pair -/

/-- The largest distance of a rotation to others. -/
def farthest (first : Mat3 Number) (others : List (Mat3 Number)) : Number :=
  others.foldl (fun angle q => max angle (angularDistance first q)) 0

/-- The largest distance of two rotations of a list. -/
def widest : List (Mat3 Number) → Number
  | [] => 0
  | first :: others => max (farthest angularDistance first others) (widest others)

/-- What the first rotation of a list sees of the others. -/
def anchorAngle : List (Mat3 Number) → Number
  | [] => 0
  | first :: others => farthest angularDistance first others

/-- The target rotations of the usable samples. -/
def rotations (samples : List (Sample Number)) : List (Mat3 Number) :=
  (samples.filter Sample.usable).map fun sample => sample.target.rot

/-- The first usable sample sees an angle as large as that of the widest pair, or a right angle. -/
def AnchorSees (samples : List (Sample Number)) : Prop :=
  min kDesiredMaxAngle (widest angularDistance (rotations samples)) ≤
    anchorAngle angularDistance (rotations samples)

variable {angularDistance} {kDesiredMaxAngle}

omit [Field Number] in
theorem foldl_max_le_iff (first : Mat3 Number) (others : List (Mat3 Number))
    (start bound : Number) :
    others.foldl (fun angle q => max angle (angularDistance first q)) start ≤ bound ↔
      start ≤ bound ∧ ∀ q ∈ others, angularDistance first q ≤ bound := by
  induction others generalizing start with
  | nil => exact (and_iff_left (List.forall_mem_nil _)).symm
  | cons q others inductionHypothesis =>
    rw [List.foldl_cons, inductionHypothesis, max_le_iff, List.forall_mem_cons, and_assoc]

theorem widest_le_iff (rotations : List (Mat3 Number)) (bound : Number) :
    widest angularDistance rotations ≤ bound ↔
      0 ≤ bound ∧ rotations.Pairwise fun p q => angularDistance p q ≤ bound := by
  induction rotations with
  | nil => exact (and_iff_left List.Pairwise.nil).symm
  | cons first others inductionHypothesis =>
    rw [widest, max_le_iff, farthest, foldl_max_le_iff, inductionHypothesis, List.pairwise_cons]
    exact and_and_left.symm.trans Iff.rfl

theorem anchorAngle_nonneg (rotations : List (Mat3 Number)) :
    0 ≤ anchorAngle angularDistance rotations := by
  cases rotations with
  | nil => exact le_rfl
  | cons first others => exact ((foldl_max_le_iff first others 0 _).mp le_rfl).1

theorem anchorAngle_le_widest (rotations : List (Mat3 Number)) :
    anchorAngle angularDistance rotations ≤ widest angularDistance rotations := by
  cases rotations with
  | nil => exact le_rfl
  | cons first others => exact le_max_left _ _

/-- The widest pair does not depend on the order. -/
theorem widest_perm
    (symmetric : ∀ p q : Mat3 Number, angularDistance p q = angularDistance q p)
    {first second : List (Mat3 Number)} (permuted : first.Perm second) :
    widest angularDistance first = widest angularDistance second := by
  refine eq_of_forall_ge_iff fun bound => ?_
  rw [widest_le_iff, widest_le_iff]
  refine and_congr_right fun _ => permuted.pairwise_iff fun {p q} near => ?_
  rw [symmetric]
  exact near

/-- The loop measures what the first usable sample sees. -/
theorem foldl_diversityStep (samples : List (Sample Number)) :
    (samples.foldl (diversityStep angularDistance) (none, 0)).2 =
      anchorAngle angularDistance (rotations samples) := by
  have anchored : ∀ (samples : List (Sample Number)) (first : Mat3 Number) (angle : Number),
      (samples.foldl (diversityStep angularDistance) (some first, angle)).2 =
        (rotations samples).foldl (fun angle q => max angle (angularDistance first q)) angle := by
    intro samples first angle
    induction samples generalizing angle with
    | nil => rfl
    | cons sample samples inductionHypothesis =>
      unfold rotations at inductionHypothesis ⊢
      rw [List.foldl_cons, diversityStep]
      by_cases usable : sample.usable
      · rw [if_pos usable, List.filter_cons_of_pos usable, List.map_cons, List.foldl_cons,
          max_def_lt]
        exact inductionHypothesis _
      · rw [if_neg usable, List.filter_cons_of_neg usable]
        exact inductionHypothesis _
  induction samples with
  | nil => rfl
  | cons sample samples inductionHypothesis =>
    unfold rotations at inductionHypothesis ⊢
    rw [List.foldl_cons, diversityStep]
    by_cases usable : sample.usable
    · rw [if_pos usable, List.filter_cons_of_pos usable, List.map_cons]
      exact anchored samples _ 0
    · rw [if_neg usable, List.filter_cons_of_neg usable]
      exact inductionHypothesis

variable [IsStrictOrderedRing Number]

theorem score_eq {angle : Number} (positive : 0 < kDesiredMaxAngle) (nonneg : 0 ≤ angle) :
    score kDesiredMaxAngle angle = min (angle / kDesiredMaxAngle) 1 := by
  unfold score
  rw [max_eq_left (div_nonneg nonneg positive.le)]

/-- Two angles have one score exactly if the smaller one reaches the larger or a right angle. -/
theorem score_eq_score_iff {small large : Number} (positive : 0 < kDesiredMaxAngle)
    (nonneg : 0 ≤ small) (ordered : small ≤ large) :
    score kDesiredMaxAngle small = score kDesiredMaxAngle large ↔
      min kDesiredMaxAngle large ≤ small := by
  rw [score_eq positive nonneg, score_eq positive (nonneg.trans ordered)]
  rcases le_or_gt kDesiredMaxAngle small with covered | below
  · rw [min_eq_right ((one_le_div positive).mpr covered),
      min_eq_right ((one_le_div positive).mpr (covered.trans ordered))]
    exact iff_of_true rfl (min_le_of_left_le covered)
  · rw [min_eq_left ((div_le_one positive).mpr below.le), min_le_iff]
    constructor
    · intro same
      refine Or.inr (le_of_not_gt fun larger => ?_)
      have quotient : small / kDesiredMaxAngle < min (large / kDesiredMaxAngle) 1 :=
        lt_min (div_lt_div_of_pos_right larger positive) ((div_lt_one positive).mpr below)
      exact absurd same quotient.ne
    · rintro (covered | reached)
      · exact absurd covered (not_le.mpr below)
      · rw [le_antisymm reached ordered, min_eq_left ((div_le_one positive).mpr below.le)]

/-- `RotationDiversity` scores what the first usable sample sees. -/
theorem rotationDiversity_eq (positive : 0 < kDesiredMaxAngle) (samples : List (Sample Number)) :
    rotationDiversity angularDistance kDesiredMaxAngle samples =
      score kDesiredMaxAngle (anchorAngle angularDistance (rotations samples)) := by
  unfold rotationDiversity
  split
  · rename_i few
    have single : (rotations samples).length < 2 := by
      unfold rotations
      rw [List.length_map]
      exact (List.length_filter_le _ _).trans_lt few
    have angle : anchorAngle angularDistance (rotations samples) = 0 := by
      cases found : rotations samples with
      | nil => rfl
      | cons first others =>
        rw [found, List.length_cons] at single
        obtain rfl := List.length_eq_zero_iff.mp (Nat.lt_one_iff.mp (Nat.lt_of_succ_lt_succ single))
        rfl
    rw [angle, score_eq positive le_rfl, zero_div, min_eq_left zero_le_one]
  · rw [foldl_diversityStep]

/-- The score is that of the widest pair exactly if the first usable sample sees it. Among buffers
where it does, the order of the samples does not matter, and to lose the oldest one does not lower
the score while the widest pair stays. -/
theorem rotationDiversity_widest
    (symmetric : ∀ p q : Mat3 Number, angularDistance p q = angularDistance q p)
    (positive : 0 < kDesiredMaxAngle) (samples : List (Sample Number)) :
    (rotationDiversity angularDistance kDesiredMaxAngle samples =
        score kDesiredMaxAngle (widest angularDistance (rotations samples)) ↔
      AnchorSees angularDistance kDesiredMaxAngle samples) ∧
    (AnchorSees angularDistance kDesiredMaxAngle samples →
      (∀ permuted, samples.Perm permuted → AnchorSees angularDistance kDesiredMaxAngle permuted →
        rotationDiversity angularDistance kDesiredMaxAngle permuted =
          rotationDiversity angularDistance kDesiredMaxAngle samples) ∧
      ∀ oldest rest, samples = oldest :: rest →
        AnchorSees angularDistance kDesiredMaxAngle rest →
        widest angularDistance (rotations samples) ≤ widest angularDistance (rotations rest) →
        rotationDiversity angularDistance kDesiredMaxAngle samples ≤
          rotationDiversity angularDistance kDesiredMaxAngle rest) := by
  have sees : ∀ samples : List (Sample Number),
      rotationDiversity angularDistance kDesiredMaxAngle samples =
          score kDesiredMaxAngle (widest angularDistance (rotations samples)) ↔
        AnchorSees angularDistance kDesiredMaxAngle samples := by
    intro samples
    rw [rotationDiversity_eq positive]
    exact score_eq_score_iff positive (anchorAngle_nonneg _) (anchorAngle_le_widest _)
  refine ⟨sees samples, fun anchored => ⟨fun permuted order anchoredPermuted => ?_,
    fun oldest rest _ anchoredRest remains => ?_⟩⟩
  · rw [(sees permuted).mpr anchoredPermuted, (sees samples).mpr anchored]
    exact congrArg _ (widest_perm symmetric ((order.filter _).map _)).symm
  · rw [(sees samples).mpr anchored, (sees rest).mpr anchoredRest]
    exact min_le_min_right _ (max_le_max_right _ (div_le_div_of_nonneg_right remains positive.le))

end Diversity

/-! ### Rotations about one axis -/

open Real (arccos pi)

/-- The angle between two rotations. -/
noncomputable def rotationAngle (p q : Mat3 ℝ) : ℝ :=
  arccos (((p * q.transpose).trace - 1) / 2)

theorem rotationAngle_symm (p q : Mat3 ℝ) : rotationAngle p q = rotationAngle q p := by
  unfold rotationAngle
  rw [← Matrix.trace_transpose, Matrix.transpose_mul, Matrix.transpose_transpose]

/-- The rotation about the vertical axis with the given cosine and sine. -/
def yaw (c s : ℝ) : Mat3 ℝ := !![c, 0, s; 0, 1, 0; -s, 0, c]

theorem rotationAngle_yaw (c s c' s' : ℝ) :
    rotationAngle (yaw c s) (yaw c' s') = arccos (c * c' + s * s') := by
  have trace : (yaw c s * (yaw c' s').transpose).trace = 2 * (c * c' + s * s') + 1 := by
    rw [Matrix.trace_fin_three, Matrix.mul_apply, Matrix.mul_apply, Matrix.mul_apply]
    simp [yaw, Fin.sum_univ_three]
    ring
  rw [rotationAngle, trace]
  congr 1
  ring

def yawSample (c s : ℝ) : Sample ℝ where
  ref := ⟨1, 0⟩
  target := ⟨yaw c s, 0⟩
  valid := true
  timestamp := 0
  refSpeed := 0
  targetSpeed := 0
  pairedMotionValid := true

/-- A buffer that begins with the target at rest and then has it turned to either side. -/
def turned (c s : ℝ) : List (Sample ℝ) :=
  [yawSample 1 0, yawSample c s, yawSample c (-s)]

theorem rotations_turned (c s : ℝ) :
    rotations (turned c s) = [yaw 1 0, yaw c s, yaw c (-s)] := rfl

theorem anchorAngle_turned (c s : ℝ) :
    anchorAngle rotationAngle (rotations (turned c s)) = arccos c := by
  have nonneg := Real.arccos_nonneg c
  rw [rotations_turned]
  show max (max 0 _) _ = _
  rw [rotationAngle_yaw, rotationAngle_yaw, one_mul, zero_mul, zero_mul, add_zero,
    max_eq_right nonneg, max_self]

/-- The two sides are twice as far apart as each of them is from the rest. -/
theorem le_widest_turned (c s : ℝ) :
    arccos (c * c - s * s) ≤ widest rotationAngle (rotations (turned c s)) := by
  have pairs := ((widest_le_iff (rotations (turned c s))
    (widest rotationAngle (rotations (turned c s)))).mp le_rfl).2
  rw [rotations_turned, List.pairwise_cons, List.pairwise_cons] at pairs
  have sides := pairs.2.1 _ (List.mem_singleton_self _)
  rw [rotationAngle_yaw, mul_neg, ← sub_eq_add_neg] at sides
  exact sides

/-- A quarter turn away from the first sample the score is full. -/
theorem rotationDiversity_quarterTurn :
    rotationDiversity rotationAngle (pi / 2) (turned 0 1) =
      score (pi / 2) (widest rotationAngle (rotations (turned 0 1))) := by
  refine ((rotationDiversity_widest rotationAngle_symm Real.pi_div_two_pos _).1).mpr ?_
  unfold AnchorSees
  rw [anchorAngle_turned, Real.arccos_zero]
  exact min_le_left _ _

/-- Turned by the angle of the 3-4-5 triangle to either side, the widest pair is twice the angle
the first sample sees. -/
theorem rotationDiversity_misses_widest :
    rotationDiversity rotationAngle (pi / 2) (turned (4 / 5) (3 / 5)) ≠
      score (pi / 2) (widest rotationAngle (rotations (turned (4 / 5) (3 / 5)))) := by
  have acute : arccos (4 / 5) < pi / 2 := Real.arccos_lt_pi_div_two.mpr (by norm_num)
  have wider : arccos (4 / 5) < arccos (4 / 5 * (4 / 5) - 3 / 5 * (3 / 5)) :=
    Real.arccos_lt_arccos (by norm_num) (by norm_num) (by norm_num)
  rw [rotationDiversity_eq Real.pi_div_two_pos, Ne,
    score_eq_score_iff Real.pi_div_two_pos (anchorAngle_nonneg _) (anchorAngle_le_widest _),
    anchorAngle_turned, not_le]
  exact lt_min acute (wider.trans_le (le_widest_turned _ _))

end PairDriver.CalibrationSamples
