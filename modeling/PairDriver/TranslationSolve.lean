/-
This file models the direct translation solve: the weighted sums of an iteration, the Schur
system they give, and the reweighting of the samples by their residuals, over exact arithmetic
with the linear solver, the square root and the singular values as parameters.

One iteration finds the only minimum of the weighted squared residuals in the calibration
translation and the latent offset. Without the offset that is the minimum of the reference
rows of the pairwise solve it replaced.
-/

import PairDriver.SampleBuffer
import PairDriver.WeightedLeastSquares

namespace PairDriver.TranslationSolve

open Matrix
open CalibrationSamples (Vec3 Mat3 Sample)
open LeastSquares

variable {Number : Type} [Field Number] {count : Nat}

/-! ### The Schur system -/

/-- The reference position of a sample without the rotated target position. -/
def bWorld (C_R : Mat3 Number) (sample : Sample Number) : Vec3 Number :=
  sample.ref.trans - C_R *ᵥ sample.target.trans

/-- The weighted sums of an iteration. -/
structure NormalSums (Number : Type) where
  W : Number
  M : Mat3 Number
  sumB : Vec3 Number
  sumATb : Vec3 Number

def normalSums (samples : Fin count → Sample Number) (C_R : Mat3 Number)
    (weights : Fin count → Number) : NormalSums Number where
  W := ∑ i, weights i
  M := ∑ i, weights i • (samples i).ref.rot
  sumB := ∑ i, weights i • bWorld C_R (samples i)
  sumATb := ∑ i, weights i • ((samples i).ref.rotᵀ *ᵥ bWorld C_R (samples i))

/-- The Schur complement of the latent offset. -/
def NormalSums.schur (sums : NormalSums Number) : Mat3 Number :=
  (sums.W * sums.W) • (1 : Mat3 Number) - sums.M * sums.Mᵀ

def NormalSums.rhs (sums : NormalSums Number) : Vec3 Number :=
  sums.W • sums.sumB - sums.M *ᵥ sums.sumATb

/-- The offset that goes with a translation. -/
def NormalSums.offset (sums : NormalSums Number) (c : Vec3 Number) : Vec3 Number :=
  sums.W⁻¹ • (sums.Mᵀ *ᵥ c - sums.sumATb)

/-- The translation and the offset of an iteration. -/
def NormalSums.solution (solve : Mat3 Number → Vec3 Number → Vec3 Number)
    (sums : NormalSums Number) : Vec3 Number × Vec3 Number :=
  let c := solve sums.schur sums.rhs
  (c, sums.offset c)

/-- The residual of a sample. -/
def residual (samples : Fin count → Sample Number) (C_R : Mat3 Number)
    (point : Vec3 Number × Vec3 Number) (i : Fin count) : Vec3 Number :=
  (samples i).ref.rotᵀ *ᵥ point.1 - point.2 - (samples i).ref.rotᵀ *ᵥ bWorld C_R (samples i)

/-! ### The pairwise solve -/

/-- Three rows of the pairwise system. -/
structure Delta (Number : Type) where
  constants : Vec3 Number
  coefficients : Mat3 Number

/-- A sample with the calibration rotation applied to its target. -/
def rotated (C_R : Mat3 Number) (sample : Sample Number) : Sample Number :=
  { sample with target := ⟨C_R * sample.target.rot, C_R *ᵥ sample.target.trans⟩ }

/-- The rows of a pair for the rotations of one of the devices. -/
def pairDelta (rotation : Sample Number → Mat3 Number) (s_i s_j : Sample Number) :
    Delta Number where
  constants := (rotation s_j)ᵀ *ᵥ (s_j.ref.trans - s_j.target.trans) -
    (rotation s_i)ᵀ *ᵥ (s_i.ref.trans - s_i.target.trans)
  coefficients := (rotation s_j)ᵀ - (rotation s_i)ᵀ

/-- The reference rows of a pair. -/
def refDelta (samples : Fin count → Sample Number) (C_R : Mat3 Number) (i j : Fin count) :
    Delta Number :=
  pairDelta (fun sample => sample.ref.rot) (rotated C_R (samples i)) (rotated C_R (samples j))

/-- The target rows of a pair. -/
def targetDelta (samples : Fin count → Sample Number) (C_R : Mat3 Number) (i j : Fin count) :
    Delta Number :=
  pairDelta (fun sample => sample.target.rot) (rotated C_R (samples i)) (rotated C_R (samples j))

/-- The system of `CalibrateTranslationUpstream`. -/
def upstreamDeltas (samples : Fin count → Sample Number) (C_R : Mat3 Number) :
    List (Delta Number) :=
  (List.finRange count).flatMap fun (i : Fin count) =>
    ((List.finRange count).take i).flatMap fun j =>
      [refDelta samples C_R i j, targetDelta samples C_R i j]

/-! ### Objectives -/

/-- The weighted squared residuals. -/
def objective (samples : Fin count → Sample Number) (C_R : Mat3 Number)
    (weights : Fin count → Number) (point : Vec3 Number × Vec3 Number) : Number :=
  sumSquares weights (residual samples C_R point)

/-- The weighted squares of the reference rows of all pairs. -/
def pairObjective (samples : Fin count → Sample Number) (C_R : Mat3 Number)
    (weights : Fin count → Number) (c : Vec3 Number) : Number :=
  ∑ i, ∑ j ∈ Finset.Iio i, weights i * weights j *
    sqNorm ((refDelta samples C_R i j).coefficients *ᵥ c - (refDelta samples C_R i j).constants)

/-- The squares of the rows of the pairwise solve are those of the reference rows, whose weights are
all one, and those of the target rows. -/
theorem upstreamDeltas_squares (samples : Fin count → Sample Number) (C_R : Mat3 Number)
    (c : Vec3 Number) :
    ((upstreamDeltas samples C_R).map fun delta =>
        sqNorm (delta.coefficients *ᵥ c - delta.constants)).sum =
      pairObjective samples C_R (fun _ => 1) c + ∑ i, ∑ j ∈ Finset.Iio i,
        sqNorm ((targetDelta samples C_R i j).coefficients *ᵥ c -
          (targetDelta samples C_R i j).constants) := by
  unfold upstreamDeltas pairObjective
  rw [sum_pairs, ← Finset.sum_add_distrib]
  refine Finset.sum_congr rfl fun i _ => ?_
  rw [← Finset.sum_add_distrib]
  refine Finset.sum_congr rfl fun j _ => ?_
  rw [List.map_cons, List.sum_cons, List.map_singleton, List.sum_singleton, one_mul, one_mul]

section Minimum

variable (samples : Fin count → Sample Number) (C_R : Mat3 Number) (weights : Fin count → Number)

/-- The offset balances the residuals. -/
theorem sum_residual {c : Vec3 Number} (total : (normalSums samples C_R weights).W ≠ 0) :
    ∑ i, weights i •
      residual samples C_R (c, (normalSums samples C_R weights).offset c) i = 0 := by
  have weighted : ∀ offset : Vec3 Number, ∑ i, weights i • residual samples C_R (c, offset) i =
      (normalSums samples C_R weights).Mᵀ *ᵥ c - (normalSums samples C_R weights).W • offset -
        (normalSums samples C_R weights).sumATb := by
    intro offset
    unfold residual normalSums
    dsimp only
    rw [transpose_sum, sum_mulVec, Finset.sum_smul, ← Finset.sum_sub_distrib,
      ← Finset.sum_sub_distrib]
    refine Finset.sum_congr rfl fun i _ => ?_
    rw [smul_sub, smul_sub, transpose_smul, smul_mulVec]
  rw [weighted, NormalSums.offset, smul_smul, mul_inv_cancel₀ total, one_smul]
  abel

/-- A translation that solves the system balances the residuals in the reference space as well. -/
theorem sum_rotated_residual (orthogonal : ∀ i, (samples i).ref.rot * (samples i).ref.rotᵀ = 1)
    {c : Vec3 Number} (total : (normalSums samples C_R weights).W ≠ 0)
    (solved : (normalSums samples C_R weights).schur *ᵥ c = (normalSums samples C_R weights).rhs) :
    ∑ i, weights i • ((samples i).ref.rot *ᵥ
      residual samples C_R (c, (normalSums samples C_R weights).offset c) i) = 0 := by
  have weighted : ∀ offset : Vec3 Number,
      ∑ i, weights i • ((samples i).ref.rot *ᵥ residual samples C_R (c, offset) i) =
        (normalSums samples C_R weights).W • c - (normalSums samples C_R weights).M *ᵥ offset -
          (normalSums samples C_R weights).sumB := by
    intro offset
    unfold residual normalSums
    dsimp only
    rw [sum_mulVec, Finset.sum_smul, ← Finset.sum_sub_distrib, ← Finset.sum_sub_distrib]
    refine Finset.sum_congr rfl fun i _ => ?_
    rw [mulVec_sub, mulVec_sub, mulVec_mulVec, mulVec_mulVec, orthogonal, one_mulVec, one_mulVec,
      smul_sub, smul_sub, smul_mulVec]
  have scaled : (normalSums samples C_R weights).W • ((normalSums samples C_R weights).W • c -
      (normalSums samples C_R weights).M *ᵥ (normalSums samples C_R weights).offset c -
        (normalSums samples C_R weights).sumB) = 0 := by
    have system := sub_eq_zero.mpr solved
    unfold NormalSums.schur NormalSums.rhs at system
    rw [← system, NormalSums.offset, mulVec_smul, smul_sub, smul_sub, smul_smul, smul_smul,
      mul_inv_cancel₀ total, one_smul, sub_mulVec, smul_mulVec, one_mulVec, mulVec_sub,
      mulVec_mulVec]
    abel
  rw [weighted]
  exact (smul_eq_zero_iff_right total).mp scaled

/-- The offset that goes with a translation is the mean of the offsets the samples ask for. -/
theorem offset_balanced (total : (normalSums samples C_R weights).W ≠ 0) (c : Vec3 Number) :
    (∑ i, weights i) • (normalSums samples C_R weights).offset c = ∑ i, weights i •
      ((samples i).ref.rotᵀ *ᵥ c - (samples i).ref.rotᵀ *ᵥ bWorld C_R (samples i)) := by
  have balanced := sum_residual samples C_R weights (c := c) total
  unfold residual at balanced
  dsimp only at balanced
  rw [← sub_eq_zero, Finset.sum_smul, ← Finset.sum_sub_distrib, ← neg_eq_zero,
    ← Finset.sum_neg_distrib, ← balanced]
  refine Finset.sum_congr rfl fun i _ => ?_
  rw [← smul_sub, ← smul_neg]
  congr 1
  abel

/-- A row of a pair is the difference of what two samples ask for. -/
theorem refDelta_residual (c : Vec3 Number) (i j : Fin count) :
    (refDelta samples C_R i j).coefficients *ᵥ c - (refDelta samples C_R i j).constants =
      ((samples j).ref.rotᵀ *ᵥ c - (samples j).ref.rotᵀ *ᵥ bWorld C_R (samples j)) -
        ((samples i).ref.rotᵀ *ᵥ c - (samples i).ref.rotᵀ *ᵥ bWorld C_R (samples i)) := by
  unfold refDelta pairDelta rotated bWorld
  dsimp only
  rw [sub_mulVec]
  abel

variable [LinearOrder Number] [IsStrictOrderedRing Number]

/-- The pairwise objective is that of the direct solve at the best offset, times the weight sum. -/
theorem pairObjective_eq (total : (normalSums samples C_R weights).W ≠ 0) (c : Vec3 Number) :
    pairObjective samples C_R weights c = (∑ i, weights i) *
      objective samples C_R weights (c, (normalSums samples C_R weights).offset c) := by
  have rows : pairObjective samples C_R weights c = pairSquares weights fun i =>
      (samples i).ref.rotᵀ *ᵥ c - (samples i).ref.rotᵀ *ᵥ bWorld C_R (samples i) := by
    unfold pairObjective pairSquares
    simp only [refDelta_residual]
  rw [rows, pairSquares_eq weights _ (offset_balanced samples C_R weights total c)]
  unfold objective residual
  simp only [sub_right_comm]

variable {samples} {C_R} {weights}

/-- The weight sum is not zero, as the Schur matrix would be zero with it. -/
theorem W_pos (positive : ∀ i, 0 < weights i)
    (invertible : IsUnit (normalSums samples C_R weights).schur.det) :
    0 < (normalSums samples C_R weights).W := by
  have some : Nonempty (Fin count) := by
    by_contra none
    rw [not_nonempty_iff] at none
    have zero : (normalSums samples C_R weights).schur = 0 := by
      unfold NormalSums.schur normalSums
      simp
    rw [zero, det_zero] at invertible
    exact not_isUnit_zero invertible
  exact Finset.sum_pos (fun i _ => positive i) Finset.univ_nonempty

/-- The samples determine the translation and the offset, if the Schur matrix is invertible. -/
theorem determined (orthogonal : ∀ i, (samples i).ref.rot * (samples i).ref.rotᵀ = 1)
    (invertible : IsUnit (normalSums samples C_R weights).schur.det)
    (total : (normalSums samples C_R weights).W ≠ 0) {d t : Vec3 Number}
    (unchanged : ∀ i, (samples i).ref.rotᵀ *ᵥ d - t = 0) : d = 0 ∧ t = 0 := by
  have transposed : (normalSums samples C_R weights).Mᵀ *ᵥ d =
      (normalSums samples C_R weights).W • t := by
    unfold normalSums
    dsimp only
    rw [transpose_sum, sum_mulVec, Finset.sum_smul]
    refine Finset.sum_congr rfl fun i _ => ?_
    rw [transpose_smul, smul_mulVec, sub_eq_zero.mp (unchanged i)]
  have rotated : (normalSums samples C_R weights).M *ᵥ t =
      (normalSums samples C_R weights).W • d := by
    unfold normalSums
    dsimp only
    rw [sum_mulVec, Finset.sum_smul]
    refine Finset.sum_congr rfl fun i _ => ?_
    rw [smul_mulVec, ← sub_eq_zero.mp (unchanged i), mulVec_mulVec, orthogonal, one_mulVec]
  have kernel : (normalSums samples C_R weights).schur *ᵥ d = 0 := by
    unfold NormalSums.schur
    rw [sub_mulVec, smul_mulVec, one_mulVec, ← mulVec_mulVec, transposed, mulVec_smul, rotated,
      smul_smul, sub_self]
  have still := eq_zero_of_mulVec_eq_zero invertible.ne_zero kernel
  rw [still, mulVec_zero] at transposed
  exact ⟨still, (smul_eq_zero_iff_right total).mp transposed.symm⟩

/-- A solution of the system, with the offset that goes with it, is the only minimum of the weighted
squared residuals. -/
theorem solution_unique (orthogonal : ∀ i, (samples i).ref.rot * (samples i).ref.rotᵀ = 1)
    (positive : ∀ i, 0 < weights i)
    (invertible : IsUnit (normalSums samples C_R weights).schur.det) {c : Vec3 Number}
    (solved : (normalSums samples C_R weights).schur *ᵥ c = (normalSums samples C_R weights).rhs) :
    UniqueMinimizer (objective samples C_R weights)
      (c, (normalSums samples C_R weights).offset c) := by
  have total := (W_pos positive invertible).ne'
  refine uniqueMinimizer_of_orthogonal positive (residual samples C_R) _
    (fun other i => (samples i).ref.rotᵀ *ᵥ (other.1 - c) -
      (other.2 - (normalSums samples C_R weights).offset c))
    (fun other i => ?_) (fun other => ?_) fun other unchanged => ?_
  · unfold residual
    rw [mulVec_sub]
    abel
  · have offsets := sum_residual samples C_R weights (c := c) total
    have translations := sum_rotated_residual samples C_R weights orthogonal total solved
    have split : ∀ i, weights i *
        (residual samples C_R (c, (normalSums samples C_R weights).offset c) i ⬝ᵥ
          ((samples i).ref.rotᵀ *ᵥ (other.1 - c) -
            (other.2 - (normalSums samples C_R weights).offset c))) =
        (weights i • ((samples i).ref.rot *ᵥ
          residual samples C_R (c, (normalSums samples C_R weights).offset c) i)) ⬝ᵥ
            (other.1 - c) -
        (weights i • residual samples C_R (c, (normalSums samples C_R weights).offset c) i) ⬝ᵥ
          (other.2 - (normalSums samples C_R weights).offset c) := by
      intro i
      rw [dotProduct_sub, dotProduct_mulVec, vecMul_transpose, smul_dotProduct, smul_dotProduct,
        smul_eq_mul, smul_eq_mul, mul_sub]
    rw [Finset.sum_congr rfl fun i _ => split i, Finset.sum_sub_distrib, ← sum_dotProduct,
      ← sum_dotProduct, translations, offsets, zero_dotProduct, zero_dotProduct, sub_zero]
  · obtain ⟨first, second⟩ := determined orthogonal invertible total unchanged
    exact Prod.ext (sub_eq_zero.mp first) (sub_eq_zero.mp second)

/-- One iteration of the direct solve finds the only minimum of the weighted squared residuals, and
its translation is the only minimum of the weighted reference rows of all pairs. `solve` is the
linear solver, which solves invertible systems. -/
theorem solution_minimizes {solve : Mat3 Number → Vec3 Number → Vec3 Number}
    (solves : ∀ matrix rhs, IsUnit matrix.det → matrix *ᵥ solve matrix rhs = rhs)
    (orthogonal : ∀ i, (samples i).ref.rot * (samples i).ref.rotᵀ = 1)
    (positive : ∀ i, 0 < weights i)
    (invertible : IsUnit (normalSums samples C_R weights).schur.det) :
    UniqueMinimizer (objective samples C_R weights)
        ((normalSums samples C_R weights).solution solve) ∧
      UniqueMinimizer (pairObjective samples C_R weights)
        ((normalSums samples C_R weights).solution solve).1 := by
  have total := W_pos positive invertible
  have solved := solves _ (normalSums samples C_R weights).rhs invertible
  have least : UniqueMinimizer (objective samples C_R weights)
      ((normalSums samples C_R weights).solution solve) :=
    solution_unique orthogonal positive invertible solved
  refine ⟨least, ?_⟩
  exact (least.first (normalSums samples C_R weights).offset rfl).scale total
    (pairObjective_eq samples C_R weights total.ne')

end Minimum

/-! ### Three samples -/

/-- A sample whose reference is turned by half a turn or not at all. -/
def flippedSample (signs position : Vec3 Rat) : Sample Rat where
  ref := ⟨diagonal signs, position⟩
  target := ⟨1, 0⟩
  valid := true
  timestamp := 0
  refSpeed := 0
  targetSpeed := 0
  pairedMotionValid := true

/-- The reference at rest, and turned half about each of two axes. -/
def flippedSamples : Fin 3 → Sample Rat :=
  ![flippedSample ![1, 1, 1] ![1, 0, 0], flippedSample ![1, -1, -1] ![0, 1, 0],
    flippedSample ![-1, 1, -1] ![0, 0, 2]]

theorem schur_flippedSamples :
    (normalSums flippedSamples 1 fun _ => 1).schur = (8 : Rat) • (1 : Mat3 Rat) := by
  decide +kernel

theorem solution_minimizes_flipped :
    UniqueMinimizer (objective flippedSamples 1 fun _ => 1)
        ((normalSums flippedSamples 1 fun _ => 1).solution fun matrix rhs => matrix⁻¹ *ᵥ rhs) ∧
      UniqueMinimizer (pairObjective flippedSamples 1 fun _ => 1)
        ((normalSums flippedSamples 1 fun _ => 1).solution fun matrix rhs =>
          matrix⁻¹ *ᵥ rhs).1 := by
  refine solution_minimizes (fun matrix rhs unit => ?_) (by decide +kernel)
    (fun _ => zero_lt_one) ?_
  · rw [mulVec_mulVec, mul_nonsing_inv matrix unit, one_mulVec]
  · rw [schur_flippedSamples, det_smul, det_one, mul_one]
    exact (isUnit_iff_ne_zero.mpr (by decide)).pow _

end PairDriver.TranslationSolve
