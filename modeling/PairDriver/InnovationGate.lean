/-
This file is a library about tests of residuals against variances that follow them: the score
of a residual is the sum of its squares over the variances, and the variances move some way
towards the squares without falling below a floor.

While a residual stays the same, a score that is at most some limit, at least the number of
components, stays so: each term of the score moves towards one.
-/

import Mathlib

namespace PairDriver.InnovationGate

variable {Index Number : Type} [Field Number] [LinearOrder Number]

/-- The sum of the squares over the variances, taken to be at least the floor. -/
def score [Fintype Index] (floor : Number) (residual variance : Index → Number) : Number :=
  ∑ index, residual index * residual index / max (variance index) floor

/-- The variances after a residual. -/
def settle (rate floor : Number) (residual variance : Index → Number) : Index → Number :=
  fun index =>
    let mixed := (1 - rate) * variance index + rate * (residual index * residual index)
    if mixed < floor then floor else mixed

theorem floor_le_settle (rate floor : Number) (residual variance : Index → Number)
    (index : Index) : floor ≤ settle rate floor residual variance index := by
  unfold settle
  dsimp only
  split_ifs with below
  · exact le_rfl
  · exact not_lt.mp below

variable [IsStrictOrderedRing Number] {rate floor : Number} {residual variance : Index → Number}

/-- A term of the score after the variance has moved lies below the same way from the term
before it to one. -/
theorem term_settle_le (ratePos : 0 ≤ rate) (rateLt : rate < 1) (floorPos : 0 < floor)
    {index : Index} (above : floor ≤ variance index) :
    residual index * residual index / max (settle rate floor residual variance index) floor ≤
      (1 - rate) * (residual index * residual index / max (variance index) floor) + rate := by
  have positive : 0 < variance index := floorPos.trans_le above
  have square : 0 ≤ residual index * residual index := mul_self_nonneg _
  have rest : 0 < 1 - rate := sub_pos.mpr rateLt
  have mixedPos : 0 < (1 - rate) * variance index + rate * (residual index * residual index) :=
    add_pos_of_pos_of_nonneg (mul_pos rest positive) (mul_nonneg ratePos square)
  have mixedLe : (1 - rate) * variance index + rate * (residual index * residual index) ≤
      settle rate floor residual variance index := by
    unfold settle
    dsimp only
    split_ifs with below
    · exact below.le
    · exact le_rfl
  rw [max_eq_left (floor_le_settle rate floor residual variance index), max_eq_left above]
  refine (div_le_div_of_nonneg_left square mixedPos mixedLe).trans ?_
  generalize residual index * residual index = energy at square mixedPos ⊢
  generalize variance index = before at positive mixedPos ⊢
  have inner : 0 ≤ rate * (1 - rate) * ((energy - before) * (energy - before)) :=
    mul_nonneg (mul_nonneg ratePos rest.le) (mul_self_nonneg _)
  rw [div_le_iff₀ mixedPos]
  have expand : ((1 - rate) * (energy / before) + rate) *
      ((1 - rate) * before + rate * energy) =
        energy + rate * (1 - rate) * ((energy - before) * (energy - before)) / before := by
    field_simp
    ring
  rw [expand]
  exact le_add_of_nonneg_right (div_nonneg inner positive.le)

variable [Fintype Index]

theorem score_settle_le (ratePos : 0 ≤ rate) (rateLt : rate < 1) (floorPos : 0 < floor)
    (above : ∀ index, floor ≤ variance index) :
    score floor residual (settle rate floor residual variance) ≤
      (1 - rate) * score floor residual variance + Fintype.card Index * rate := by
  unfold score
  have term : ∀ index : Index, residual index * residual index /
        max (settle rate floor residual variance index) floor ≤
      (1 - rate) * (residual index * residual index / max (variance index) floor) + rate :=
    fun index => term_settle_le ratePos rateLt floorPos (above index)
  have terms := Finset.sum_le_sum fun (index : Index) (_ : index ∈ Finset.univ) => term index
  refine terms.trans (le_of_eq ?_)
  rw [Finset.sum_add_distrib, ← Finset.mul_sum, Finset.sum_const, Finset.card_univ, nsmul_eq_mul]

/-- A score within the limit stays within it while the residual stays the same. -/
theorem score_settle_within {limit : Number} (ratePos : 0 ≤ rate) (rateLt : rate < 1)
    (floorPos : 0 < floor) (above : ∀ index, floor ≤ variance index)
    (roomy : (Fintype.card Index : Number) ≤ limit)
    (within : score floor residual variance ≤ limit) :
    score floor residual (settle rate floor residual variance) ≤ limit := by
  have moved : score floor residual (settle rate floor residual variance) ≤
      (1 - rate) * score floor residual variance + Fintype.card Index * rate :=
    score_settle_le ratePos rateLt floorPos above
  have kept := mul_le_mul_of_nonneg_left within (sub_nonneg.mpr rateLt.le)
  have added := mul_le_mul_of_nonneg_right roomy ratePos
  linarith

end PairDriver.InnovationGate
