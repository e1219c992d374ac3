/-
This file is a library about corrections that go towards an error in steps of
bounded size.

A step is the error, cut down to the bound of the step. If the error stays the same,
the steps all go one way, and their sum stays within the error exactly if the error
is zero, or the bounds together stay within it, or at most one bound is positive.
-/

import Mathlib

namespace PairDriver.BoundedSteps

variable {Number : Type} [Field Number] [LinearOrder Number]

/-- The value, but no further from zero than the bound. -/
def clampTo (bound value : Number) : Number :=
  if bound < value then bound else if value < -bound then -bound else value

/-- At most one of the bounds lets a step through. -/
def AtMostOne (bounds : List Number) : Prop :=
  bounds.countP (fun bound => 0 < bound) ≤ 1

instance (bounds : List Number) : Decidable (AtMostOne bounds) :=
  inferInstanceAs (Decidable (_ ≤ _))

variable [IsStrictOrderedRing Number] {bound value total : Number} {bounds : List Number}

/-! ### One step -/

theorem clampTo_of_nonneg (nonneg : 0 ≤ bound) (positive : 0 ≤ value) :
    clampTo bound value = min value bound := by
  unfold clampTo
  split
  · rename_i above
    exact (min_eq_right above.le).symm
  · rename_i within
    rw [if_neg (not_lt.mpr ((neg_nonpos.mpr nonneg).trans positive))]
    exact (min_eq_left (not_lt.mp within)).symm

theorem clampTo_neg (nonneg : 0 ≤ bound) : clampTo bound (-value) = -clampTo bound value := by
  unfold clampTo
  by_cases above : bound < value
  · rw [if_neg, if_pos (neg_lt_neg above), if_pos above]
    exact not_lt.mpr ((neg_nonpos.mpr (nonneg.trans above.le)).trans nonneg)
  · by_cases below : value < -bound
    · rw [if_pos (lt_neg.mpr below), if_neg above, if_pos below, neg_neg]
    · rw [if_neg (fun more => below (lt_neg.mp more)),
        if_neg (fun less => above (neg_lt_neg_iff.mp less)), if_neg above, if_neg below]

theorem abs_clampTo (nonneg : 0 ≤ bound) (value : Number) :
    |clampTo bound value| = min |value| bound := by
  rcases le_total 0 value with positive | negative
  · rw [clampTo_of_nonneg nonneg positive, abs_of_nonneg positive,
      abs_of_nonneg (le_min positive nonneg)]
  · have positive := neg_nonneg.mpr negative
    rw [← abs_neg, ← clampTo_neg nonneg, clampTo_of_nonneg nonneg positive, abs_of_nonpos negative,
      abs_of_nonneg (le_min positive nonneg)]

theorem clampTo_zero (value : Number) : clampTo 0 value = 0 := by
  refine abs_eq_zero.mp ?_
  rw [abs_clampTo le_rfl, min_eq_right (abs_nonneg value)]

theorem clampTo_mul {factor : Number} (positive : 0 < factor) :
    clampTo (bound * factor) (value * factor) = clampTo bound value * factor := by
  unfold clampTo
  simp only [← neg_mul, mul_lt_mul_iff_left₀ positive, ite_mul]

/-! ### Many steps -/

/-- Steps towards the same error go one way. -/
theorem abs_sum_clampTo (value : Number) (nonneg : ∀ bound ∈ bounds, 0 ≤ bound) :
    |(bounds.map fun bound => clampTo bound value).sum| = (bounds.map (min |value|)).sum := by
  have steps : ∀ value : Number, 0 ≤ value →
      (bounds.map fun bound => clampTo bound value).sum = (bounds.map (min |value|)).sum := by
    intro value positive
    refine congrArg List.sum (List.map_congr_left fun bound among => ?_)
    rw [clampTo_of_nonneg (nonneg bound among) positive, abs_of_nonneg positive]
  have together : 0 ≤ (bounds.map (min |value|)).sum :=
    List.sum_nonneg (List.forall_mem_map.mpr fun bound among =>
      le_min (abs_nonneg value) (nonneg bound among))
  rcases le_total 0 value with positive | negative
  · rw [steps value positive, abs_of_nonneg together]
  · have mirrored : (bounds.map fun bound => clampTo bound value) =
        (bounds.map fun bound => clampTo bound (-value)).map Neg.neg := by
      rw [List.map_map]
      refine List.map_congr_left fun bound among => ?_
      rw [Function.comp_apply, clampTo_neg (nonneg bound among), neg_neg]
    rw [mirrored, ← List.sum_neg, abs_neg, steps (-value) (neg_nonneg.mpr negative), abs_neg,
      abs_of_nonneg together]

theorem sum_min_le_sum (total : Number) (bounds : List Number) :
    (bounds.map (min total)).sum ≤ bounds.sum := by
  conv_rhs => rw [← List.map_id bounds]
  exact List.sum_le_sum fun bound _ => min_le_right total bound

/-- Every bound that lets a step through lets no more than the error through. -/
theorem sum_min_le_countP (positive : 0 ≤ total) (nonneg : ∀ bound ∈ bounds, 0 ≤ bound) :
    (bounds.map (min total)).sum ≤ bounds.countP (fun bound => 0 < bound) • total := by
  induction bounds with
  | nil => exact le_of_eq (zero_nsmul total).symm
  | cons bound rest inductionHypothesis =>
    have later := inductionHypothesis fun bound among => nonneg bound (List.mem_cons_of_mem _ among)
    rw [List.map_cons, List.sum_cons, List.countP_cons]
    by_cases step : 0 < bound
    · rw [if_pos (decide_eq_true step), add_nsmul, one_nsmul, add_comm]
      exact add_le_add later (min_le_left total bound)
    · obtain rfl := le_antisymm (not_lt.mp step) (nonneg bound List.mem_cons_self)
      rw [if_neg (by simp), add_zero, min_eq_right positive, zero_add]
      exact later

/-- If one bound reaches the error and another one is positive, the steps exceed the error. -/
theorem lt_sum_min (positive : 0 < total) (nonneg : ∀ bound ∈ bounds, 0 ≤ bound)
    (more : ¬AtMostOne bounds) (reaches : ∃ bound ∈ bounds, total ≤ bound) :
    total < (bounds.map (min total)).sum := by
  obtain ⟨bound, among, enough⟩ := reaches
  have rearranged := List.perm_cons_erase among
  have step : 0 < bound := positive.trans_le enough
  have others : 0 < (bounds.erase bound).countP fun bound => 0 < bound := by
    unfold AtMostOne at more
    rw [rearranged.countP_eq, List.countP_cons, if_pos (decide_eq_true step)] at more
    omega
  obtain ⟨other, within, second⟩ := List.countP_pos_iff.mp others
  rw [(rearranged.map (min total)).sum_eq, List.map_cons, List.sum_cons, min_eq_left enough]
  refine lt_add_of_pos_right total ?_
  have least := List.single_le_sum (l := (bounds.erase bound).map (min total))
    (List.forall_mem_map.mpr fun bound inside =>
      le_min positive.le (nonneg bound (List.mem_of_mem_erase inside)))
    (min total other) (List.mem_map_of_mem within)
  exact (lt_min positive (of_decide_eq_true second)).trans_le least

/-- Steps towards the same error stay within it exactly if it is zero, or the bounds together stay
within it, or at most one of them lets a step through. -/
theorem sum_min_le_iff (positive : 0 ≤ total) (nonneg : ∀ bound ∈ bounds, 0 ≤ bound) :
    (bounds.map (min total)).sum ≤ total ↔
      total = 0 ∨ bounds.sum ≤ total ∨ AtMostOne bounds := by
  constructor
  · intro within
    by_contra outside
    obtain ⟨nonzero, exceeds, more⟩ : total ≠ 0 ∧ ¬bounds.sum ≤ total ∧ ¬AtMostOne bounds := by
      simpa only [not_or] using outside
    have strict := lt_of_le_of_ne positive (Ne.symm nonzero)
    by_cases reaches : ∃ bound ∈ bounds, total ≤ bound
    · exact absurd within (lt_sum_min strict nonneg more reaches).not_ge
    · have uncut : bounds.map (min total) = bounds := by
        conv_rhs => rw [← List.map_id bounds]
        refine List.map_congr_left fun bound among => min_eq_right (le_of_lt ?_)
        exact not_le.mp fun enough => reaches ⟨bound, among, enough⟩
      rw [uncut] at within
      exact exceeds within
  · rintro (rfl | within | one)
    · refine (sum_min_le_countP le_rfl nonneg).trans ?_
      rw [nsmul_zero]
    · exact (sum_min_le_sum total bounds).trans within
    · refine (sum_min_le_countP positive nonneg).trans ?_
      refine (nsmul_le_nsmul_left positive one).trans ?_
      rw [one_nsmul]

end PairDriver.BoundedSteps
