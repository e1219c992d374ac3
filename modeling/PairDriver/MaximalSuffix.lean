/-
This file is a library for running sums that are cut off at zero: the level after
a list of steps is the largest sum of a window that ends at the last step, where
the empty window counts with the sum zero.
-/

import Mathlib.Algebra.Order.Group.MinMax
import Mathlib.Algebra.BigOperators.Group.List.Basic
import Mathlib.Data.List.Induction
import Mathlib.Order.Bounds.Basic

namespace PairDriver

namespace MaximalSuffix

variable {Number : Type} [AddCommGroup Number]

/-- The sums of the windows that end at the last step. -/
def windowSums (steps : List Number) : Set Number :=
  {total | ∃ window, window ≠ [] ∧ window <:+ steps ∧ window.sum = total}

theorem windowSums_append (steps : List Number) (step total : Number) :
    total ∈ windowSums (steps ++ [step]) ↔
      ∃ before ∈ insert 0 (windowSums steps), before + step = total := by
  constructor
  · rintro ⟨window, some, suffix, rfl⟩
    rcases List.suffix_concat_iff.mp suffix with none | ⟨shorter, rfl, inside⟩
    · exact absurd none some
    · refine ⟨shorter.sum, ?_, by rw [List.sum_append, List.sum_singleton]⟩
      cases shorter with
      | nil => exact Set.mem_insert 0 _
      | cons first rest =>
        exact Set.mem_insert_of_mem 0 ⟨first :: rest, List.cons_ne_nil first rest, inside, rfl⟩
  · rintro ⟨before, member, rfl⟩
    rcases member with rfl | ⟨window, -, inside, rfl⟩
    · exact ⟨[step], List.cons_ne_nil step [], List.suffix_append steps [step], by simp⟩
    · refine ⟨window ++ [step], by simp, ?_, by rw [List.sum_append, List.sum_singleton]⟩
      exact List.suffix_concat_iff.mpr (Or.inr ⟨window, rfl, inside⟩)

variable [LinearOrder Number]

/-- The level after one more step. -/
def raise (level step : Number) : Number := max 0 (level + step)

/-- The level after a list of steps, from zero. -/
def level (steps : List Number) : Number := steps.foldl raise 0

theorem level_append (steps : List Number) (step : Number) :
    level (steps ++ [step]) = raise (level steps) step := by
  unfold level
  rw [List.foldl_append]
  rfl

variable [IsOrderedAddMonoid Number]

/-- The level is zero or the largest sum of a window, whichever is greater. -/
theorem isGreatest_level (steps : List Number) :
    IsGreatest (insert 0 (windowSums steps)) (level steps) := by
  induction steps using List.reverseRecOn with
  | nil =>
    refine ⟨Set.mem_insert 0 _, ?_⟩
    rintro total (rfl | ⟨window, some, inside, -⟩)
    · exact le_rfl
    · exact absurd (List.suffix_nil.mp inside) some
  | append_singleton steps step inductionHypothesis =>
    obtain ⟨reached, greatest⟩ := inductionHypothesis
    rw [level_append]
    constructor
    · rcases le_total (level steps + step) 0 with cut | kept
      · rw [raise, max_eq_left cut]
        exact Set.mem_insert 0 _
      · rw [raise, max_eq_right kept]
        exact Set.mem_insert_of_mem 0
          ((windowSums_append steps step _).mpr ⟨level steps, reached, rfl⟩)
    · rintro total (rfl | member)
      · exact le_max_left 0 _
      · obtain ⟨before, earlier, rfl⟩ := (windowSums_append steps step total).mp member
        exact le_max_of_le_right (add_le_add_left (greatest earlier) step)

/-- The level exceeds a threshold exactly if zero does or the sum of a window. -/
theorem lt_level_iff (steps : List Number) (threshold : Number) :
    threshold < level steps ↔ threshold < 0 ∨ ∃ total ∈ windowSums steps, threshold < total := by
  rw [lt_isLUB_iff (isGreatest_level steps).isLUB]
  simp only [Set.mem_insert_iff, exists_eq_or_imp]

end MaximalSuffix

end PairDriver
