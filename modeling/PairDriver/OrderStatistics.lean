/-
This file is a library about order statistics and about the pairs of a list.

The entry of a list at a rank of its order depends on the list only up to a permutation,
moves along a monotone function, and stays below a bound that more entries than the
rank stay below. The values of a function at the pairs of a list follow its permutations
and its sublists.
-/

import Mathlib

namespace PairDriver.OrderStatistics

open List

/-! ### The entry at a rank -/

section Rank

variable {Value Image : Type} [LinearOrder Value] [LinearOrder Image]

/-- The entry of the sorted list at an index. -/
def orderStatistic (fallback : Value) (values : List Value) (index : Nat) : Value :=
  (values.insertionSort (· ≤ ·)).getD index fallback

theorem insertionSort_eq_of_perm {first second : List Value} (same : first ~ second) :
    first.insertionSort (· ≤ ·) = second.insertionSort (· ≤ ·) :=
  Perm.eq_of_pairwise' (pairwise_insertionSort _ _) (pairwise_insertionSort _ _)
    ((perm_insertionSort _ _).trans (same.trans (perm_insertionSort _ _).symm))

theorem orderStatistic_perm {first second : List Value} (same : first ~ second) (fallback : Value)
    (index : Nat) : orderStatistic fallback first index = orderStatistic fallback second index := by
  rw [orderStatistic, orderStatistic, insertionSort_eq_of_perm same]

/-- Sorting commutes with a monotone function. -/
theorem insertionSort_map {image : Value → Image} (monotone : Monotone image)
    (values : List Value) :
    (values.map image).insertionSort (· ≤ ·) = (values.insertionSort (· ≤ ·)).map image := by
  refine Perm.eq_of_pairwise' (pairwise_insertionSort _ _) ?_
    ((perm_insertionSort _ _).trans ((perm_insertionSort _ _).symm.map image))
  exact (pairwise_insertionSort _ _).map image fun _ _ atMost => monotone atMost

theorem orderStatistic_map {image : Value → Image} (monotone : Monotone image) (fallback : Value)
    (values : List Value) (index : Nat) :
    orderStatistic (image fallback) (values.map image) index =
      image (orderStatistic fallback values index) := by
  rw [orderStatistic, orderStatistic, insertionSort_map monotone, getD_map]

theorem countP_eq_zero_of_lt {bound head : Value} {rest : List Value}
    (sorted : (head :: rest).Pairwise (· ≤ ·)) (above : bound < head) :
    (head :: rest).countP (· ≤ bound) = 0 := by
  refine countP_eq_zero.mpr fun value member => ?_
  rw [decide_eq_true_iff, not_le]
  obtain rfl | later := mem_cons.mp member
  · exact above
  · exact above.trans_le (rel_of_pairwise_cons sorted later)

theorem getD_le_of_sorted {bound fallback : Value} {sorted : List Value}
    (inOrder : sorted.Pairwise (· ≤ ·)) {index : Nat}
    (many : index < sorted.countP (· ≤ bound)) : sorted.getD index fallback ≤ bound := by
  induction sorted generalizing index with
  | nil => exact absurd many (Nat.not_lt_zero _)
  | cons head rest inductionHypothesis =>
    have below : head ≤ bound := by
      by_contra above
      rw [countP_eq_zero_of_lt inOrder (not_le.mp above)] at many
      exact Nat.not_lt_zero _ many
    cases index with
    | zero => exact below
    | succ index =>
      rw [countP_cons, if_pos (decide_eq_true below)] at many
      exact inductionHypothesis inOrder.of_cons (Nat.lt_of_succ_lt_succ many)

/-- More entries than the index are within the bound. -/
theorem orderStatistic_le {bound fallback : Value} {values : List Value} {index : Nat}
    (many : index < values.countP (· ≤ bound)) :
    orderStatistic fallback values index ≤ bound := by
  rw [← (perm_insertionSort (· ≤ ·) values).countP_eq] at many
  exact getD_le_of_sorted (pairwise_insertionSort _ _) many

end Rank

/-! ### The pairs of a list -/

section Pairs

variable {Value Image : Type} {pair : Value → Value → Image} {first second values : List Value}

/-- The function at every pair of an entry and a later one. -/
def pairsWith (pair : Value → Value → Image) : List Value → List Image
  | [] => []
  | head :: rest => rest.map (pair head) ++ pairsWith pair rest

theorem length_pairsWith (pair : Value → Value → Image) (values : List Value) :
    (pairsWith pair values).length = values.length.choose 2 := by
  induction values with
  | nil => rfl
  | cons head rest inductionHypothesis =>
    rw [pairsWith, length_append, length_map, inductionHypothesis, length_cons,
      Nat.choose_succ_succ' rest.length 1, Nat.choose_one_right]

theorem pairsWith_map {Source : Type} (pair : Value → Value → Image) (value : Source → Value)
    (sources : List Source) :
    pairsWith pair (sources.map value) =
      pairsWith (fun first second => pair (value first) (value second)) sources := by
  induction sources with
  | nil => rfl
  | cons head rest inductionHypothesis =>
    rw [map_cons, pairsWith, pairsWith, map_map, inductionHypothesis]
    rfl

theorem map_pairsWith {Target : Type} (image : Image → Target) (pair : Value → Value → Image)
    (values : List Value) :
    (pairsWith pair values).map image =
      pairsWith (fun first second => image (pair first second)) values := by
  induction values with
  | nil => rfl
  | cons head rest inductionHypothesis =>
    rw [pairsWith, pairsWith, map_append, map_map, inductionHypothesis]
    rfl

theorem exists_of_mem_pairsWith {image : Image} (member : image ∈ pairsWith pair values) :
    ∃ first ∈ values, ∃ second ∈ values, pair first second = image := by
  induction values with
  | nil => exact absurd member not_mem_nil
  | cons head rest inductionHypothesis =>
    obtain ofHead | ofRest := mem_append.mp member
    · obtain ⟨second, later, same⟩ := mem_map.mp ofHead
      exact ⟨head, mem_cons_self, second, mem_cons_of_mem _ later, same⟩
    · obtain ⟨first, inRest, second, later, same⟩ := inductionHypothesis ofRest
      exact ⟨first, mem_cons_of_mem _ inRest, second, mem_cons_of_mem _ later, same⟩

theorem pairsWith_perm (symmetric : ∀ first second, pair first second = pair second first)
    (same : first ~ second) : pairsWith pair first ~ pairsWith pair second := by
  induction same with
  | nil => exact .nil
  | cons head rest inductionHypothesis => exact (rest.map _).append inductionHypothesis
  | swap head next rest =>
    rw [pairsWith, pairsWith, pairsWith, pairsWith, map_cons, map_cons, cons_append, cons_append,
      symmetric, ← append_assoc, ← append_assoc]
    exact (perm_append_comm.append_right _).cons _
  | trans _ _ firstStep secondStep => exact firstStep.trans secondStep

theorem pairsWith_sublist (fewer : first <+ second) :
    pairsWith pair first <+ pairsWith pair second := by
  induction fewer with
  | slnil => exact .slnil
  | cons head _ inductionHypothesis =>
    exact inductionHypothesis.trans (sublist_append_right _ _)
  | cons_cons head fewer inductionHypothesis => exact (fewer.map _).append inductionHypothesis

end Pairs

end PairDriver.OrderStatistics
