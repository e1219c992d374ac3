/-
This file is about the count, the mean and the sum of squared deviations of a sample that
arrives one value at a time. Two such summaries can be merged, and the summary of a list
does not depend on how it was put together: a summary is its count, its sum and its sum of
squares in another form, and these add up.
-/

import Mathlib

namespace PairDriver.StreamingMoments

/-- The count, the mean and the sum of squared deviations from the mean. -/
structure Moments (Number : Type) where
  count : Nat
  mean : Number
  m2 : Number
deriving DecidableEq

section StreamingMoments

variable {Number : Type} [Field Number]

def Moments.none : Moments Number := ⟨0, 0, 0⟩

/-- The summary of one more value. -/
def Moments.add (moments : Moments Number) (value : Number) : Moments Number where
  count := moments.count + 1
  mean := moments.mean + (value - moments.mean) / (moments.count + 1 : Nat)
  m2 := moments.m2 + (value - moments.mean) *
    (value - (moments.mean + (value - moments.mean) / (moments.count + 1 : Nat)))

/-- The summary of a list of further values. -/
def Moments.addAll (moments : Moments Number) (values : List Number) : Moments Number :=
  values.foldl Moments.add moments

theorem addAll_append (moments : Moments Number) (first second : List Number) :
    moments.addAll (first ++ second) = (moments.addAll first).addAll second :=
  List.foldl_append

theorem addAll_snoc (moments : Moments Number) (values : List Number) (value : Number) :
    moments.addAll (values ++ [value]) = (moments.addAll values).add value := by
  rw [addAll_append]
  rfl

theorem count_addAll (moments : Moments Number) (values : List Number) :
    (moments.addAll values).count = moments.count + values.length := by
  induction values using List.reverseRecOn with
  | nil => rfl
  | append_singleton values value inductionHypothesis =>
    rw [addAll_snoc, Moments.add, inductionHypothesis, List.length_append]
    rfl

/-! ### Raw sums -/

/-- The sum of the values. -/
def Moments.total (moments : Moments Number) : Number :=
  moments.count * moments.mean

/-- The sum of the squares of the values. -/
def Moments.squares (moments : Moments Number) : Number :=
  moments.m2 + moments.count * moments.mean ^ 2

variable [CharZero Number]

theorem count_cast_ne (moments : Moments Number) : ((moments.count + 1 : Nat) : Number) ≠ 0 :=
  Nat.cast_ne_zero.mpr (Nat.succ_ne_zero _)

theorem total_add (moments : Moments Number) (value : Number) :
    (moments.add value).total = moments.total + value := by
  have positive := count_cast_ne moments
  rw [Moments.total, Moments.total, Moments.add]
  field_simp
  push_cast
  ring

theorem squares_add (moments : Moments Number) (value : Number) :
    (moments.add value).squares = moments.squares + value ^ 2 := by
  have positive := count_cast_ne moments
  rw [Moments.squares, Moments.squares, Moments.add]
  field_simp
  push_cast
  ring

theorem total_addAll (moments : Moments Number) (values : List Number) :
    (moments.addAll values).total = moments.total + values.sum := by
  induction values using List.reverseRecOn with
  | nil => exact (add_zero _).symm
  | append_singleton values value inductionHypothesis =>
    rw [addAll_snoc, total_add, inductionHypothesis, List.sum_append, List.sum_singleton, add_assoc]

theorem squares_addAll (moments : Moments Number) (values : List Number) :
    (moments.addAll values).squares =
      moments.squares + (values.map fun value => value ^ 2).sum := by
  induction values using List.reverseRecOn with
  | nil => exact (add_zero _).symm
  | append_singleton values value inductionHypothesis =>
    rw [addAll_snoc, squares_add, inductionHypothesis, List.map_append, List.sum_append,
      List.map_singleton, List.sum_singleton, add_assoc]

/-! ### The mean and the deviations of a list -/

/-- The mean of a list. -/
def mean (values : List Number) : Number :=
  values.sum / values.length

/-- The sum of the squared deviations from the mean. -/
def deviations (values : List Number) : Number :=
  (values.map fun value => (value - mean values) ^ 2).sum

omit [CharZero Number] in
theorem sum_sq_sub (values : List Number) (center : Number) :
    (values.map fun value => (value - center) ^ 2).sum =
      (values.map fun value => value ^ 2).sum - 2 * center * values.sum +
        values.length * center ^ 2 := by
  induction values with
  | nil => simp
  | cons value rest inductionHypothesis =>
    simp only [List.map_cons, List.sum_cons, inductionHypothesis, List.length_cons]
    push_cast
    ring

theorem length_mul_mean {values : List Number} (some : values ≠ []) :
    values.length * mean values = values.sum := by
  have positive : (values.length : Number) ≠ 0 :=
    Nat.cast_ne_zero.mpr fun none => some (List.length_eq_zero_iff.mp none)
  rw [mean]
  field_simp

theorem deviations_eq {values : List Number} (some : values ≠ []) :
    deviations values =
      (values.map fun value => value ^ 2).sum - values.length * mean values ^ 2 := by
  rw [deviations, sum_sq_sub, ← length_mul_mean some]
  ring

/-- The summary of a list that arrived one value at a time. -/
theorem addAll_none {values : List Number} (some : values ≠ []) :
    (Moments.none.addAll values : Moments Number) =
      ⟨values.length, mean values, deviations values⟩ := by
  have count : (Moments.none.addAll values : Moments Number).count = values.length := by
    rw [count_addAll]
    exact Nat.zero_add _
  have positive : (values.length : Number) ≠ 0 :=
    Nat.cast_ne_zero.mpr fun none => some (List.length_eq_zero_iff.mp none)
  have total := total_addAll (Moments.none : Moments Number) values
  have squares := squares_addAll (Moments.none : Moments Number) values
  have zeroTotal : (Moments.none : Moments Number).total = 0 := by
    rw [Moments.total, Moments.none, Nat.cast_zero, zero_mul]
  have zeroSquares : (Moments.none : Moments Number).squares = 0 := by
    rw [Moments.squares, Moments.none, Nat.cast_zero, zero_mul, add_zero]
  rw [zeroTotal, zero_add, Moments.total, count] at total
  rw [zeroSquares, zero_add, Moments.squares, count] at squares
  have same : (Moments.none.addAll values : Moments Number).mean = mean values := by
    rw [mean, eq_div_iff positive, mul_comm]
    exact total
  have m2 : (Moments.none.addAll values : Moments Number).m2 = deviations values := by
    rw [deviations_eq some, ← squares, same]
    ring
  rw [← count, ← same, ← m2]

end StreamingMoments

/-! ### Order -/

section Order

variable {Number : Type} [Field Number] [LinearOrder Number] [IsStrictOrderedRing Number]

theorem add_m2_nonneg {moments : Moments Number} (nonneg : 0 ≤ moments.m2) (value : Number) :
    0 ≤ (moments.add value).m2 := by
  have positive : (0 : Number) < (moments.count + 1 : Nat) := Nat.cast_pos.mpr (Nat.succ_pos _)
  have product : (value - moments.mean) *
      (value - (moments.mean + (value - moments.mean) / (moments.count + 1 : Nat))) =
        (value - moments.mean) ^ 2 * (moments.count / (moments.count + 1 : Nat)) := by
    field_simp
    push_cast
    ring
  rw [Moments.add, product]
  positivity

theorem addAll_m2_nonneg {moments : Moments Number} (nonneg : 0 ≤ moments.m2)
    (values : List Number) : 0 ≤ (moments.addAll values).m2 := by
  induction values using List.reverseRecOn with
  | nil => exact nonneg
  | append_singleton values value inductionHypothesis =>
    rw [addAll_snoc]
    exact add_m2_nonneg inductionHypothesis value

/-- A mean stays within bounds that hold of it and of the value. -/
theorem add_mean_mem {moments : Moments Number} {value : Number} {bounds : Set Number}
    [bounds.OrdConnected] (before : moments.mean ∈ bounds) (new : value ∈ bounds) :
    (moments.add value).mean ∈ bounds := by
  have positive : (0 : Number) < (moments.count + 1 : Nat) := Nat.cast_pos.mpr (Nat.succ_pos _)
  have one : (1 : Number) ≤ (moments.count + 1 : Nat) := by
    exact_mod_cast Nat.succ_le_succ (Nat.zero_le moments.count)
  have between : (moments.add value).mean ∈ Set.uIcc moments.mean value := by
    rw [Moments.add, Set.mem_uIcc]
    rcases le_total moments.mean value with up | down
    · have step := div_nonneg (sub_nonneg.mpr up) positive.le
      have small := div_le_self (sub_nonneg.mpr up) one
      exact Or.inl ⟨by linarith, by linarith⟩
    · have step := div_nonneg (sub_nonneg.mpr down) positive.le
      have small := div_le_self (sub_nonneg.mpr down) one
      have turned : (value - moments.mean) / ((moments.count + 1 : Nat) : Number) =
          -((moments.mean - value) / ((moments.count + 1 : Nat) : Number)) := by ring
      rw [turned]
      exact Or.inr ⟨by linarith, by linarith⟩
  exact Set.OrdConnected.uIcc_subset inferInstance before new between

end Order

end PairDriver.StreamingMoments
