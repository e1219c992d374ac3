/-
This file counts what a counter has counted from readings of it, when the counter can be set
back to zero between two readings. A reading that is not below the one before adds the
difference, a reading that is below adds itself.

The greatest reading is the same number exactly if the readings rise and then at most fall to
zero and stay there.
-/

import Mathlib.Data.List.Basic
import Mathlib.Data.List.Induction
import Mathlib.Order.MinMax

namespace PairDriver.CounterIncrements

/-! ### Readings -/

/-- What a counter has counted between two readings. -/
def increment (before reading : Nat) : Nat :=
  if before ≤ reading then reading - before else reading

def increments : Nat → List Nat → Nat
  | _, [] => 0
  | before, reading :: readings => increment before reading + increments reading readings

def highest (readings : List Nat) : Nat :=
  readings.foldl max 0

def latest (readings : List Nat) : Nat :=
  readings.getLast?.getD 0

theorem highest_concat (readings : List Nat) (reading : Nat) :
    highest (readings ++ [reading]) = max (highest readings) reading :=
  List.foldl_concat _ _ _ _

theorem latest_concat (readings : List Nat) (reading : Nat) :
    latest (readings ++ [reading]) = reading := by
  rw [latest, List.getLast?_concat, Option.getD_some]

theorem increments_concat (before : Nat) (readings : List Nat) (reading : Nat) :
    increments before (readings ++ [reading]) =
      increments before readings + increment (readings.getLast?.getD before) reading := by
  induction readings generalizing before with
  | nil => exact Nat.add_comm _ _
  | cons first rest inductionHypothesis =>
    have last : (first :: rest).getLast?.getD before = rest.getLast?.getD first := by
      rw [List.getLast?_cons, Option.getD_some]
    show increment before first + increments first (rest ++ [reading]) = _
    rw [inductionHypothesis, last, ← Nat.add_assoc]
    rfl

theorem latest_le_highest (readings : List Nat) : latest readings ≤ highest readings := by
  induction readings using List.reverseRecOn with
  | nil => exact Nat.le_refl 0
  | append_singleton readings reading _ =>
    rw [latest_concat, highest_concat]
    exact Nat.le_max_right _ _

/-- One more reading: both numbers grow, and the sum of the increments by no less. -/
theorem increments_concat_highest (readings : List Nat) (reading : Nat) :
    increments 0 (readings ++ [reading]) + highest readings =
      increments 0 readings + (increment (latest readings) reading + highest readings) := by
  rw [increments_concat, Nat.add_assoc]
  rfl

theorem max_le_increment {before mark : Nat} (reading : Nat) (below : before ≤ mark) :
    max mark reading ≤ increment before reading + mark := by
  unfold increment
  split <;> omega

/-- A reading adds to the greatest one what it adds to the sum. -/
theorem max_eq_increment_iff {before mark reading : Nat} (below : before ≤ mark) :
    max mark reading = increment before reading + mark ↔
      reading = before ∨ reading = 0 ∨ before = mark ∧ mark < reading := by
  unfold increment
  split <;> omega

theorem highest_le_increments (readings : List Nat) :
    highest readings ≤ increments 0 readings := by
  induction readings using List.reverseRecOn with
  | nil => exact Nat.le_refl 0
  | append_singleton readings reading inductionHypothesis =>
    have step := max_le_increment reading (latest_le_highest readings)
    have grown := increments_concat_highest readings reading
    rw [highest_concat]
    omega

theorem highest_eq_increments_concat_iff (readings : List Nat) (reading : Nat) :
    highest (readings ++ [reading]) = increments 0 (readings ++ [reading]) ↔
      highest readings = increments 0 readings ∧
        (reading = latest readings ∨ reading = 0 ∨
          latest readings = highest readings ∧ highest readings < reading) := by
  have earlier := highest_le_increments readings
  have step := max_le_increment reading (latest_le_highest readings)
  have grown := increments_concat_highest readings reading
  rw [← max_eq_increment_iff (latest_le_highest readings), highest_concat]
  omega

/-! ### Readings without a count after a reset -/

/-- The readings rise, and at their end the counter may be zero for good. -/
def Unbroken (readings : List Nat) : Prop :=
  ∃ rising zeros, readings = rising ++ List.replicate zeros 0 ∧ rising.Pairwise (· ≤ ·)

theorem highest_le_iff {readings : List Nat} {bound : Nat} :
    highest readings ≤ bound ↔ ∀ reading ∈ readings, reading ≤ bound := by
  induction readings using List.reverseRecOn with
  | nil => exact iff_of_true (Nat.zero_le bound) fun _ member => nomatch member
  | append_singleton readings reading inductionHypothesis =>
    rw [highest_concat, Nat.max_le, inductionHypothesis, List.forall_mem_append,
      List.forall_mem_singleton]

theorem sorted_concat_iff {readings : List Nat} {reading : Nat} :
    (readings ++ [reading]).Pairwise (· ≤ ·) ↔
      readings.Pairwise (· ≤ ·) ∧ highest readings ≤ reading := by
  rw [List.pairwise_append, highest_le_iff]
  constructor
  · rintro ⟨rising, _, below⟩
    exact ⟨rising, fun earlier member => below earlier member reading (.head _)⟩
  · rintro ⟨rising, below⟩
    refine ⟨rising, List.pairwise_singleton _ _, fun earlier member last final => ?_⟩
    rw [List.mem_singleton.mp final]
    exact below earlier member

theorem highest_of_sorted {readings : List Nat} (sorted : readings.Pairwise (· ≤ ·)) :
    highest readings = latest readings := by
  induction readings using List.reverseRecOn with
  | nil => rfl
  | append_singleton readings reading _ =>
    rw [highest_concat, latest_concat, Nat.max_eq_right (sorted_concat_iff.mp sorted).2]

theorem latest_append_zeros (readings : List Nat) (zeros : Nat) :
    latest (readings ++ List.replicate (zeros + 1) 0) = 0 := by
  rw [List.replicate_succ', ← List.append_assoc, latest_concat]

theorem highest_cons (first : Nat) (readings : List Nat) :
    highest (first :: readings) = max first (highest readings) := by
  induction readings using List.reverseRecOn with
  | nil => exact Nat.max_comm _ _
  | append_singleton readings reading inductionHypothesis =>
    rw [← List.cons_append, highest_concat, highest_concat, inductionHypothesis, Nat.max_assoc]

/-- The greatest reading is what the counter has counted exactly if no count follows a reset. -/
theorem highest_eq_increments_iff (readings : List Nat) :
    highest readings = increments 0 readings ↔ Unbroken readings := by
  constructor
  · intro same
    induction readings using List.reverseRecOn with
    | nil => exact ⟨[], 0, rfl, List.Pairwise.nil⟩
    | append_singleton readings reading inductionHypothesis =>
      obtain ⟨earlier, next⟩ := (highest_eq_increments_concat_iff readings reading).mp same
      obtain ⟨rising, zeros, rfl, sorted⟩ := inductionHypothesis earlier
      have falls : reading = 0 → Unbroken (rising ++ List.replicate zeros 0 ++ [reading]) := by
        rintro rfl
        exact ⟨rising, zeros + 1, by rw [List.replicate_succ', List.append_assoc], sorted⟩
      cases zeros with
      | zero =>
        rw [List.replicate_zero, List.append_nil] at next falls ⊢
        have top := highest_of_sorted sorted
        rcases next with kept | zero | ⟨_, above⟩
        · exact ⟨rising ++ [reading], 0, (List.append_nil _).symm,
            sorted_concat_iff.mpr ⟨sorted, by rw [top, kept]⟩⟩
        · exact falls zero
        · exact ⟨rising ++ [reading], 0, (List.append_nil _).symm,
            sorted_concat_iff.mpr ⟨sorted, Nat.le_of_lt above⟩⟩
      | succ zeros =>
        rw [latest_append_zeros] at next
        rcases next with kept | zero | ⟨lowest, _⟩
        · exact falls kept
        · exact falls zero
        · have all := highest_le_iff.mp (Nat.le_of_eq lowest.symm)
          refine ⟨rising ++ List.replicate (zeros + 1) 0 ++ [reading], 0,
            (List.append_nil _).symm, sorted_concat_iff.mpr ⟨?_, by rw [← lowest]; omega⟩⟩
          exact List.pairwise_of_forall_mem_list fun first member second _ =>
            (all first member).trans (Nat.zero_le second)
  · rintro ⟨rising, zeros, rfl, sorted⟩
    induction zeros with
    | zero =>
      rw [List.replicate_zero, List.append_nil]
      induction rising using List.reverseRecOn with
      | nil => rfl
      | append_singleton readings reading inductionHypothesis =>
        obtain ⟨earlier, below⟩ := sorted_concat_iff.mp sorted
        refine (highest_eq_increments_concat_iff readings reading).mpr
          ⟨inductionHypothesis earlier, ?_⟩
        rw [highest_of_sorted earlier] at below ⊢
        rcases Nat.eq_or_lt_of_le below with kept | above
        · exact Or.inl kept.symm
        · exact Or.inr (Or.inr ⟨rfl, above⟩)
    | succ zeros inductionHypothesis =>
      rw [List.replicate_succ', ← List.append_assoc]
      exact (highest_eq_increments_concat_iff _ 0).mpr ⟨inductionHypothesis, Or.inr (Or.inl rfl)⟩

end PairDriver.CounterIncrements
