/-
This file develops weighted least squares over an ordered field: sums of weighted squares of
vectors, the minimizer of a sum whose terms are affine in the unknown, and the identity of a
weighted sum of squared differences over all pairs with the weighted squares about the mean.
-/

import Mathlib

namespace PairDriver.LeastSquares

open Matrix

variable {Index Axis Number : Type} [Fintype Index] [Fintype Axis]

/-! ### Squares -/

section Ring

variable [CommRing Number]

/-- The square of the length of a vector. -/
def sqNorm (vector : Axis → Number) : Number := vector ⬝ᵥ vector

theorem sqNorm_sub (first second : Axis → Number) :
    sqNorm (first - second) = sqNorm first - 2 * (first ⬝ᵥ second) + sqNorm second := by
  unfold sqNorm
  rw [sub_dotProduct, dotProduct_sub, dotProduct_sub, dotProduct_comm second first]
  ring

theorem sqNorm_add (first second : Axis → Number) :
    sqNorm (first + second) = sqNorm first + 2 * (first ⬝ᵥ second) + sqNorm second := by
  unfold sqNorm
  rw [add_dotProduct, dotProduct_add, dotProduct_add, dotProduct_comm second first]
  ring

/-- The weighted sum of the squares of vectors. -/
def sumSquares (weights : Index → Number) (vectors : Index → Axis → Number) : Number :=
  ∑ index, weights index * sqNorm (vectors index)

theorem sumSquares_add (weights : Index → Number) (first second : Index → Axis → Number) :
    sumSquares weights (fun index => first index + second index) =
      sumSquares weights first +
        2 * ∑ index, weights index * (first index ⬝ᵥ second index) +
        sumSquares weights second := by
  unfold sumSquares
  rw [Finset.mul_sum, ← Finset.sum_add_distrib, ← Finset.sum_add_distrib]
  refine Finset.sum_congr rfl fun index _ => ?_
  rw [sqNorm_add]
  ring

theorem sqNorm_neg (vector : Axis → Number) : sqNorm (-vector) = sqNorm vector := by
  unfold sqNorm
  rw [neg_dotProduct, dotProduct_neg, neg_neg]

theorem sqNorm_smul (factor : Number) (vector : Axis → Number) :
    sqNorm (factor • vector) = factor ^ 2 * sqNorm vector := by
  unfold sqNorm
  rw [smul_dotProduct, dotProduct_smul, smul_eq_mul, smul_eq_mul]
  ring

/-- The weighted squares about a point, by the weighted sum of the vectors. -/
theorem sumSquares_sub (weights : Index → Number) (vectors : Index → Axis → Number)
    (point : Axis → Number) :
    sumSquares weights (fun index => vectors index - point) =
      sumSquares weights vectors -
        2 * ((∑ index, weights index • vectors index) ⬝ᵥ point) +
        (∑ index, weights index) * sqNorm point := by
  unfold sumSquares
  rw [sum_dotProduct, Finset.mul_sum, Finset.sum_mul, ← Finset.sum_sub_distrib,
    ← Finset.sum_add_distrib]
  refine Finset.sum_congr rfl fun index _ => ?_
  rw [sqNorm_sub, smul_dotProduct, smul_eq_mul]
  ring

/-! ### Pairs -/

/-- A symmetric sum over all pairs is twice that over the ordered ones, if the diagonal is zero. -/
theorem sum_sum_eq_two_mul [LinearOrder Index] [LocallyFiniteOrderBot Index]
    (term : Index → Index → Number) (symmetric : ∀ i j, term i j = term j i)
    (diagonal : ∀ i, term i i = 0) :
    ∑ i, ∑ j, term i j = 2 * ∑ i, ∑ j ∈ Finset.Iio i, term i j := by
  have below : ∀ i, ∑ j ∈ Finset.Iio i, term i j = ∑ j, if j < i then term i j else 0 := by
    intro i
    rw [← Finset.sum_filter, Finset.filter_gt_eq_Iio]
  have halves : ∀ i j, term i j =
      (if j < i then term i j else 0) + if i < j then term j i else 0 := by
    intro i j
    rcases lt_trichotomy i j with less | rfl | greater
    · rw [if_neg less.asymm, if_pos less, zero_add, symmetric]
    · rw [if_neg (lt_irrefl i), zero_add, diagonal]
    · rw [if_pos greater, if_neg greater.asymm, add_zero]
  have split : ∑ i, ∑ j, term i j =
      ∑ i, ∑ j, (if j < i then term i j else 0) + ∑ i, ∑ j, if i < j then term j i else 0 := by
    rw [← Finset.sum_add_distrib]
    refine Finset.sum_congr rfl fun i _ => ?_
    rw [← Finset.sum_add_distrib]
    exact Finset.sum_congr rfl fun j _ => halves i j
  rw [split, Finset.sum_comm (f := fun i j => if i < j then term j i else 0), two_mul]
  simp only [below]

/-- Those before an index in the list of all indices are those below it. -/
theorem sum_take_finRange {count : Nat} (term : Fin count → Number) (i : Fin count) :
    (((List.finRange count).take i).map term).sum = ∑ j ∈ Finset.Iio i, term j := by
  have members : ((List.finRange count).take i).toFinset = Finset.Iio i := by
    ext j
    rw [List.mem_toFinset, Finset.mem_Iio, List.mem_take_iff_getElem]
    refine ⟨?_, fun below => ?_⟩
    · rintro ⟨position, bound, rfl⟩
      rw [List.getElem_finRange]
      exact (lt_min_iff.mp bound).1
    · have listed : (j : Nat) < (List.finRange count).length :=
        j.isLt.trans_eq List.length_finRange.symm
      exact ⟨j, lt_min_iff.mpr ⟨below, listed⟩, List.getElem_finRange _⟩
  rw [← members,
    List.sum_toFinset term ((List.take_sublist _ _).nodup (List.nodup_finRange count))]

/-- The sum over a list built pair by pair is the sum over all pairs. -/
theorem sum_pairs {count : Nat} {Row : Type} (rows : Fin count → Fin count → List Row)
    (term : Row → Number) :
    (((List.finRange count).flatMap fun (i : Fin count) =>
      ((List.finRange count).take i).flatMap (rows i)).map term).sum =
        ∑ i, ∑ j ∈ Finset.Iio i, ((rows i j).map term).sum := by
  rw [Fin.sum_univ_def, List.map_flatMap, List.flatMap_def, List.sum_flatten, List.map_map]
  refine congrArg List.sum (List.map_congr_left fun i _ => ?_)
  rw [← sum_take_finRange, Function.comp_apply, List.map_flatMap, List.flatMap_def,
    List.sum_flatten, List.map_map]
  rfl

theorem sum_sum_differences (weights : Index → Number) (vectors : Index → Axis → Number) :
    ∑ i, ∑ j, weights i * weights j * sqNorm (vectors j - vectors i) =
      2 * ((∑ index, weights index) * sumSquares weights vectors -
        sqNorm (∑ index, weights index • vectors index)) := by
  have row : ∀ i, ∑ j, weights i * weights j * sqNorm (vectors j - vectors i) =
      weights i * sumSquares weights vectors -
        2 * ((∑ index, weights index • vectors index) ⬝ᵥ weights i • vectors i) +
        (∑ index, weights index) * (weights i * sqNorm (vectors i)) := by
    intro i
    have about := sumSquares_sub weights vectors (vectors i)
    unfold sumSquares at about ⊢
    rw [dotProduct_smul, smul_eq_mul]
    simp only [mul_assoc, ← Finset.mul_sum]
    rw [about]
    ring
  rw [Finset.sum_congr rfl fun i _ => row i, Finset.sum_add_distrib, Finset.sum_sub_distrib,
    ← Finset.sum_mul, ← Finset.mul_sum, ← Finset.mul_sum, ← dotProduct_sum]
  unfold sumSquares sqNorm
  ring

/-- The weighted squares of the differences of all pairs. -/
def pairSquares [LinearOrder Index] [LocallyFiniteOrderBot Index] (weights : Index → Number)
    (vectors : Index → Axis → Number) : Number :=
  ∑ i, ∑ j ∈ Finset.Iio i, weights i * weights j * sqNorm (vectors j - vectors i)

end Ring

section Order

variable [Field Number] [LinearOrder Number] [IsStrictOrderedRing Number]

theorem sqNorm_nonneg (vector : Axis → Number) : 0 ≤ sqNorm vector :=
  Finset.sum_nonneg fun axis _ => mul_self_nonneg (vector axis)

theorem sqNorm_eq_zero {vector : Axis → Number} : sqNorm vector = 0 ↔ vector = 0 :=
  dotProduct_self_eq_zero

theorem sumSquares_nonneg {weights : Index → Number} (positive : ∀ index, 0 < weights index)
    (vectors : Index → Axis → Number) : 0 ≤ sumSquares weights vectors :=
  Finset.sum_nonneg fun index _ => mul_nonneg (positive index).le (sqNorm_nonneg _)

theorem sumSquares_eq_zero {weights : Index → Number} (positive : ∀ index, 0 < weights index)
    {vectors : Index → Axis → Number} :
    sumSquares weights vectors = 0 ↔ ∀ index, vectors index = 0 := by
  unfold sumSquares
  rw [Finset.sum_eq_zero_iff_of_nonneg
    fun index _ => mul_nonneg (positive index).le (sqNorm_nonneg _)]
  refine forall_congr' fun index => ?_
  rw [mul_eq_zero, or_iff_right (positive index).ne', sqNorm_eq_zero]
  exact ⟨fun zero => zero (Finset.mem_univ _), fun zero _ => zero⟩

/-! ### Minimizers -/

/-- The objective is smaller there than anywhere else. -/
def UniqueMinimizer {Point : Type} (objective : Point → Number) (point : Point) : Prop :=
  ∀ other, other ≠ point → objective point < objective other

/-- Terms that change by a part orthogonal to them, which is zero for no other point, are least
where they are. -/
theorem uniqueMinimizer_of_orthogonal {Point : Type} {weights : Index → Number}
    (positive : ∀ index, 0 < weights index) (terms : Point → Index → Axis → Number) (point : Point)
    (change : Point → Index → Axis → Number)
    (moves : ∀ other index, terms other index = terms point index + change other index)
    (orthogonal : ∀ other, ∑ index, weights index * (terms point index ⬝ᵥ change other index) = 0)
    (determined : ∀ other, (∀ index, change other index = 0) → other = point) :
    UniqueMinimizer (fun other => sumSquares weights (terms other)) point := by
  intro other apart
  have moved : sumSquares weights (terms other) =
      sumSquares weights (terms point) + sumSquares weights (change other) := by
    rw [funext (moves other), sumSquares_add, orthogonal, mul_zero, add_zero]
  have further : 0 < sumSquares weights (change other) := by
    refine lt_of_le_of_ne (sumSquares_nonneg positive _) fun zero => apart ?_
    exact determined other ((sumSquares_eq_zero positive).mp zero.symm)
  show sumSquares weights (terms point) < sumSquares weights (terms other)
  rw [moved]
  exact lt_add_of_pos_right _ further

/-- A multiple of an objective by a positive factor has the same minimizer. -/
theorem UniqueMinimizer.scale {Point : Type} {objective scaled : Point → Number} {point : Point}
    (least : UniqueMinimizer objective point) {factor : Number} (positive : 0 < factor)
    (multiple : ∀ other, scaled other = factor * objective other) :
    UniqueMinimizer scaled point := by
  intro other apart
  rw [multiple, multiple]
  exact mul_lt_mul_of_pos_left (least other apart) positive

omit [Field Number] [IsStrictOrderedRing Number] in
/-- Where a second unknown has its best value for every first one, the first part of the minimizer
minimizes what is left. -/
theorem UniqueMinimizer.first {First Second : Type} {objective : First × Second → Number}
    {point : First × Second} (least : UniqueMinimizer objective point) (best : First → Second)
    (atPoint : best point.1 = point.2) :
    UniqueMinimizer (fun first => objective (first, best first)) point.1 := by
  intro other apart
  dsimp only
  rw [atPoint]
  exact least (other, best other) fun same => apart (congrArg Prod.fst same)

/-- The weighted squares of all pairs are those about the mean, times the weight sum. -/
theorem pairSquares_eq [LinearOrder Index] [LocallyFiniteOrderBot Index]
    (weights : Index → Number) (vectors : Index → Axis → Number) {mean : Axis → Number}
    (balanced : (∑ index, weights index) • mean = ∑ index, weights index • vectors index) :
    pairSquares weights vectors =
      (∑ index, weights index) * sumSquares weights fun index => vectors index - mean := by
  have twice := sum_sum_eq_two_mul
    (fun i j => weights i * weights j * sqNorm (vectors j - vectors i))
    (fun i j => by rw [← neg_sub, sqNorm_neg, mul_comm (weights i)])
    (fun i => by rw [sub_self, sqNorm_eq_zero.mpr rfl, mul_zero])
  rw [sum_sum_differences] at twice
  have pairs : pairSquares weights vectors = (∑ index, weights index) *
      sumSquares weights vectors - sqNorm (∑ index, weights index • vectors index) :=
    (mul_left_cancel₀ two_ne_zero twice).symm
  rw [pairs, sumSquares_sub, ← balanced, smul_dotProduct, sqNorm_smul, smul_eq_mul]
  unfold sqNorm
  ring

end Order

end PairDriver.LeastSquares
