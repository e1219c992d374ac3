/-
This file is about the scale estimate `Qn`.

The estimate is an order statistic of the distances of all pairs. Its rank is the
number of pairs of a majority, so as long as a majority of the values is untouched,
the estimate stays within their range, whatever the other values are. A permutation of
a list within the cap does not change it, nor does a translation of any list. Of a
longer list it takes as many positions as the cap, in their order.
-/

import PairDriver.OrderStatistics
import PairDriver.RobustWeights

namespace PairDriver.QnScale

open OrderStatistics TranslationSolve

/-! ### Corruption -/

section Corruption

variable {Number : Type}

/-- A value of a list, and the value that replaces it, if any. -/
structure Entry (Number : Type) where
  value : Number
  replacement : Option Number := none

def Entry.current (entry : Entry Number) : Number :=
  entry.replacement.getD entry.value

/-- The list after the replacements. -/
def corrupted (entries : List (Entry Number)) : List Number :=
  entries.map Entry.current

def replacedCount (entries : List (Entry Number)) : Nat :=
  entries.countP fun entry => entry.replacement.isSome

def untouched (entries : List (Entry Number)) : List Number :=
  (entries.filter fun entry => entry.replacement.isNone).map Entry.value

theorem untouched_sublist (entries : List (Entry Number)) :
    (untouched entries).Sublist (corrupted entries) := by
  have same : untouched entries =
      (entries.filter fun entry => entry.replacement.isNone).map Entry.current := by
    refine List.map_congr_left fun entry member => ?_
    have kept := (List.mem_filter.mp member).2
    rw [Entry.current, Option.isNone_iff_eq_none.mp kept, Option.getD_none]
  rw [same]
  exact List.filter_sublist.map _

theorem length_untouched (entries : List (Entry Number)) :
    (untouched entries).length + replacedCount entries = entries.length := by
  rw [untouched, List.length_map, ← List.countP_eq_length_filter, replacedCount, add_comm,
    List.length_eq_countP_add_countP fun entry : Entry Number => entry.replacement.isSome]
  congr 1
  exact List.countP_congr fun entry _ => by simp

end Corruption

/-! ### The stride -/

section Stride

variable {Number : Type} [Field Number] {size : Nat}

/-- The positions of a list of `size` values that the stride visits. -/
def stridePositions (size : Nat) : List Nat :=
  (List.range kQnInputCap).map fun i => min (i * size / kQnInputCap) (size - 1)

theorem stridePositions_eq (long : kQnInputCap < size) :
    stridePositions size = (List.range kQnInputCap).map fun i => i * size / kQnInputCap := by
  refine List.map_congr_left fun i member => min_eq_left (Nat.le_sub_one_of_lt ?_)
  have below := List.mem_range.mp member
  exact Nat.div_lt_of_lt_mul (Nat.mul_lt_mul_of_pos_right below (by omega))

theorem stridePositions_pairwise (long : kQnInputCap < size) :
    (stridePositions size).Pairwise (· < ·) := by
  rw [stridePositions_eq long, List.pairwise_map]
  refine List.pairwise_lt_range.imp fun {i j} before => ?_
  have next : i * size + kQnInputCap ≤ j * size := by
    have later := Nat.mul_le_mul_right size before
    rw [Nat.succ_mul] at later
    omega
  have quotient := Nat.div_le_div_right (c := kQnInputCap) next
  rw [Nat.add_div_right _ (by decide)] at quotient
  exact quotient

theorem lt_of_mem_stridePositions (long : kQnInputCap < size) {position : Nat}
    (member : position ∈ stridePositions size) : position < size := by
  obtain ⟨i, -, rfl⟩ := List.mem_map.mp member
  exact (min_le_right _ _).trans_lt (by omega)

theorem strideSample_eq (xs : List Number) :
    strideSample xs = (stridePositions xs.length).map fun position => xs.getD position 0 := by
  rw [strideSample, stridePositions, List.map_map]
  rfl

theorem length_strideSample (xs : List Number) : (strideSample xs).length = kQnInputCap := by
  rw [strideSample, List.length_map, List.length_range]

theorem strideSample_map (image : Number → Number) {xs : List Number}
    (long : kQnInputCap < xs.length) :
    strideSample (xs.map image) = (strideSample xs).map image := by
  rw [strideSample_eq, strideSample_eq, List.map_map, List.length_map]
  refine List.map_congr_left fun position member => ?_
  have inside := lt_of_mem_stridePositions long member
  rw [Function.comp_apply, List.getD_eq_getElem _ _ inside,
    List.getD_eq_getElem _ _ (by rwa [List.length_map]), List.getElem_map]

/-- The values that `qn` compares. -/
def sampled (xs : List Number) : List Number :=
  if kQnInputCap < xs.length then strideSample xs else xs

theorem sampled_map (image : Number → Number) (xs : List Number) :
    sampled (xs.map image) = (sampled xs).map image := by
  rw [sampled, sampled, List.length_map]
  split
  · next long => exact strideSample_map image long
  · rfl

end Stride

/-! ### The estimate in terms of its rank -/

variable {Number : Type} [Field Number] [LinearOrder Number]

/-- The greatest value less the least. -/
def range (values : List Number) : Number :=
  values.max?.getD 0 - values.min?.getD 0

/-- The index into the sorted distances of `count` values. -/
def qnRank (count : Nat) : Nat :=
  let numPairs := count * (count - 1) / 2
  let h := count / 2 + 1
  let k := h * (h - 1) / 2
  if 0 < k ∧ k - 1 < numPairs then k - 1 else numPairs - 1

theorem pairDistances_eq (xs : List Number) :
    pairDistances xs = pairsWith (fun first second => |first - second|) xs := by
  induction xs with
  | nil => rfl
  | cons x rest inductionHypothesis => rw [pairDistances, pairsWith, inductionHypothesis]

theorem pairDistances_sublist {first second : List Number} (fewer : first.Sublist second) :
    (pairDistances first).Sublist (pairDistances second) := by
  rw [pairDistances_eq, pairDistances_eq]
  exact pairsWith_sublist fewer

theorem pairDistances_perm [IsStrictOrderedRing Number] {first second : List Number}
    (same : first.Perm second) : (pairDistances first).Perm (pairDistances second) := by
  rw [pairDistances_eq, pairDistances_eq]
  exact pairsWith_perm abs_sub_comm same

theorem qn_eq {xs : List Number} (two : 2 ≤ xs.length) :
    qn xs = orderStatistic 0 (pairDistances (sampled xs)) (qnRank (sampled xs).length) *
      kQnConsistency := by
  rw [qn, if_neg (not_lt.mpr two)]
  rfl

/-- The estimate of a longer list is the estimate of its sample. -/
theorem qn_strideSample {xs : List Number} (long : kQnInputCap < xs.length) :
    qn xs = qn (strideSample xs) := by
  have size := length_strideSample xs
  have several : 2 ≤ kQnInputCap := by decide
  have sample : sampled (strideSample xs) = sampled xs := by
    rw [sampled, sampled, if_pos long, if_neg size.le.not_gt]
  rw [qn_eq (several.trans long.le), qn_eq (several.trans_eq size.symm), sample]

/-- The rank counts the pairs of a majority. -/
theorem qnRank_succ {count : Nat} (two : 2 ≤ count) :
    qnRank count + 1 = (count / 2 + 1).choose 2 := by
  have some : 1 ≤ (count / 2 + 1).choose 2 := Nat.choose_pos (by omega)
  have fewer : (count / 2 + 1).choose 2 ≤ count.choose 2 := Nat.choose_mono 2 (by omega)
  rw [qnRank, ← Nat.choose_two_right, ← Nat.choose_two_right, if_pos (by omega)]
  omega

/-! ### Breakdown -/

theorem le_max {values : List Number} {value : Number} (member : value ∈ values) :
    value ≤ values.max?.getD 0 := by
  cases greatest : values.max? with
  | none => exact absurd member (by rw [List.max?_eq_none_iff.mp greatest]; exact List.not_mem_nil)
  | some max => exact (List.max?_eq_some_iff.mp greatest).2 value member

theorem min_le {values : List Number} {value : Number} (member : value ∈ values) :
    values.min?.getD 0 ≤ value := by
  cases least : values.min? with
  | none => exact absurd member (by rw [List.min?_eq_none_iff.mp least]; exact List.not_mem_nil)
  | some min => exact (List.min?_eq_some_iff.mp least).2 value member

variable [IsStrictOrderedRing Number]

theorem abs_sub_le_range {values : List Number} {first second : Number} (left : first ∈ values)
    (right : second ∈ values) : |first - second| ≤ range values := by
  rw [range, abs_le, neg_sub]
  exact ⟨sub_le_sub (min_le left) (le_max right), sub_le_sub (le_max left) (min_le right)⟩

/-- All pairs of the values are within their range. -/
theorem countP_pairDistances (values : List Number) :
    (pairDistances values).countP (· ≤ range values) = values.length.choose 2 := by
  rw [pairDistances_eq, ← length_pairsWith, List.countP_eq_length]
  intro distance member
  obtain ⟨first, left, second, right, rfl⟩ := exists_of_mem_pairsWith member
  exact decide_eq_true (abs_sub_le_range left right)

/-- More pairs than the rank are within the range of the untouched values. -/
theorem qnRank_lt_countP {entries : List (Entry Number)} (two : 2 ≤ entries.length)
    (minority : replacedCount entries ≤ (entries.length + 1) / 2 - 1) :
    qnRank entries.length <
      (pairDistances (corrupted entries)).countP (· ≤ range (untouched entries)) := by
  have majority : entries.length / 2 + 1 ≤ (untouched entries).length := by
    have parts := length_untouched entries
    omega
  have rank := qnRank_succ two
  have pairs : (entries.length / 2 + 1).choose 2 ≤ (untouched entries).length.choose 2 :=
    Nat.choose_mono 2 majority
  rw [← countP_pairDistances] at pairs
  exact (Nat.lt_of_succ_le (rank.trans_le pairs)).trans_le
    (pairDistances_sublist (untouched_sublist entries)).countP_le

theorem kQnConsistency_nonneg : (0 : Number) ≤ kQnConsistency := by
  rw [kQnConsistency]
  positivity

/-- A minority of replaced values does not carry the estimate beyond the range of the others. -/
theorem qn_corrupted_le {entries : List (Entry Number)} (two : 2 ≤ entries.length)
    (cap : entries.length ≤ kQnInputCap)
    (minority : replacedCount entries ≤ (entries.length + 1) / 2 - 1) :
    qn (corrupted entries) ≤ kQnConsistency * range (untouched entries) := by
  have size : (corrupted entries).length = entries.length := List.length_map _
  have whole : sampled (corrupted entries) = corrupted entries := by
    rw [sampled, if_neg (by omega)]
  rw [qn_eq (by omega), whole, size, mul_comm]
  exact mul_le_mul_of_nonneg_left (orderStatistic_le (qnRank_lt_countP two minority))
    kQnConsistency_nonneg

/-! ### Permutations, translations and multiples -/

theorem qn_perm {first second : List Number} (cap : first.length ≤ kQnInputCap)
    (same : first.Perm second) : qn first = qn second := by
  by_cases two : 2 ≤ first.length
  · have size := same.length_eq
    rw [qn_eq two, qn_eq (size ▸ two), sampled, sampled, if_neg (by omega), if_neg (by omega), size,
      orderStatistic_perm (pairDistances_perm same)]
  · rw [qn, qn, if_pos (by omega), if_pos (by have := same.length_eq; omega)]

/-- A map that multiplies every distance multiplies the estimate. -/
theorem qn_map {image : Number → Number} {factor : Number} (nonneg : 0 ≤ factor)
    (distances : ∀ first second, |image first - image second| = factor * |first - second|)
    (xs : List Number) : qn (xs.map image) = factor * qn xs := by
  by_cases two : 2 ≤ xs.length
  · have scaled : pairDistances ((sampled xs).map image) =
        (pairDistances (sampled xs)).map (factor * ·) := by
      simp only [pairDistances_eq, pairsWith_map, map_pairsWith, distances]
    have monotone : Monotone (factor * · : Number → Number) :=
      fun _ _ atMost => mul_le_mul_of_nonneg_left atMost nonneg
    have rank := orderStatistic_map monotone 0 (pairDistances (sampled xs))
      (qnRank (sampled xs).length)
    rw [mul_zero] at rank
    rw [qn_eq two, qn_eq (by rwa [List.length_map]), sampled_map, scaled, List.length_map, rank,
      mul_assoc]
  · rw [qn, qn, if_pos (by rw [List.length_map]; omega), if_pos (by omega), mul_zero]

theorem qn_translate (xs : List Number) (offset : Number) :
    qn (xs.map (· + offset)) = qn xs := by
  rw [qn_map zero_le_one fun first second => by rw [add_sub_add_right_eq_sub, one_mul], one_mul]

theorem qn_scale (xs : List Number) (factor : Number) :
    qn (xs.map (factor * ·)) = |factor| * qn xs :=
  qn_map (abs_nonneg factor) (fun first second => by rw [← mul_sub, abs_mul]) xs

variable (Number) in
/-- A minority of replaced values does not carry the estimate beyond the range of the others, the
estimate does not depend on the order or on a translation and scales with the values, and
the stride over a longer list goes forward inside it. -/
theorem qn_laws :
    (∀ entries : List (Entry Number), 2 ≤ entries.length → entries.length ≤ kQnInputCap →
      replacedCount entries ≤ (entries.length + 1) / 2 - 1 →
        qn (corrupted entries) ≤ kQnConsistency * range (untouched entries)) ∧
      (∀ first second : List Number, first.length ≤ kQnInputCap → first.Perm second →
        qn first = qn second) ∧
      (∀ (xs : List Number) (offset : Number), qn (xs.map (· + offset)) = qn xs) ∧
      (∀ (xs : List Number) (factor : Number), qn (xs.map (factor * ·)) = |factor| * qn xs) ∧
      ∀ xs : List Number, kQnInputCap < xs.length →
        qn xs = qn (strideSample xs) ∧
          (stridePositions xs.length).length = kQnInputCap ∧
          (stridePositions xs.length).Pairwise (· < ·) ∧
          (∀ position ∈ stridePositions xs.length, position < xs.length) ∧
          (strideSample xs).map some =
            (stridePositions xs.length).map fun position => xs[position]? := by
  refine ⟨fun _ => qn_corrupted_le, fun _ _ => qn_perm, qn_translate, qn_scale,
    fun xs long => ⟨qn_strideSample long, ?_, stridePositions_pairwise long,
      fun _ => lt_of_mem_stridePositions long, ?_⟩⟩
  · rw [stridePositions, List.length_map, List.length_range]
  · rw [strideSample_eq, List.map_map]
    refine List.map_congr_left fun position member => ?_
    have inside := lt_of_mem_stridePositions long member
    rw [Function.comp_apply, List.getD_eq_getElem _ _ inside, List.getElem?_eq_getElem inside]

/-- One of three values is replaced by a million. -/
def oneOfThree : List (Entry Rat) :=
  [⟨1, none⟩, ⟨2, some 1000000⟩, ⟨4, none⟩]

theorem qn_laws_oneOfThree :
    qn (corrupted oneOfThree) ≤ kQnConsistency * range (untouched oneOfThree) :=
  (qn_laws Rat).1 oneOfThree (by decide) (by decide) (by decide)

end PairDriver.QnScale
