/-
This file proves that a step of the quantile markers is well defined over exact
arithmetic. The positions are integers that keep their order through the count and through
every adjustment, because a marker moves by one only where its neighbour is further away
than that. A height moves to a value between its neighbours: the parabola is taken only
then, and the line always ends there. The outer heights are the least and the greatest value
seen, so all heights lie between these.
-/

import PairDriver.FaceCalibration

namespace PairDriver.FaceCalibration

open Function

/-! ### Changing one value of a monotone function -/

section Monotone

variable {Index Value : Type} [PartialOrder Index] [DecidableEq Index] [Preorder Value]

theorem monotone_update {values : Index → Value} (monotone : Monotone values) {place : Index}
    {value : Value} (below : ∀ index < place, values index ≤ value)
    (above : ∀ index, place < index → value ≤ values index) :
    Monotone (update values place value) := by
  intro first second order
  by_cases atFirst : first = place
  · by_cases atSecond : second = place
    · rw [atFirst, atSecond]
    · rw [atFirst, update_self, update_of_ne atSecond]
      exact above second (lt_of_le_of_ne (atFirst ▸ order) (Ne.symm atSecond))
  · rw [update_of_ne atFirst]
    by_cases atSecond : second = place
    · rw [atSecond, update_self]
      exact below first (lt_of_le_of_ne (atSecond ▸ order) atFirst)
    · rw [update_of_ne atSecond]
      exact monotone order

theorem strictMono_update {values : Index → Value} (monotone : StrictMono values) {place : Index}
    {value : Value} (below : ∀ index < place, values index < value)
    (above : ∀ index, place < index → value < values index) :
    StrictMono (update values place value) := by
  intro first second order
  by_cases atFirst : first = place
  · have atSecond : second ≠ place := fun same => absurd (atFirst.trans same.symm) order.ne
    rw [atFirst, update_self, update_of_ne atSecond]
    exact above second (atFirst ▸ order)
  · rw [update_of_ne atFirst]
    by_cases atSecond : second = place
    · rw [atSecond, update_self]
      exact below first (atSecond ▸ order)
    · rw [update_of_ne atSecond]
      exact monotone order

end Monotone

/-! ### The inner markers -/

/-- The markers that `PsqStep` adjusts. -/
def Inner (i : Fin 5) : Prop :=
  i ∈ [1, 2, 3]

theorem Inner.below {i : Fin 5} (inner : Inner i) : ∀ j < i, j ≤ i - 1 := by
  rcases List.mem_cons.mp inner with rfl | rest
  · decide
  rcases List.mem_cons.mp rest with rfl | rest
  · decide
  · rw [List.mem_singleton.mp rest]
    decide

theorem Inner.above {i : Fin 5} (inner : Inner i) : ∀ j, i < j → i + 1 ≤ j := by
  rcases List.mem_cons.mp inner with rfl | rest
  · decide
  rcases List.mem_cons.mp rest with rfl | rest
  · decide
  · rw [List.mem_singleton.mp rest]
    decide

theorem Inner.neighbours {i : Fin 5} (inner : Inner i) :
    i - 1 < i ∧ i < i + 1 ∧ i ≠ 0 ∧ i ≠ 4 := by
  rcases List.mem_cons.mp inner with rfl | rest
  · decide
  rcases List.mem_cons.mp rest with rfl | rest
  · decide
  · rw [List.mem_singleton.mp rest]
    decide

/-! ### The adjustment over the rationals -/

/-- The height that an adjusted marker takes. -/
def psqHeight (q n : Fin 5 → Rat) (i : Fin 5) (d : Rat) : Rat :=
  if q (i - 1) < psqUpdate q n i d ∧ psqUpdate q n i d < q (i + 1) then psqUpdate q n i d
  else psqLinear q n i d

/-- A marker that may move up is below its desired position and has room above; likewise down. -/
def MayMove (dn n : Fin 5 → Rat) (i : Fin 5) (d : Rat) : Prop :=
  d = 1 ∧ 1 ≤ dn i - n i ∧ 1 < n (i + 1) - n i ∨
    d = -1 ∧ dn i - n i ≤ -1 ∧ n (i - 1) - n i < -1

theorem psqAdjust_rat (dn q n : Fin 5 → Rat) (i : Fin 5) :
    psqAdjust dn (q, n) i =
      if 1 ≤ dn i - n i ∧ 1 < n (i + 1) - n i ∨ dn i - n i ≤ -1 ∧ n (i - 1) - n i < -1 then
        (update q i (psqHeight q n i (if 0 < dn i - n i then 1 else -1)),
          update n i (n i + if 0 < dn i - n i then 1 else -1))
      else (q, n) :=
  rfl

/-- An adjustment leaves the markers, or moves one by one place. -/
theorem psqAdjust_cases (dn q n : Fin 5 → Rat) (i : Fin 5) :
    psqAdjust dn (q, n) i = (q, n) ∨ ∃ d, MayMove dn n i d ∧
      psqAdjust dn (q, n) i = (update q i (psqHeight q n i d), update n i (n i + d)) := by
  rw [psqAdjust_rat]
  by_cases moves : 1 ≤ dn i - n i ∧ 1 < n (i + 1) - n i ∨
      dn i - n i ≤ -1 ∧ n (i - 1) - n i < -1
  · rw [if_pos moves]
    refine Or.inr ⟨_, ?_, rfl⟩
    rcases moves with ⟨early, room⟩ | ⟨late, room⟩
    · rw [if_pos (lt_of_lt_of_le one_pos early)]
      exact Or.inl ⟨rfl, early, room⟩
    · rw [if_neg (not_lt.mpr (le_trans late (by decide)))]
      exact Or.inr ⟨rfl, late, room⟩
  · rw [if_neg moves]
    exact Or.inl rfl

theorem psqLinear_up (q n : Fin 5 → Rat) (i : Fin 5) :
    psqLinear q n i 1 = q i + 1 * (q (i + 1) - q i) / (n (i + 1) - n i) := by
  show q i + 1 * (q (if (0 : Rat) < 1 then i + 1 else i - 1) - q i) /
    (n (if (0 : Rat) < 1 then i + 1 else i - 1) - n i) = _
  rw [if_pos one_pos]

theorem psqLinear_down (q n : Fin 5 → Rat) (i : Fin 5) :
    psqLinear q n i (-1) = q i + -1 * (q (i - 1) - q i) / (n (i - 1) - n i) := by
  show q i + -1 * (q (if (0 : Rat) < -1 then i + 1 else i - 1) - q i) /
    (n (if (0 : Rat) < -1 then i + 1 else i - 1) - n i) = _
  rw [if_neg (by decide)]

/-- The line to the upper neighbour ends between the two. -/
theorem psqLinear_up_between {q n : Fin 5 → Rat} (heights : Monotone q) {i : Fin 5}
    (inner : Inner i) (room : 1 < n (i + 1) - n i) :
    q (i - 1) ≤ psqLinear q n i 1 ∧ psqLinear q n i 1 ≤ q (i + 1) := by
  obtain ⟨before, after, -, -⟩ := inner.neighbours
  have lower := heights before.le
  have upper := sub_nonneg.mpr (heights after.le)
  have positive := lt_trans one_pos room
  rw [psqLinear_up, one_mul]
  constructor
  · exact le_trans lower (le_add_of_nonneg_right (div_nonneg upper positive.le))
  · have shorter := div_le_self upper room.le
    exact le_trans (add_le_add_right shorter (q i)) (add_sub_cancel _ _).le

/-- The line to the lower neighbour ends between the two. -/
theorem psqLinear_down_between {q n : Fin 5 → Rat} (heights : Monotone q) {i : Fin 5}
    (inner : Inner i) (room : n (i - 1) - n i < -1) :
    q (i - 1) ≤ psqLinear q n i (-1) ∧ psqLinear q n i (-1) ≤ q (i + 1) := by
  obtain ⟨before, after, -, -⟩ := inner.neighbours
  have lower := sub_nonneg.mpr (heights before.le)
  have upper := heights after.le
  have apart : 1 < n i - n (i - 1) := by linarith only [room]
  have same : psqLinear q n i (-1) = q i - (q i - q (i - 1)) / (n i - n (i - 1)) := by
    rw [psqLinear_down, ← neg_sub (n i), div_neg, neg_one_mul, neg_div, neg_neg,
      ← neg_sub (q i), neg_div]
    exact (sub_eq_add_neg _ _).symm
  rw [same]
  constructor
  · have shorter := div_le_self lower apart.le
    linarith only [shorter]
  · have positive := lt_trans one_pos apart
    have step := div_nonneg lower positive.le
    linarith only [step, upper]

/-- An adjusted marker stays between its neighbours. -/
theorem psqHeight_between {dn q n : Fin 5 → Rat} (heights : Monotone q) {i : Fin 5}
    (inner : Inner i) {d : Rat} (moves : MayMove dn n i d) :
    q (i - 1) ≤ psqHeight q n i d ∧ psqHeight q n i d ≤ q (i + 1) := by
  unfold psqHeight
  by_cases inside : q (i - 1) < psqUpdate q n i d ∧ psqUpdate q n i d < q (i + 1)
  · rw [if_pos inside]
    exact ⟨inside.1.le, inside.2.le⟩
  · rw [if_neg inside]
    rcases moves with ⟨rfl, -, room⟩ | ⟨rfl, -, room⟩
    · exact psqLinear_up_between heights inner room
    · exact psqLinear_down_between heights inner room

/-! ### The invariant -/

/-- The positions are integers in strict order and the heights are in order. -/
structure PsqOrdered (q n : Fin 5 → Rat) : Prop where
  integers : ∃ positions : Fin 5 → Int, ∀ i, n i = positions i
  positions : StrictMono n
  heights : Monotone q

/-- The divisors of `PsqUpdate` and of `PsqLinear` for a marker that moves by `d`. -/
def psqDivisors (n : Fin 5 → Rat) (i : Fin 5) (d : Rat) : List Rat :=
  [(n (i + 1) - n i) + (n i - n (i - 1)), n (i + 1) - n i, n i - n (i - 1),
    n (if 0 < d then i + 1 else i - 1) - n i]

theorem PsqOrdered.divisors_ne_zero {q n : Fin 5 → Rat} (ordered : PsqOrdered q n) {i : Fin 5}
    (inner : Inner i) (d : Rat) : ∀ divisor ∈ psqDivisors n i d, divisor ≠ 0 := by
  obtain ⟨before, after, -, -⟩ := inner.neighbours
  have up := sub_pos.mpr (ordered.positions after)
  have down := sub_pos.mpr (ordered.positions before)
  refine List.forall_mem_cons.mpr ⟨(add_pos up down).ne', List.forall_mem_cons.mpr ⟨up.ne',
    List.forall_mem_cons.mpr ⟨down.ne', List.forall_mem_singleton.mpr ?_⟩⟩⟩
  by_cases rising : 0 < d
  · rw [if_pos rising]
    exact up.ne'
  · rw [if_neg rising]
    exact (sub_neg.mpr (ordered.positions before)).ne

theorem MayMove.isInt {dn n : Fin 5 → Rat} {i : Fin 5} {d : Rat} (moves : MayMove dn n i d) :
    ∃ step : Int, d = step := by
  rcases moves with ⟨rfl, -⟩ | ⟨rfl, -⟩
  · exact ⟨1, Int.cast_one.symm⟩
  · exact ⟨-1, rfl⟩

/-- A marker that moves stays strictly between its neighbours. -/
theorem MayMove.between {dn n : Fin 5 → Rat} {i : Fin 5} {d : Rat} (moves : MayMove dn n i d)
    (before : n (i - 1) < n i) (after : n i < n (i + 1)) :
    n (i - 1) < n i + d ∧ n i + d < n (i + 1) := by
  rcases moves with ⟨rfl, -, room⟩ | ⟨rfl, -, room⟩
  · exact ⟨by linarith only [before], by linarith only [room]⟩
  · exact ⟨by linarith only [room], by linarith only [after]⟩

/-- An adjustment keeps the order. -/
theorem PsqOrdered.adjust {q n : Fin 5 → Rat} (ordered : PsqOrdered q n) (dn : Fin 5 → Rat)
    {i : Fin 5} (inner : Inner i) :
    PsqOrdered (psqAdjust dn (q, n) i).1 (psqAdjust dn (q, n) i).2 := by
  rcases psqAdjust_cases dn q n i with same | ⟨d, moves, moved⟩
  · rw [same]
    exact ordered
  · obtain ⟨before, after, -, -⟩ := inner.neighbours
    obtain ⟨lower, upper⟩ := psqHeight_between ordered.heights inner moves
    obtain ⟨above, under⟩ := moves.between (ordered.positions before) (ordered.positions after)
    rw [moved]
    show PsqOrdered (update q i (psqHeight q n i d)) (update n i (n i + d))
    refine ⟨?_, ?_, ?_⟩
    · obtain ⟨positions, integers⟩ := ordered.integers
      obtain ⟨step, whole⟩ := moves.isInt
      refine ⟨update positions i (positions i + step), fun j => ?_⟩
      by_cases here : j = i
      · rw [here, update_self, update_self, integers, whole, Int.cast_add]
      · rw [update_of_ne here, update_of_ne here, integers]
    · exact strictMono_update ordered.positions
        (fun j behind => lt_of_le_of_lt (ordered.positions.monotone (inner.below j behind)) above)
        fun j beyond => lt_of_lt_of_le under (ordered.positions.monotone (inner.above j beyond))
    · exact monotone_update ordered.heights
        (fun j behind => le_trans (ordered.heights (inner.below j behind)) lower)
        fun j beyond => le_trans upper (ordered.heights (inner.above j beyond))

/-- An adjustment leaves the outer markers. -/
theorem psqAdjust_outer (dn q n : Fin 5 → Rat) {i j : Fin 5} (other : j ≠ i) :
    (psqAdjust dn (q, n) i).1 j = q j ∧ (psqAdjust dn (q, n) i).2 j = n j := by
  rcases psqAdjust_cases dn q n i with same | ⟨d, -, moved⟩
  · rw [same]
    exact ⟨rfl, rfl⟩
  · rw [moved]
    exact ⟨update_of_ne other _ _, update_of_ne other _ _⟩

/-! ### The cell and the count -/

/-- What a sample does before the adjustments: the heights hold it, and the positions from the
cell's upper marker on are raised. -/
structure PsqCounted (q n : Fin 5 → Rat) (xn : Rat) (q' n' : Fin 5 → Rat) : Prop where
  ordered : PsqOrdered q' n'
  least : q' 0 = min (q 0) xn
  greatest : q' 4 = max (q 4) xn
  first : n' 0 = n 0
  last : n' 4 = n 4 + 1

/-- The cell of a sample lies below the last marker, and the outer markers are moved to hold
the sample. -/
theorem psqCell_spec {q : Fin 5 → Rat} (heights : Monotone q) (xn : Rat) :
    Monotone (psqCell q xn).1 ∧ (psqCell q xn).1 0 = min (q 0) xn ∧
      (psqCell q xn).1 4 = max (q 4) xn ∧ (psqCell q xn).2 < 4 := by
  have least : ∀ index : Fin 5, q 0 ≤ q index := fun index => heights (Fin.zero_le index)
  have greatest : ∀ index : Fin 5, q index ≤ q 4 := fun index => heights (Fin.le_last index)
  have inside : ∀ cell : Fin 5, ¬xn < q 0 → xn ≤ q 4 → cell < 4 →
      Monotone q ∧ q 0 = min (q 0) xn ∧ q 4 = max (q 4) xn ∧ cell < 4 :=
    fun cell above below bound => ⟨heights, (min_eq_left (not_lt.mp above)).symm,
      (max_eq_left below).symm, bound⟩
  unfold psqCell
  by_cases below : xn < q 0
  · rw [if_pos below]
    refine ⟨monotone_update heights (fun index before => absurd before (Fin.not_lt_zero index))
      fun index _ => le_trans below.le (least index), ?_, ?_, (by decide : (0 : Fin 5) < 4)⟩
    · show update q 0 xn 0 = min (q 0) xn
      rw [update_self, min_eq_right below.le]
    · show update q 0 xn 4 = max (q 4) xn
      rw [update_of_ne (by decide), max_eq_left (le_trans below.le (least 4))]
  rw [if_neg below]
  by_cases first : xn < q 1
  · rw [if_pos first]
    exact inside 0 below (le_trans first.le (greatest 1)) (by decide)
  rw [if_neg first]
  by_cases second : xn < q 2
  · rw [if_pos second]
    exact inside 1 below (le_trans second.le (greatest 2)) (by decide)
  rw [if_neg second]
  by_cases third : xn < q 3
  · rw [if_pos third]
    exact inside 2 below (le_trans third.le (greatest 3)) (by decide)
  rw [if_neg third]
  by_cases fourth : xn ≤ q 4
  · rw [if_pos fourth]
    exact inside 3 below fourth (by decide)
  · rw [if_neg fourth]
    have above := (not_le.mp fourth).le
    refine ⟨monotone_update heights (fun index _ => le_trans (greatest index) above)
      (fun index after => absurd after (not_lt.mpr (Fin.le_last index))), ?_, ?_,
      (by decide : (3 : Fin 5) < 4)⟩
    · show update q 4 xn 0 = min (q 0) xn
      rw [update_of_ne (by decide), min_eq_left (not_lt.mp below)]
    · show update q 4 xn 4 = max (q 4) xn
      rw [update_self, max_eq_right above]

/-- Raising the positions above a cell keeps their order. -/
theorem count_ordered {n : Fin 5 → Rat} (positions : StrictMono n) (k : Fin 5) :
    StrictMono fun i => if k < i then n i + 1 else n i := by
  intro first second order
  have apart := positions order
  show (if k < first then n first + 1 else n first) < if k < second then n second + 1 else n second
  by_cases raised : k < first
  · rw [if_pos raised, if_pos (lt_trans raised order)]
    exact add_lt_add_left apart 1
  · rw [if_neg raised]
    by_cases later : k < second
    · rw [if_pos later]
      exact lt_trans apart (lt_add_one _)
    · rw [if_neg later]
      exact apart

theorem count_integers {n : Fin 5 → Rat} {positions : Fin 5 → Int}
    (integers : ∀ i, n i = positions i) (k i : Fin 5) :
    (if k < i then n i + 1 else n i) =
      ((if k < i then positions i + 1 else positions i : Int) : Rat) := by
  by_cases raised : k < i
  · rw [if_pos raised, if_pos raised, integers, Int.cast_add, Int.cast_one]
  · rw [if_neg raised, if_neg raised, integers]

/-- The markers of a step before its adjustments. -/
def psqCount (q n : Fin 5 → Rat) (xn : Rat) : (Fin 5 → Rat) × (Fin 5 → Rat) :=
  ((psqCell q xn).1, fun i => if (psqCell q xn).2 < i then n i + 1 else n i)

theorem psqStep_rat (q n dn : Fin 5 → Rat) (xn : Rat) :
    psqStep q n dn xn =
      psqAdjust dn (psqAdjust dn (psqAdjust dn (psqCount q n xn) 1) 2) 3 := by
  unfold psqStep psqCount
  rfl

theorem PsqOrdered.count {q n : Fin 5 → Rat} (ordered : PsqOrdered q n) (xn : Rat) :
    PsqCounted q n xn (psqCount q n xn).1 (psqCount q n xn).2 := by
  obtain ⟨heights, least, greatest, cell⟩ := psqCell_spec ordered.heights xn
  obtain ⟨positions, integers⟩ := ordered.integers
  have first : (psqCount q n xn).2 0 = n 0 := by
    show (if (psqCell q xn).2 < 0 then n 0 + 1 else n 0) = n 0
    rw [if_neg (Fin.not_lt_zero _)]
  exact ⟨⟨⟨_, fun i => count_integers integers _ i⟩, count_ordered ordered.positions _, heights⟩,
    least, greatest, first, if_pos cell⟩

/-! ### A step -/

/-- The markers before each of the three adjustments of a step, with the marker adjusted. -/
def psqStages (q n dn : Fin 5 → Rat) (xn : Rat) :
    List (Fin 5 × (Fin 5 → Rat) × (Fin 5 → Rat)) :=
  let first := psqCount q n xn
  let second := psqAdjust dn first 1
  [(1, first), (2, second), (3, psqAdjust dn second 2)]

theorem inner_one : Inner 1 := List.mem_cons_self

theorem inner_two : Inner 2 := List.mem_cons_of_mem _ List.mem_cons_self

theorem inner_three : Inner 3 :=
  List.mem_cons_of_mem _ (List.mem_cons_of_mem _ List.mem_cons_self)

/-- No stage of a step divides by zero. -/
theorem PsqOrdered.stages_ne_zero {q n : Fin 5 → Rat} (ordered : PsqOrdered q n)
    (dn : Fin 5 → Rat) (xn : Rat) :
    ∀ stage ∈ psqStages q n dn xn, ∀ d, ∀ divisor ∈ psqDivisors stage.2.2 stage.1 d,
      divisor ≠ 0 := by
  have first := (ordered.count xn).ordered
  have second := first.adjust dn inner_one
  have third := second.adjust dn inner_two
  exact List.forall_mem_cons.mpr ⟨first.divisors_ne_zero inner_one, List.forall_mem_cons.mpr
    ⟨second.divisors_ne_zero inner_two,
      List.forall_mem_singleton.mpr (third.divisors_ne_zero inner_three)⟩⟩

/-- A step keeps the order, holds the sample between its outer heights and raises the last
position by one. -/
theorem PsqOrdered.step {q n : Fin 5 → Rat} (ordered : PsqOrdered q n) (dn : Fin 5 → Rat)
    (xn : Rat) :
    PsqCounted q n xn (psqStep q n dn xn).1 (psqStep q n dn xn).2 := by
  obtain ⟨first, least, greatest, bottom, top⟩ := ordered.count xn
  have second := first.adjust dn inner_one
  have third := second.adjust dn inner_two
  rw [psqStep_rat]
  have outer : ∀ j : Fin 5, j ≠ 1 → j ≠ 2 → j ≠ 3 →
      (psqAdjust dn (psqAdjust dn (psqAdjust dn (psqCount q n xn) 1) 2) 3).1 j =
          (psqCount q n xn).1 j ∧
        (psqAdjust dn (psqAdjust dn (psqAdjust dn (psqCount q n xn) 1) 2) 3).2 j =
          (psqCount q n xn).2 j := by
    intro j notFirst notSecond notThird
    have one := psqAdjust_outer dn (psqCount q n xn).1 (psqCount q n xn).2 notFirst
    have two := psqAdjust_outer dn (psqAdjust dn (psqCount q n xn) 1).1
      (psqAdjust dn (psqCount q n xn) 1).2 notSecond
    have three := psqAdjust_outer dn (psqAdjust dn (psqAdjust dn (psqCount q n xn) 1) 2).1
      (psqAdjust dn (psqAdjust dn (psqCount q n xn) 1) 2).2 notThird
    exact ⟨three.1.trans (two.1.trans one.1), three.2.trans (two.2.trans one.2)⟩
  obtain ⟨least', bottom'⟩ := outer 0 (by decide) (by decide) (by decide)
  obtain ⟨greatest', top'⟩ := outer 4 (by decide) (by decide) (by decide)
  exact ⟨third.adjust dn inner_three, least'.trans least, greatest'.trans greatest,
    bottom'.trans bottom, top'.trans top⟩

/-! ### A run from the constructor's markers -/

/-- The markers after samples, from those of the constructor. -/
def psqRun (samples : List Rat) : (Fin 5 → Rat) × (Fin 5 → Rat) :=
  samples.foldl (fun markers xn => psqStep markers.1 markers.2 ShapeCalib.fresh.dn xn)
    (ShapeCalib.fresh.q, ShapeCalib.fresh.n)

theorem psqRun_snoc (samples : List Rat) (xn : Rat) :
    psqRun (samples ++ [xn]) =
      psqStep (psqRun samples).1 (psqRun samples).2 ShapeCalib.fresh.dn xn :=
  List.foldl_concat _ _ _ _

/-- The heights of the constructor and the samples. -/
def heightsSeen (samples : List Rat) : List Rat :=
  List.ofFn (ShapeCalib.fresh : ShapeCalib Rat).q ++ samples

/-- What holds of the markers after samples. -/
structure PsqInvariant (samples : List Rat) (q n : Fin 5 → Rat) : Prop where
  ordered : PsqOrdered q n
  first : n 0 = 1
  last : n 4 = 5 + samples.length
  least : IsLeast {height | height ∈ heightsSeen samples} (q 0)
  greatest : IsGreatest {height | height ∈ heightsSeen samples} (q 4)

theorem fresh_ordered :
    PsqOrdered (ShapeCalib.fresh : ShapeCalib Rat).q (ShapeCalib.fresh : ShapeCalib Rat).n where
  integers := ⟨![1, 2, 3, 4, 5], by decide⟩
  positions := by
    refine Fin.strictMono_iff_lt_succ.mpr ?_
    decide
  heights := by
    refine Fin.monotone_iff_le_succ.mpr ?_
    decide +kernel

theorem psqInvariant_nil :
    PsqInvariant [] (ShapeCalib.fresh : ShapeCalib Rat).q
      (ShapeCalib.fresh : ShapeCalib Rat).n := by
  have seeds : ∀ height ∈ heightsSeen [], (0 : Rat) ≤ height ∧ height ≤ 1 := by
    decide +kernel
  exact ⟨fresh_ordered, rfl, by decide +kernel,
    ⟨(by decide +kernel : (0 : Rat) ∈ heightsSeen []),
      fun height member => (seeds height member).1⟩,
    ⟨(by decide +kernel : (1 : Rat) ∈ heightsSeen []),
      fun height member => (seeds height member).2⟩⟩

theorem heightsSeen_snoc (samples : List Rat) (xn : Rat) :
    {height | height ∈ heightsSeen (samples ++ [xn])} =
      insert xn {height | height ∈ heightsSeen samples} := by
  ext height
  rw [Set.mem_ofPred_eq, heightsSeen, ← List.append_assoc, List.mem_append, List.mem_singleton,
    or_comm]
  rfl

theorem PsqInvariant.snoc {samples : List Rat} {q n q' n' : Fin 5 → Rat}
    (invariant : PsqInvariant samples q n) {xn : Rat} (counted : PsqCounted q n xn q' n') :
    PsqInvariant (samples ++ [xn]) q' n' where
  ordered := counted.ordered
  first := counted.first.trans invariant.first
  last := by
    rw [counted.last, invariant.last, List.length_append, List.length_singleton, Nat.cast_add,
      Nat.cast_one, add_assoc]
  least := by
    rw [heightsSeen_snoc, counted.least, min_comm]
    exact invariant.least.insert xn
  greatest := by
    rw [heightsSeen_snoc, counted.greatest, max_comm]
    exact invariant.greatest.insert xn

theorem psqRun_invariant (samples : List Rat) :
    PsqInvariant samples (psqRun samples).1 (psqRun samples).2 := by
  induction samples using List.reverseRecOn with
  | nil => exact psqInvariant_nil
  | append_singleton samples xn inductionHypothesis =>
    rw [psqRun_snoc]
    exact inductionHypothesis.snoc (inductionHypothesis.ordered.step _ xn)

/-- After any samples the positions are integers in strict order from `1` to `5` plus the number
of samples, the heights are in order between the least and the greatest value seen, and the next
step divides by nothing that is zero. -/
theorem psq_well_defined (samples : List Rat) :
    (∃ positions : Fin 5 → Int, StrictMono positions ∧
      (∀ i, (psqRun samples).2 i = positions i) ∧ positions 0 = 1 ∧
        positions 4 = 5 + samples.length) ∧
    Monotone (psqRun samples).1 ∧
    IsLeast {height | height ∈ heightsSeen samples} ((psqRun samples).1 0) ∧
    IsGreatest {height | height ∈ heightsSeen samples} ((psqRun samples).1 4) ∧
    ∀ xn, ∀ stage ∈ psqStages (psqRun samples).1 (psqRun samples).2 ShapeCalib.fresh.dn xn,
      ∀ d, ∀ divisor ∈ psqDivisors stage.2.2 stage.1 d, divisor ≠ 0 := by
  obtain ⟨ordered, first, last, least, greatest⟩ := psqRun_invariant samples
  obtain ⟨positions, integers⟩ := ordered.integers
  refine ⟨⟨positions, fun i j order => ?_, integers, ?_, ?_⟩, ordered.heights, least, greatest,
    ordered.stages_ne_zero _⟩
  · have apart := ordered.positions order
    rw [integers, integers] at apart
    exact Int.cast_lt.mp apart
  · rw [integers] at first
    exact Int.cast_eq_one.mp first
  · rw [integers] at last
    exact_mod_cast last

end PairDriver.FaceCalibration
