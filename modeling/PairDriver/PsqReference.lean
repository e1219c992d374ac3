/-
This file compares the quantile markers with the published P-square algorithm. The two share
the search for the cell, the guard of an adjustment and the linear formula. They differ in the
desired positions, which the published algorithm advances at every sample, and in the
parabola, where the published formula shifts the two distances by the direction of the move.

The code's positions return to 1, 2, 3 and 4 at every sample. The published ones stay there
for three samples that fall into the uppermost cell, and for no others, so the two agree after
every sample of a stream exactly if it has at most three samples and none below one half.
-/

import PairDriver.PsqOrder

namespace PairDriver.FaceCalibration

open Function

/-! ### The published algorithm -/

/-- The height a marker takes: the parabola's if it lies between the neighbours, else the
line's. -/
def markerHeight (parabola : (Fin 5 → Rat) → (Fin 5 → Rat) → Fin 5 → Rat → Rat)
    (q n : Fin 5 → Rat) (i : Fin 5) (d : Rat) : Rat :=
  if q (i - 1) < parabola q n i d ∧ parabola q n i d < q (i + 1) then parabola q n i d
  else psqLinear q n i d

/-- An inner marker that is off its desired position by one or more moves by one if there is
room. -/
def adjustMarker (parabola : (Fin 5 → Rat) → (Fin 5 → Rat) → Fin 5 → Rat → Rat)
    (desired : Fin 5 → Rat) (markers : (Fin 5 → Rat) × (Fin 5 → Rat)) (i : Fin 5) :
    (Fin 5 → Rat) × (Fin 5 → Rat) :=
  let (q, n) := markers
  if 1 ≤ desired i - n i ∧ 1 < n (i + 1) - n i ∨
      desired i - n i ≤ -1 ∧ n (i - 1) - n i < -1 then
    let d : Rat := if 0 < desired i - n i then 1 else -1
    (update q i (markerHeight parabola q n i d), update n i (n i + d))
  else (q, n)

/-- The published piecewise-parabolic prediction. -/
def parabolicPrediction (q n : Fin 5 → Rat) (i : Fin 5) (d : Rat) : Rat :=
  q i + d / (n (i + 1) - n (i - 1)) *
    ((n i - n (i - 1) + d) * ((q (i + 1) - q i) / (n (i + 1) - n i)) +
      (n (i + 1) - n i - d) * ((q i - q (i - 1)) / (n i - n (i - 1))))

/-- The desired positions before the first sample. -/
def desiredStart (p : Rat) : Fin 5 → Rat :=
  ![1, 1 + 2 * p, 1 + 4 * p, 3 + 2 * p, 5]

/-- What a sample adds to the desired positions. -/
def desiredIncrement (p : Rat) : Fin 5 → Rat :=
  ![0, p / 2, p, (1 + p) / 2, 1]

/-- The desired positions after a number of samples. -/
def desiredAfter (p : Rat) (samples : Nat) : Fin 5 → Rat :=
  fun i => desiredStart p i + samples * desiredIncrement p i

/-- A sample: its cell and the count, then the desired positions, then the inner markers. -/
def publishedStep (p : Rat) (markers : (Fin 5 → Rat) × (Fin 5 → Rat)) (desired : Fin 5 → Rat)
    (xn : Rat) : ((Fin 5 → Rat) × (Fin 5 → Rat)) × (Fin 5 → Rat) :=
  let advanced := fun i => desired i + desiredIncrement p i
  ([1, 2, 3].foldl (adjustMarker parabolicPrediction advanced)
    (psqCount markers.1 markers.2 xn), advanced)

/-- The published markers and desired positions after samples, from the constructor's markers. -/
def publishedRun (p : Rat) (samples : List Rat) :
    ((Fin 5 → Rat) × (Fin 5 → Rat)) × (Fin 5 → Rat) :=
  samples.foldl (fun state xn => publishedStep p state.1 state.2 xn)
    ((ShapeCalib.fresh.q, ShapeCalib.fresh.n), desiredStart p)

theorem publishedRun_snoc (p : Rat) (samples : List Rat) (xn : Rat) :
    publishedRun p (samples ++ [xn]) =
      publishedStep p (publishedRun p samples).1 (publishedRun p samples).2 xn :=
  List.foldl_concat _ _ _ _

theorem publishedRun_desired (p : Rat) (samples : List Rat) :
    (publishedRun p samples).2 = desiredAfter p samples.length := by
  induction samples using List.reverseRecOn with
  | nil =>
    funext i
    show desiredStart p i = desiredStart p i + ((0 : Nat) : Rat) * desiredIncrement p i
    rw [Nat.cast_zero, zero_mul, add_zero]
  | append_singleton samples xn inductionHypothesis =>
    rw [publishedRun_snoc]
    funext i
    show (publishedRun p samples).2 i + desiredIncrement p i = _
    rw [inductionHypothesis, desiredAfter, desiredAfter, List.length_append,
      List.length_singleton, Nat.cast_succ, add_mul, one_mul, add_assoc]

/-! ### Adjustments, for any parabola -/

section Adjust

variable {parabola : (Fin 5 → Rat) → (Fin 5 → Rat) → Fin 5 → Rat → Rat} {desired : Fin 5 → Rat}
  {q n : Fin 5 → Rat} {i : Fin 5}

theorem psqAdjust_eq_adjustMarker (dn : Fin 5 → Rat)
    (markers : (Fin 5 → Rat) × (Fin 5 → Rat)) (i : Fin 5) :
    psqAdjust dn markers i = adjustMarker psqUpdate dn markers i :=
  rfl

theorem adjustMarker_stay (down : n i - n (i - 1) ≤ 1 ∨ -1 < desired i - n i)
    (up : n (i + 1) - n i ≤ 1 ∨ desired i - n i < 1) :
    adjustMarker parabola desired (q, n) i = (q, n) := by
  refine if_neg ?_
  rintro (⟨early, room⟩ | ⟨late, room⟩)
  · rcases up with tight | close
    · exact absurd room (not_lt.mpr tight)
    · exact absurd early (not_le.mpr close)
  · rcases down with tight | close
    · linarith only [tight, room]
    · exact absurd late (not_le.mpr close)

theorem adjustMarker_down (late : desired i - n i ≤ -1) (room : n (i - 1) - n i < -1) :
    adjustMarker parabola desired (q, n) i =
      (update q i (markerHeight parabola q n i (-1)), update n i (n i + -1)) := by
  have negative : ¬0 < desired i - n i := not_lt.mpr (le_trans late (by decide))
  refine (if_pos (Or.inr ⟨late, room⟩)).trans ?_
  show (update q i (markerHeight parabola q n i (if 0 < desired i - n i then 1 else -1)),
    update n i (n i + if 0 < desired i - n i then 1 else -1)) = _
  rw [if_neg negative]

theorem adjustMarker_up (early : 1 ≤ desired i - n i) (room : 1 < n (i + 1) - n i) :
    adjustMarker parabola desired (q, n) i =
      (update q i (markerHeight parabola q n i 1), update n i (n i + 1)) := by
  refine (if_pos (Or.inl ⟨early, room⟩)).trans ?_
  show (update q i (markerHeight parabola q n i (if 0 < desired i - n i then 1 else -1)),
    update n i (n i + if 0 < desired i - n i then 1 else -1)) = _
  rw [if_pos (lt_of_lt_of_le one_pos early)]

/-- Only the marker that is adjusted can change. -/
theorem adjustMarker_other (markers : (Fin 5 → Rat) × (Fin 5 → Rat)) {j : Fin 5} (other : j ≠ i) :
    (adjustMarker parabola desired markers i).1 j = markers.1 j ∧
      (adjustMarker parabola desired markers i).2 j = markers.2 j := by
  obtain ⟨q, n⟩ := markers
  by_cases moves : 1 ≤ desired i - n i ∧ 1 < n (i + 1) - n i ∨
      desired i - n i ≤ -1 ∧ n (i - 1) - n i < -1
  · have moved : adjustMarker parabola desired (q, n) i =
        (update q i (markerHeight parabola q n i (if 0 < desired i - n i then 1 else -1)),
          update n i (n i + if 0 < desired i - n i then 1 else -1)) := if_pos moves
    rw [moved]
    exact ⟨update_of_ne other _ _, update_of_ne other _ _⟩
  · have same : adjustMarker parabola desired (q, n) i = (q, n) := if_neg moves
    rw [same]
    exact ⟨rfl, rfl⟩

end Adjust

/-! ### The three adjustments of a sample -/

/-- The inner markers in turn. -/
def adjustInner (parabola : (Fin 5 → Rat) → (Fin 5 → Rat) → Fin 5 → Rat → Rat)
    (desired : Fin 5 → Rat) (markers : (Fin 5 → Rat) × (Fin 5 → Rat)) :
    (Fin 5 → Rat) × (Fin 5 → Rat) :=
  [1, 2, 3].foldl (adjustMarker parabola desired) markers

theorem psqStep_eq_adjustInner (q n dn : Fin 5 → Rat) (xn : Rat) :
    psqStep q n dn xn = adjustInner psqUpdate dn (psqCount q n xn) :=
  rfl

/-- The desired positions at the first sample after some. -/
def desiredNext (samples : List Rat) : Fin 5 → Rat :=
  desiredAfter (2 / 100) (samples.length + 1)

theorem publishedRun_snoc_markers (samples : List Rat) (xn : Rat) :
    (publishedRun (2 / 100) (samples ++ [xn])).1 =
      adjustInner parabolicPrediction (desiredNext samples)
        (psqCount (publishedRun (2 / 100) samples).1.1 (publishedRun (2 / 100) samples).1.2
          xn) := by
  have desired := publishedRun_desired (2 / 100) (samples ++ [xn])
  rw [publishedRun_snoc, List.length_append, List.length_singleton] at desired
  rw [publishedRun_snoc]
  exact congrArg (fun positions => adjustInner parabolicPrediction positions
    (psqCount (publishedRun (2 / 100) samples).1.1 (publishedRun (2 / 100) samples).1.2 xn)) desired

theorem psqRun_snoc_markers (samples : List Rat) (xn : Rat) :
    psqRun (samples ++ [xn]) = adjustInner psqUpdate ShapeCalib.fresh.dn
      (psqCount (psqRun samples).1 (psqRun samples).2 xn) := by
  rw [psqRun_snoc, psqStep_eq_adjustInner]

/-! ### The code's positions -/

/-- The markers but the last are at the places they started from. -/
structure Seated (n : Fin 5 → Rat) : Prop where
  zero : n 0 = 1
  one : n 1 = 2
  two : n 2 = 3
  three : n 3 = 4

/-- The markers but the first and the last are at these places or raised by one. -/
structure Raised (n : Fin 5 → Rat) : Prop where
  zero : n 0 = 1
  one : n 1 = 2 ∨ n 1 = 3
  two : n 2 = 3 ∨ n 2 = 4
  three : n 3 = 4 ∨ n 3 = 5

theorem raise_cases {n : Fin 5 → Rat} {i : Fin 5} (k : Fin 5) {place next : Rat}
    (seated : n i = place) (step : place + 1 = next) :
    (if k < i then n i + 1 else n i) = place ∨ (if k < i then n i + 1 else n i) = next := by
  by_cases raised : k < i
  · rw [if_pos raised, seated]
    exact Or.inr step
  · rw [if_neg raised, seated]
    exact Or.inl rfl

theorem Seated.count {n : Fin 5 → Rat} (seated : Seated n) (q : Fin 5 → Rat) (xn : Rat) :
    Raised (psqCount q n xn).2 where
  zero := by
    show (if (psqCell q xn).2 < 0 then n 0 + 1 else n 0) = 1
    rw [if_neg (Fin.not_lt_zero _), seated.zero]
  one := raise_cases (psqCell q xn).2 seated.one (by norm_num)
  two := raise_cases (psqCell q xn).2 seated.two (by norm_num)
  three := raise_cases (psqCell q xn).2 seated.three (by norm_num)

/-- A raised marker whose desired position is not above its place goes back to it, if the marker
below is at its own. -/
theorem adjustMarker_seats {parabola : (Fin 5 → Rat) → (Fin 5 → Rat) → Fin 5 → Rat → Rat}
    {desired : Fin 5 → Rat} (markers : (Fin 5 → Rat) × (Fin 5 → Rat)) {i : Fin 5} {place : Rat}
    (below : markers.2 (i - 1) = place - 1)
    (raised : markers.2 i = place ∨ markers.2 i = place + 1) (late : desired i ≤ place) :
    (adjustMarker parabola desired markers i).2 i = place := by
  obtain ⟨q, n⟩ := markers
  dsimp only at below raised
  rcases raised with seated | up
  · have stays : adjustMarker parabola desired (q, n) i = (q, n) := by
      refine adjustMarker_stay (Or.inl ?_) (Or.inr ?_)
      · linarith only [below, seated]
      · linarith only [late, seated]
    rw [stays]
    exact seated
  · have moved : adjustMarker parabola desired (q, n) i =
        (update q i (markerHeight parabola q n i (-1)), update n i (n i + -1)) := by
      refine adjustMarker_down ?_ ?_
      · linarith only [late, up]
      · linarith only [below, up]
    rw [moved]
    show update n i (n i + -1) i = place
    rw [update_self, up]
    exact add_neg_cancel_right place 1

/-- The three adjustments seat the markers, if no desired position is above its marker's
place. -/
theorem Raised.adjustInner {parabola : (Fin 5 → Rat) → (Fin 5 → Rat) → Fin 5 → Rat → Rat}
    {desired q n : Fin 5 → Rat} (raised : Raised n) (one : desired 1 ≤ 2) (two : desired 2 ≤ 3)
    (three : desired 3 ≤ 4) : Seated (adjustInner parabola desired (q, n)).2 := by
  let first := adjustMarker parabola desired (q, n) 1
  let second := adjustMarker parabola desired first 2
  have firstOne : first.2 1 = 2 := by
    refine adjustMarker_seats (q, n) ?_ ?_ one
    · exact raised.zero.trans (by norm_num)
    · exact raised.one.imp_right fun up => up.trans (by norm_num)
  have secondTwo : second.2 2 = 3 := by
    refine adjustMarker_seats first ?_ ?_ two
    · exact firstOne.trans (by norm_num)
    · rw [(adjustMarker_other (q, n) (by decide : (2 : Fin 5) ≠ 1)).2]
      exact raised.two.imp_right fun up => up.trans (by norm_num)
  have thirdThree : (adjustMarker parabola desired second 3).2 3 = 4 := by
    refine adjustMarker_seats second ?_ ?_ three
    · exact secondTwo.trans (by norm_num)
    · rw [(adjustMarker_other first (by decide : (3 : Fin 5) ≠ 2)).2,
        (adjustMarker_other (q, n) (by decide : (3 : Fin 5) ≠ 1)).2]
      exact raised.three.imp_right fun up => up.trans (by norm_num)
  refine ⟨?_, ?_, ?_, thirdThree⟩
  · exact (adjustMarker_other second (by decide)).2.trans
      ((adjustMarker_other first (by decide)).2.trans
        ((adjustMarker_other (q, n) (by decide)).2.trans raised.zero))
  · exact (adjustMarker_other second (by decide)).2.trans
      ((adjustMarker_other first (by decide)).2.trans firstOne)
  · exact (adjustMarker_other second (by decide)).2.trans secondTwo

theorem fresh_dn_le : ∀ i, (ShapeCalib.fresh : ShapeCalib Rat).dn i ≤ 1 := by
  decide +kernel

/-- The desired positions never move, so after every sample the markers but the last are back at
the places they started from. -/
theorem psqRun_seated (samples : List Rat) : Seated (psqRun samples).2 := by
  induction samples using List.reverseRecOn with
  | nil => exact ⟨rfl, rfl, rfl, rfl⟩
  | append_singleton samples xn inductionHypothesis =>
    rw [psqRun_snoc_markers]
    exact (inductionHypothesis.count _ xn).adjustInner (le_trans (fresh_dn_le 1) (by norm_num))
      (le_trans (fresh_dn_le 2) (by norm_num)) (le_trans (fresh_dn_le 3) (by norm_num))

/-! ### Samples of the uppermost cell -/

/-- The heights below the last are those of the constructor, and the markers are seated. -/
structure Settled (q n : Fin 5 → Rat) (samples : Nat) : Prop where
  seated : Seated n
  last : n 4 = 5 + samples
  heights : ∀ i, i ≠ 4 → q i = (ShapeCalib.fresh : ShapeCalib Rat).q i
  ordered : Monotone q

theorem Settled.three {q n : Fin 5 → Rat} {samples : Nat} (settled : Settled q n samples) :
    q 3 = 1 / 2 :=
  settled.heights 3 (by decide)

/-- A sample at or above the fourth marker falls into the last cell. -/
theorem psqCell_upper {q : Fin 5 → Rat} (ordered : Monotone q) {xn : Rat} (above : q 3 ≤ xn) :
    (psqCell q xn).2 = 3 ∧ ∀ i, i ≠ 4 → (psqCell q xn).1 i = q i := by
  have least : ∀ i : Fin 5, i ≤ 3 → ¬xn < q i :=
    fun i below => not_lt.mpr (le_trans (ordered below) above)
  unfold psqCell
  rw [if_neg (least 0 (by decide)), if_neg (least 1 (by decide)), if_neg (least 2 (by decide)),
    if_neg (least 3 (by decide))]
  by_cases inside : xn ≤ q 4
  · rw [if_pos inside]
    exact ⟨rfl, fun _ _ => rfl⟩
  · rw [if_neg inside]
    exact ⟨rfl, fun i other => update_of_ne other _ _⟩

theorem Settled.count {q n : Fin 5 → Rat} {samples : Nat} (settled : Settled q n samples)
    {xn : Rat} (above : 1 / 2 ≤ xn) :
    Settled (psqCount q n xn).1 (psqCount q n xn).2 (samples + 1) := by
  obtain ⟨cell, heights⟩ := psqCell_upper settled.ordered (settled.three ▸ above)
  have kept : ∀ i : Fin 5, i ≤ 3 → (psqCount q n xn).2 i = n i := by
    intro i low
    show (if (psqCell q xn).2 < i then n i + 1 else n i) = n i
    rw [cell, if_neg (not_lt.mpr low)]
  refine ⟨⟨(kept 0 (by decide)).trans settled.seated.zero,
    (kept 1 (by decide)).trans settled.seated.one, (kept 2 (by decide)).trans settled.seated.two,
    (kept 3 (by decide)).trans settled.seated.three⟩, ?_,
    fun i other => (heights i other).trans (settled.heights i other),
    (psqCell_spec settled.ordered xn).1⟩
  show (if (psqCell q xn).2 < 4 then n 4 + 1 else n 4) = _
  rw [cell, if_pos (by decide), settled.last, Nat.cast_succ, add_assoc]

section Seats

variable {parabola : (Fin 5 → Rat) → (Fin 5 → Rat) → Fin 5 → Rat → Rat} {desired q n : Fin 5 → Rat}

theorem Seated.stays_one (seated : Seated n) : adjustMarker parabola desired (q, n) 1 = (q, n) := by
  refine adjustMarker_stay (Or.inl ?_) (Or.inl ?_)
  · show n 1 - n 0 ≤ 1
    rw [seated.zero, seated.one]
    norm_num
  · show n 2 - n 1 ≤ 1
    rw [seated.one, seated.two]
    norm_num

theorem Seated.stays_two (seated : Seated n) : adjustMarker parabola desired (q, n) 2 = (q, n) := by
  refine adjustMarker_stay (Or.inl ?_) (Or.inl ?_)
  · show n 2 - n 1 ≤ 1
    rw [seated.one, seated.two]
    norm_num
  · show n 3 - n 2 ≤ 1
    rw [seated.two, seated.three]
    norm_num

theorem Seated.adjustInner_eq (seated : Seated n) :
    adjustInner parabola desired (q, n) = adjustMarker parabola desired (q, n) 3 := by
  show adjustMarker parabola desired (adjustMarker parabola desired
    (adjustMarker parabola desired (q, n) 1) 2) 3 = _
  rw [seated.stays_one, seated.stays_two]

/-- Seated markers stay while the fourth desired position is below five. -/
theorem Seated.adjustInner_stays (seated : Seated n) (low : desired 3 < 5) :
    adjustInner parabola desired (q, n) = (q, n) := by
  rw [seated.adjustInner_eq]
  refine adjustMarker_stay (Or.inl ?_) (Or.inr ?_)
  · show n 3 - n 2 ≤ 1
    rw [seated.two, seated.three]
    norm_num
  · rw [seated.three]
    linarith only [low]

/-- Once the fourth desired position has reached five, the fourth marker leaves its place. -/
theorem Seated.adjustInner_moves (seated : Seated n) (high : 5 ≤ desired 3) (room : 5 < n 4) :
    (adjustInner parabola desired (q, n)).2 3 = 5 := by
  rw [seated.adjustInner_eq, adjustMarker_up]
  · show update n 3 (n 3 + 1) 3 = 5
    rw [update_self, seated.three]
    norm_num
  · rw [seated.three]
    linarith only [high]
  · show 1 < n 4 - n 3
    rw [seated.three]
    linarith only [room]

end Seats

/-- The fourth desired position at the first sample after some. -/
theorem desiredNext_three (samples : List Rat) :
    desiredNext samples 3 = 304 / 100 + (samples.length + 1) * (51 / 100) := by
  show 3 + 2 * (2 / 100 : Rat) + ((samples.length + 1 : Nat) : Rat) * ((1 + 2 / 100) / 2) = _
  rw [Nat.cast_succ]
  ring

/-- For up to three samples of the uppermost cell both runs keep the constructor's markers but
the last. -/
theorem runs_agree_upper (samples : List Rat) (short : samples.length ≤ 3)
    (upper : ∀ xn ∈ samples, 1 / 2 ≤ xn) :
    psqRun samples = (publishedRun (2 / 100) samples).1 ∧
      Settled (psqRun samples).1 (psqRun samples).2 samples.length := by
  induction samples using List.reverseRecOn with
  | nil =>
    refine ⟨rfl, ⟨rfl, rfl, rfl, rfl⟩, ?_, fun _ _ => rfl, fresh_ordered.heights⟩
    show (5 : Rat) = 5 + ((0 : Nat) : Rat)
    norm_num
  | append_singleton samples xn inductionHypothesis =>
    rw [List.length_append, List.length_singleton] at short
    obtain ⟨same, settled⟩ := inductionHypothesis (Nat.le_of_succ_le short)
      fun earlier member => upper earlier (List.mem_append_left _ member)
    have counted := settled.count
      (upper xn (List.mem_append_right _ (List.mem_singleton_self xn)))
    have low : desiredNext samples 3 < 5 := by
      have bound : (samples.length + 1 : Rat) ≤ 3 := by exact_mod_cast short
      rw [desiredNext_three]
      linarith only [bound]
    have code : psqRun (samples ++ [xn]) =
        psqCount (psqRun samples).1 (psqRun samples).2 xn := by
      rw [psqRun_snoc_markers]
      exact counted.seated.adjustInner_stays (lt_of_le_of_lt (fresh_dn_le 3) (by norm_num))
    have published : (publishedRun (2 / 100) (samples ++ [xn])).1 =
        psqCount (psqRun samples).1 (psqRun samples).2 xn := by
      rw [publishedRun_snoc_markers, ← same]
      exact counted.seated.adjustInner_stays low
    rw [code, published, List.length_append, List.length_singleton]
    exact ⟨rfl, counted⟩

/-- The fourth sample of the uppermost cell moves a marker of the published algorithm. -/
theorem fourth_sample_moves {samples : List Rat} (four : 3 ≤ samples.length)
    {q n : Fin 5 → Rat} (settled : Settled q n samples.length) {xn : Rat} (above : 1 / 2 ≤ xn) :
    (adjustInner parabolicPrediction (desiredNext samples) (psqCount q n xn)).2 3 = 5 := by
  have counted := settled.count above
  have many : (3 : Rat) ≤ samples.length := by exact_mod_cast four
  refine counted.seated.adjustInner_moves ?_ ?_
  · rw [desiredNext_three]
    linarith only [many]
  · rw [counted.last, Nat.cast_succ]
    linarith only [many]

/-! ### A sample below the fourth marker -/

/-- A sample below the fourth marker falls into a cell below it, and moves no height but the
first. -/
theorem psqCell_lower {q : Fin 5 → Rat} {xn : Rat} (below : xn < q 3) :
    (psqCell q xn).2 < 3 ∧ ∀ i, i ≠ 0 → (psqCell q xn).1 i = q i := by
  unfold psqCell
  by_cases beforeAll : xn < q 0
  · rw [if_pos beforeAll]
    exact ⟨(by decide : (0 : Fin 5) < 3), fun i other => update_of_ne other _ _⟩
  rw [if_neg beforeAll]
  by_cases first : xn < q 1
  · rw [if_pos first]
    exact ⟨(by decide : (0 : Fin 5) < 3), fun _ _ => rfl⟩
  rw [if_neg first]
  by_cases second : xn < q 2
  · rw [if_pos second]
    exact ⟨(by decide : (1 : Fin 5) < 3), fun _ _ => rfl⟩
  rw [if_neg second, if_pos below]
  exact ⟨(by decide : (2 : Fin 5) < 3), fun _ _ => rfl⟩

theorem Settled.lower_cell {q n : Fin 5 → Rat} {samples : Nat} (settled : Settled q n samples)
    {xn : Rat} (below : xn < 1 / 2) :
    (psqCell q xn).2 < 3 ∧ ∀ i, i ≠ 0 → (psqCell q xn).1 i = q i :=
  psqCell_lower (settled.three.symm ▸ below)

/-- Such a sample raises the fourth and the last marker. -/
theorem Settled.lower_count {q n : Fin 5 → Rat} {samples : Nat} (settled : Settled q n samples)
    {xn : Rat} (below : xn < 1 / 2) :
    (psqCount q n xn).2 3 = 5 ∧ (psqCount q n xn).2 4 = 6 + samples := by
  obtain ⟨cell, -⟩ := settled.lower_cell below
  constructor
  · show (if (psqCell q xn).2 < 3 then n 3 + 1 else n 3) = 5
    rw [if_pos cell, settled.seated.three]
    norm_num
  · show (if (psqCell q xn).2 < 4 then n 4 + 1 else n 4) = 6 + samples
    rw [if_pos (lt_trans cell (by decide)), settled.last]
    ring

/-- At the second, third and fourth sample the published algorithm leaves a raised fourth marker. -/
theorem lower_sample_stays {samples : List Rat} (some : 1 ≤ samples.length)
    (few : samples.length ≤ 3) {q n : Fin 5 → Rat} (settled : Settled q n samples.length)
    {xn : Rat} (below : xn < 1 / 2) :
    (adjustInner parabolicPrediction (desiredNext samples) (psqCount q n xn)).2 3 = 5 := by
  let first := adjustMarker parabolicPrediction (desiredNext samples) (psqCount q n xn) 1
  let second := adjustMarker parabolicPrediction (desiredNext samples) first 2
  have raised : second.2 3 = 5 :=
    (adjustMarker_other first (by decide)).2.trans
      ((adjustMarker_other (psqCount q n xn) (by decide)).2.trans
        (settled.lower_count below).1)
  have atLeast : (1 : Rat) ≤ samples.length := by exact_mod_cast some
  have atMost : (samples.length : Rat) ≤ 3 := by exact_mod_cast few
  have stays : adjustMarker parabolicPrediction (desiredNext samples) (second.1, second.2) 3 =
      (second.1, second.2) := by
    refine adjustMarker_stay (Or.inr ?_) (Or.inr ?_)
    · rw [raised, desiredNext_three]
      linarith only [atLeast]
    · rw [raised, desiredNext_three]
      linarith only [atMost]
  exact (congrArg (fun markers => markers.2 3) stays).trans raised

/-! ### The first sample -/

/-- The height of a raised marker that goes back down, by the code's parabola. -/
def loweredCode (below height above : Rat) : Rat :=
  let parabola := height - (2 * (above - height) + (height - below) / 2) / 3
  if below < parabola ∧ parabola < above then parabola else (below + height) / 2

/-- The same by the published parabola. -/
def loweredPublished (below height above : Rat) : Rat :=
  let parabola := height - (above - below) / 3
  if below < parabola ∧ parabola < above then parabola else (below + height) / 2

section Lowered

variable {q n : Fin 5 → Rat} {i : Fin 5}

theorem psqLinear_lowered (down : n i - n (i - 1) = 2) :
    psqLinear q n i (-1) = (q (i - 1) + q i) / 2 := by
  have back : n (i - 1) - n i = -2 := by linarith only [down]
  rw [psqLinear_down, back]
  ring

theorem markerHeight_code (down : n i - n (i - 1) = 2) (up : n (i + 1) - n i = 1) :
    markerHeight psqUpdate q n i (-1) = loweredCode (q (i - 1)) (q i) (q (i + 1)) := by
  have parabola : psqUpdate q n i (-1) =
      q i - (2 * (q (i + 1) - q i) + (q i - q (i - 1)) / 2) / 3 := by
    show q i + -1 / ((n (i + 1) - n i) + (n i - n (i - 1))) *
      ((n i - n (i - 1)) / (n (i + 1) - n i) * (q (i + 1) - q i) +
        (n (i + 1) - n i) / (n i - n (i - 1)) * (q i - q (i - 1))) = _
    rw [down, up]
    ring
  unfold markerHeight loweredCode
  rw [parabola, psqLinear_lowered down]

theorem markerHeight_published (down : n i - n (i - 1) = 2) (up : n (i + 1) - n i = 1) :
    markerHeight parabolicPrediction q n i (-1) =
      loweredPublished (q (i - 1)) (q i) (q (i + 1)) := by
  have span : n (i + 1) - n (i - 1) = 3 := by linarith only [down, up]
  have parabola : parabolicPrediction q n i (-1) = q i - (q (i + 1) - q (i - 1)) / 3 := by
    unfold parabolicPrediction
    rw [span, down, up]
    ring
  unfold markerHeight loweredPublished
  rw [parabola, psqLinear_lowered down]

end Lowered

/-- From a third height below a quarter the two parabolas lower the fourth marker to the same
height only if the third one is at minus one half. -/
theorem fourth_height_eq {height : Rat} (low : height < 1 / 4)
    (same : loweredCode height (1 / 2) 1 = loweredPublished height (1 / 2) 1) :
    height = -1 / 2 := by
  unfold loweredCode loweredPublished at same
  dsimp only at same
  have published : height < 1 / 2 - (1 - height) / 3 ∧ 1 / 2 - (1 - height) / 3 < 1 :=
    ⟨by linarith only [low], by linarith only [low]⟩
  rw [if_pos published] at same
  by_cases code : height < 1 / 2 - (2 * (1 - 1 / 2) + (1 / 2 - height) / 2) / 3 ∧
      1 / 2 - (2 * (1 - 1 / 2) + (1 / 2 - height) / 2) / 3 < 1
  · rw [if_pos code] at same
    linarith only [same]
  · rw [if_neg code] at same
    linarith only [same]

/-- No second height lowers the third marker to minus one half in both. -/
theorem third_height_ne (height : Rat) (code : loweredCode height (1 / 50) (1 / 2) = -1 / 2)
    (published : loweredPublished height (1 / 50) (1 / 2) = -1 / 2) : False := by
  unfold loweredCode at code
  unfold loweredPublished at published
  dsimp only at code published
  by_cases codeInside : height < 1 / 50 - (2 * (1 / 2 - 1 / 50) + (1 / 50 - height) / 2) / 3 ∧
      1 / 50 - (2 * (1 / 2 - 1 / 50) + (1 / 50 - height) / 2) / 3 < 1 / 2
  · rw [if_pos codeInside] at code
    by_cases inside : height < 1 / 50 - (1 / 2 - height) / 3 ∧
        1 / 50 - (1 / 2 - height) / 3 < 1 / 2
    · rw [if_pos inside] at published
      linarith only [code, published]
    · rw [if_neg inside] at published
      linarith only [code, published]
  · rw [if_neg codeInside] at code
    refine codeInside ⟨?_, ?_⟩
    · linarith only [code]
    · linarith only [code]

theorem third_height_low {height : Rat} (ordered : height ≤ loweredCode height (1 / 50) (1 / 2)) :
    loweredCode height (1 / 50) (1 / 2) ≤ 1 / 50 := by
  unfold loweredCode at ordered ⊢
  dsimp only at ordered ⊢
  by_cases inside : height < 1 / 50 - (2 * (1 / 2 - 1 / 50) + (1 / 50 - height) / 2) / 3 ∧
      1 / 50 - (2 * (1 / 2 - 1 / 50) + (1 / 50 - height) / 2) / 3 < 1 / 2
  · rw [if_pos inside] at ordered ⊢
    linarith only [ordered]
  · rw [if_neg inside] at ordered ⊢
    linarith only [ordered]

section FirstSample

/-! The parabola lowers a raised marker to `lowered`. -/

variable {parabola : (Fin 5 → Rat) → (Fin 5 → Rat) → Fin 5 → Rat → Rat}
  {lowered : Rat → Rat → Rat → Rat}
  (lowers : ∀ (q n : Fin 5 → Rat) (i : Fin 5), n i - n (i - 1) = 2 → n (i + 1) - n i = 1 →
    markerHeight parabola q n i (-1) = lowered (q (i - 1)) (q i) (q (i + 1)))
  {desired : Fin 5 → Rat}

include lowers in
theorem adjustMarker_lowered {q n : Fin 5 → Rat} {i : Fin 5} (down : n i - n (i - 1) = 2)
    (up : n (i + 1) - n i = 1) (late : desired i - n i ≤ -1) :
    (adjustMarker parabola desired (q, n) i).1 i = lowered (q (i - 1)) (q i) (q (i + 1)) := by
  rw [adjustMarker_down late (by linarith only [down]), lowers q n i down up]
  exact update_self _ _ _

include lowers in
/-- The third marker stays or is lowered. -/
theorem adjust_third (markers : (Fin 5 → Rat) × (Fin 5 → Rat)) (one : markers.2 1 = 2)
    (two : markers.2 2 = 3 ∨ markers.2 2 = 4) (three : markers.2 3 = 5) (late : desired 2 ≤ 3) :
    markers.2 2 = 3 ∧ (adjustMarker parabola desired markers 2).1 2 = markers.1 2 ∨
      markers.2 2 = 4 ∧ (adjustMarker parabola desired markers 2).1 2 =
        lowered (markers.1 1) (markers.1 2) (markers.1 3) := by
  obtain ⟨q, n⟩ := markers
  dsimp only at one two three ⊢
  rcases two with seated | up
  · have stays : adjustMarker parabola desired (q, n) 2 = (q, n) := by
      refine adjustMarker_stay (Or.inl ?_) (Or.inr ?_)
      · show n 2 - n 1 ≤ 1
        rw [seated, one]
        norm_num
      · rw [seated]
        linarith only [late]
    exact Or.inl ⟨seated, congrArg (fun markers => markers.1 2) stays⟩
  · refine Or.inr ⟨up, adjustMarker_lowered lowers ?_ ?_ ?_⟩
    · show n 2 - n 1 = 2
      rw [up, one]
      norm_num
    · show n 3 - n 2 = 1
      rw [up, three]
      norm_num
    · rw [up]
      linarith only [late]

include lowers in
/-- The fourth marker is lowered. -/
theorem adjust_fourth (markers : (Fin 5 → Rat) × (Fin 5 → Rat)) (two : markers.2 2 = 3)
    (three : markers.2 3 = 5) (four : markers.2 4 = 6) (late : desired 3 ≤ 4) :
    (adjustMarker parabola desired markers 3).1 3 =
      lowered (markers.1 2) (markers.1 3) (markers.1 4) := by
  obtain ⟨q, n⟩ := markers
  dsimp only at two three four ⊢
  refine adjustMarker_lowered lowers ?_ ?_ ?_
  · show n 3 - n 2 = 2
    rw [three, two]
    norm_num
  · show n 4 - n 3 = 1
    rw [three, four]
    norm_num
  · rw [three]
    linarith only [late]

include lowers in
/-- What the adjustments make of the third and the fourth height when the fourth marker was
raised. -/
theorem adjustInner_lowered (q : Fin 5 → Rat) {n : Fin 5 → Rat} (raised : Raised n)
    (three : n 3 = 5) (four : n 4 = 6) (lateOne : desired 1 ≤ 2) (lateTwo : desired 2 ≤ 3)
    (lateThree : desired 3 ≤ 4) :
    (adjustInner parabola desired (q, n)).1 3 =
        lowered ((adjustInner parabola desired (q, n)).1 2) (q 3) (q 4) ∧
      (n 2 = 3 ∧ (adjustInner parabola desired (q, n)).1 2 = q 2 ∨
        n 2 = 4 ∧ (adjustInner parabola desired (q, n)).1 2 =
          lowered ((adjustInner parabola desired (q, n)).1 1) (q 2) (q 3)) := by
  let first := adjustMarker parabola desired (q, n) 1
  let second := adjustMarker parabola desired first 2
  have keptFirst : ∀ j, j ≠ 1 → first.1 j = q j ∧ first.2 j = n j :=
    fun j other => adjustMarker_other (q, n) other
  have keptSecond : ∀ j, j ≠ 2 → second.1 j = first.1 j ∧ second.2 j = first.2 j :=
    fun j other => adjustMarker_other first other
  have keptThird : ∀ j, j ≠ 3 → (adjustInner parabola desired (q, n)).1 j = second.1 j :=
    fun j other => (adjustMarker_other second other).1
  have seated : Seated (adjustInner parabola desired (q, n)).2 :=
    raised.adjustInner lateOne lateTwo lateThree
  have oneSeated : first.2 1 = 2 := by
    rw [← (keptSecond 1 (by decide)).2, ← seated.one]
    exact (adjustMarker_other second (by decide)).2.symm
  have twoSeated : second.2 2 = 3 := by
    rw [← seated.two]
    exact (adjustMarker_other second (by decide)).2.symm
  have threeFirst : first.2 3 = 5 := (keptFirst 3 (by decide)).2.trans three
  constructor
  · rw [keptThird 2 (by decide), ← (keptFirst 3 (by decide)).1, ← (keptFirst 4 (by decide)).1,
      ← (keptSecond 3 (by decide)).1, ← (keptSecond 4 (by decide)).1]
    exact adjust_fourth lowers second twoSeated ((keptSecond 3 (by decide)).2.trans threeFirst)
      ((keptSecond 4 (by decide)).2.trans ((keptFirst 4 (by decide)).2.trans four)) lateThree
  · have cases := adjust_third lowers first oneSeated
      ((keptFirst 2 (by decide)).2.symm ▸ raised.two) threeFirst lateTwo
    rw [keptThird 2 (by decide), keptThird 1 (by decide), (keptSecond 1 (by decide)).1]
    rw [(keptFirst 2 (by decide)).1, (keptFirst 2 (by decide)).2,
      (keptFirst 3 (by decide)).1] at cases
    exact cases

end FirstSample

theorem fresh_settled :
    Settled (ShapeCalib.fresh : ShapeCalib Rat).q (ShapeCalib.fresh : ShapeCalib Rat).n 0 :=
  (runs_agree_upper [] (by decide) (List.forall_mem_nil _)).2

theorem desiredNext_nil_low :
    desiredNext [] 1 ≤ 2 ∧ desiredNext [] 2 ≤ 3 ∧ desiredNext [] 3 ≤ 4 := by
  decide +kernel

/-- A first sample below one half tells the two apart. -/
theorem first_sample_differs {xn : Rat} (below : xn < 1 / 2) :
    psqRun [xn] ≠ (publishedRun (2 / 100) [xn]).1 := by
  intro same
  let q : Fin 5 → Rat := (ShapeCalib.fresh : ShapeCalib Rat).q
  let n : Fin 5 → Rat := (ShapeCalib.fresh : ShapeCalib Rat).n
  have raised : Raised (psqCount q n xn).2 := fresh_settled.seated.count q xn
  obtain ⟨three, four⟩ := fresh_settled.lower_count below
  have fourSix : (psqCount q n xn).2 4 = 6 := four.trans (by norm_num)
  obtain ⟨-, kept⟩ := fresh_settled.lower_cell below
  have heightTwo : (psqCount q n xn).1 2 = 1 / 50 := (kept 2 (by decide)).trans (by decide +kernel)
  have heightThree : (psqCount q n xn).1 3 = 1 / 2 := kept 3 (by decide)
  have heightFour : (psqCount q n xn).1 4 = 1 := kept 4 (by decide)
  obtain ⟨publishedOne, publishedTwo, publishedThree⟩ := desiredNext_nil_low
  have code := adjustInner_lowered (fun _ _ _ => markerHeight_code) (psqCount q n xn).1 raised three
    fourSix (le_trans (fresh_dn_le 1) (by norm_num)) (le_trans (fresh_dn_le 2) (by norm_num))
    (le_trans (fresh_dn_le 3) (by norm_num))
  have published := adjustInner_lowered (fun _ _ _ => markerHeight_published)
    (psqCount q n xn).1 raised three fourSix publishedOne publishedTwo publishedThree
  have codeRun : adjustInner psqUpdate ShapeCalib.fresh.dn (psqCount q n xn) = psqRun [xn] :=
    (psqRun_snoc_markers [] xn).symm
  have publishedMarkers : adjustInner parabolicPrediction (desiredNext []) (psqCount q n xn) =
      psqRun [xn] :=
    (publishedRun_snoc_markers [] xn).symm.trans same.symm
  rw [Prod.mk.eta, codeRun, heightTwo, heightThree, heightFour] at code
  rw [Prod.mk.eta, publishedMarkers, heightTwo, heightThree, heightFour] at published
  obtain ⟨codeFourth, codeThird⟩ := code
  obtain ⟨publishedFourth, publishedThird⟩ := published
  have fourth := codeFourth.symm.trans publishedFourth
  rcases codeThird with ⟨seated, third⟩ | ⟨up, third⟩
  · rw [third] at fourth
    have half := fourth_height_eq (by norm_num) fourth
    norm_num at half
  · have thirdPublished :
        (psqRun [xn]).1 2 = loweredPublished ((psqRun [xn]).1 1) (1 / 50) (1 / 2) :=
      publishedThird.elim (fun stays => absurd (stays.1.symm.trans up) (by norm_num)) And.right
    have ordered : (psqRun [xn]).1 1 ≤ (psqRun [xn]).1 2 :=
      (psqRun_invariant [xn]).ordered.heights (by decide)
    have low : (psqRun [xn]).1 2 ≤ 1 / 50 := by
      rw [third] at ordered ⊢
      exact third_height_low ordered
    have half := fourth_height_eq (lt_of_le_of_lt low (by norm_num)) fourth
    exact third_height_ne _ (third.symm.trans half) (thirdPublished.symm.trans half)

/-! ### Agreement after every sample -/

/-- A sample after which the two still agree is the third at most, and not below one half. -/
theorem sample_of_agreement {samples : List Rat} (short : samples.length ≤ 3)
    (upper : ∀ xn ∈ samples, 1 / 2 ≤ xn) {xn : Rat}
    (agree : psqRun (samples ++ [xn]) = (publishedRun (2 / 100) (samples ++ [xn])).1) :
    samples.length + 1 ≤ 3 ∧ 1 / 2 ≤ xn := by
  obtain ⟨same, settled⟩ := runs_agree_upper samples short upper
  have four : (adjustInner parabolicPrediction (desiredNext samples)
      (psqCount (psqRun samples).1 (psqRun samples).2 xn)).2 3 = 4 := by
    have published := publishedRun_snoc_markers samples xn
    rw [← same, ← agree] at published
    rw [← published]
    exact (psqRun_seated _).three
  by_cases below : xn < 1 / 2
  · rcases Nat.eq_zero_or_pos samples.length with none | some
    · rw [List.length_eq_zero_iff.mp none] at agree
      exact absurd agree (first_sample_differs below)
    · rw [lower_sample_stays some short settled below] at four
      norm_num at four
  · have above := not_lt.mp below
    refine ⟨Nat.le_of_not_lt fun many => ?_, above⟩
    rw [fourth_sample_moves (Nat.le_of_lt_succ many) settled above] at four
    norm_num at four

/-- The markers agree with the published ones after every sample exactly if there are at most
three samples and none is below one half. -/
theorem psqRun_eq_published_iff (samples : List Rat) :
    (∀ taken, taken <+: samples → psqRun taken = (publishedRun (2 / 100) taken).1) ↔
      samples.length ≤ 3 ∧ ∀ xn ∈ samples, 1 / 2 ≤ xn := by
  constructor
  · intro agree
    induction samples using List.reverseRecOn with
    | nil => exact ⟨Nat.zero_le 3, List.forall_mem_nil _⟩
    | append_singleton samples xn inductionHypothesis =>
      obtain ⟨short, upper⟩ := inductionHypothesis fun taken early =>
        agree taken (early.trans (List.prefix_append _ _))
      obtain ⟨room, above⟩ := sample_of_agreement short upper
        (agree _ (List.prefix_refl _))
      rw [List.length_append, List.length_singleton]
      refine ⟨room, fun sample member => ?_⟩
      rcases List.mem_append.mp member with earlier | last
      · exact upper sample earlier
      · exact List.mem_singleton.mp last ▸ above
  · rintro ⟨short, upper⟩ taken early
    exact (runs_agree_upper taken (le_trans early.length_le short) fun xn member =>
      upper xn (early.subset member)).1

/-- One sample at a tenth: the fourth height is half of what the published algorithm makes it. -/
theorem first_sample_halves :
    (psqRun [1 / 10]).1 3 = 13 / 150 ∧ (publishedRun (2 / 100) [1 / 10]).1.1 3 = 13 / 75 ∧
    psqRun [1 / 10] ≠ (publishedRun (2 / 100) [1 / 10]).1 := by
  have code : (psqRun [1 / 10]).1 3 = 13 / 150 := by decide +kernel
  have published : (publishedRun (2 / 100) [1 / 10]).1.1 3 = 13 / 75 := by decide +kernel
  refine ⟨code, published, fun same => ?_⟩
  rw [same, published] at code
  norm_num at code

end PairDriver.FaceCalibration
