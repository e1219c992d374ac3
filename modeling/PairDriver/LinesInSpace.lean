/-
This file is a library about pairs of lines in a real inner product space: the points at
which their common perpendicular meets them, which are the points where they come closest,
the depth of the middle of these points along each line, and the direction one gets by
going from the direction of a line some way towards the direction of a point.
-/

import Mathlib

namespace PairDriver.LinesInSpace

variable {Space : Type} [NormedAddCommGroup Space] [InnerProductSpace ℝ Space]

/-! ### Common perpendiculars -/

/-- A point and a direction of any length. -/
structure Line (Space : Type) where
  base : Space
  direction : Space

/-- The point of a line with a parameter. -/
def Line.at (line : Line Space) (parameter : ℝ) : Space :=
  line.base + parameter • line.direction

/-- The way between two points of two lines is perpendicular to both lines. -/
structure Perpendicular (first second : Line Space) (s t : ℝ) : Prop where
  toFirst : inner ℝ first.direction (first.at s - second.at t) = 0
  toSecond : inner ℝ second.direction (first.at s - second.at t) = 0

theorem inner_between (vector : Space) (first second : Line Space) (s t : ℝ) :
    inner ℝ vector (first.at s - second.at t) =
      inner ℝ vector (first.base - second.base) + s * inner ℝ vector first.direction -
        t * inner ℝ vector second.direction := by
  unfold Line.at
  simp only [inner_sub_right, inner_add_right, real_inner_smul_right]
  ring

/-- The parameters of the common perpendicular of two lines that are not parallel. -/
theorem perpendicular_iff (first second : Line Space) (s t : ℝ)
    (skew : inner ℝ first.direction first.direction *
        inner ℝ second.direction second.direction -
      inner ℝ first.direction second.direction * inner ℝ first.direction second.direction ≠
        (0 : ℝ)) :
    Perpendicular first second s t ↔
      s = (inner ℝ first.direction second.direction *
            inner ℝ second.direction (first.base - second.base) -
          inner ℝ second.direction second.direction *
            inner ℝ first.direction (first.base - second.base)) /
        (inner ℝ first.direction first.direction *
            inner ℝ second.direction second.direction -
          inner ℝ first.direction second.direction * inner ℝ first.direction second.direction) ∧
      t = (inner ℝ first.direction first.direction *
            inner ℝ second.direction (first.base - second.base) -
          inner ℝ first.direction second.direction *
            inner ℝ first.direction (first.base - second.base)) /
        (inner ℝ first.direction first.direction *
            inner ℝ second.direction second.direction -
          inner ℝ first.direction second.direction *
            inner ℝ first.direction second.direction) := by
  have equations : Perpendicular first second s t ↔
      inner ℝ first.direction (first.at s - second.at t) = 0 ∧
        inner ℝ second.direction (first.at s - second.at t) = 0 :=
    ⟨fun perpendicular => ⟨perpendicular.toFirst, perpendicular.toSecond⟩,
      fun equations => ⟨equations.1, equations.2⟩⟩
  rw [equations, inner_between, inner_between,
    real_inner_comm first.direction second.direction, eq_div_iff skew, eq_div_iff skew]
  generalize (inner ℝ first.direction first.direction : ℝ) = a at skew ⊢
  generalize (inner ℝ first.direction second.direction : ℝ) = b at skew ⊢
  generalize (inner ℝ second.direction second.direction : ℝ) = c at skew ⊢
  generalize (inner ℝ first.direction (first.base - second.base) : ℝ) = d
  generalize (inner ℝ second.direction (first.base - second.base) : ℝ) = e
  constructor
  · rintro ⟨toFirst, toSecond⟩
    constructor
    · linear_combination c * toFirst - b * toSecond
    · linear_combination b * toFirst - a * toSecond
  · rintro ⟨atFirst, atSecond⟩
    constructor
    · refine mul_right_cancel₀ skew ?_
      linear_combination a * atFirst - b * atSecond
    · refine mul_right_cancel₀ skew ?_
      linear_combination b * atFirst - c * atSecond

/-- The common perpendicular is the shortest way between the lines. -/
theorem Perpendicular.closest {first second : Line Space} {s t : ℝ}
    (perpendicular : Perpendicular first second s t) (s' t' : ℝ) :
    ‖first.at s - second.at t‖ ≤ ‖first.at s' - second.at t'‖ := by
  have moved : first.at s' - second.at t' = (first.at s - second.at t) +
      ((s' - s) • first.direction - (t' - t) • second.direction) := by
    unfold Line.at
    module
  have across : inner ℝ (first.at s - second.at t)
      ((s' - s) • first.direction - (t' - t) • second.direction) = (0 : ℝ) := by
    rw [inner_sub_right, real_inner_smul_right, real_inner_smul_right, real_inner_comm,
      perpendicular.toFirst, real_inner_comm, perpendicular.toSecond]
    ring
  have pythagoras := norm_add_sq_eq_norm_sq_add_norm_sq_real across
  rw [moved]
  nlinarith [norm_nonneg (first.at s - second.at t), mul_self_nonneg
    ‖(s' - s) • first.direction - (t' - t) • second.direction‖, norm_nonneg
    ((first.at s - second.at t) +
      ((s' - s) • first.direction - (t' - t) • second.direction))]

/-! ### Depths -/

/-- The middle of the common perpendicular. -/
def middle (first second : Line Space) (s t : ℝ) : Space :=
  (0.5 : ℝ) • (first.at s + second.at t)

/-- The middle of the common perpendicular lies as deep along a line as its own point. -/
theorem Perpendicular.depth_first {first second : Line Space} {s t : ℝ}
    (perpendicular : Perpendicular first second s t) :
    inner ℝ first.direction (middle first second s t - first.base) =
      s * inner ℝ first.direction first.direction := by
  have split : middle first second s t - first.base =
      s • first.direction - (0.5 : ℝ) • (first.at s - second.at t) := by
    unfold middle Line.at
    module
  rw [split, inner_sub_right, real_inner_smul_right, real_inner_smul_right,
    perpendicular.toFirst]
  ring

theorem Perpendicular.depth_second {first second : Line Space} {s t : ℝ}
    (perpendicular : Perpendicular first second s t) :
    inner ℝ second.direction (middle first second s t - second.base) =
      t * inner ℝ second.direction second.direction := by
  have split : middle first second s t - second.base =
      t • second.direction + (0.5 : ℝ) • (first.at s - second.at t) := by
    unfold middle Line.at
    module
  rw [split, inner_add_right, real_inner_smul_right, real_inner_smul_right,
    perpendicular.toSecond]
  ring

/-- The depth of a point that was moved away from a center. -/
theorem inner_stretched (direction base center point : Space) (factor : ℝ) :
    inner ℝ direction (center + factor • (point - center) - base) =
      factor * inner ℝ direction (point - base) +
        (1 - factor) * (inner ℝ direction (center - base) : ℝ) := by
  simp only [inner_sub_right, inner_add_right, real_inner_smul_right]
  ring

/-! ### Turning towards a point -/

/-- A unit direction, moved some way towards the direction of a vector, and its product with
the direction it started from. -/
theorem inner_towards (direction vector : Space) (divisor weight : ℝ)
    (unit : (inner ℝ direction direction : ℝ) = 1) (positive : 0 < divisor) :
    divisor * inner ℝ direction
        (direction + weight • ((1 / divisor) • vector - direction)) =
      (1 - weight) * divisor + weight * inner ℝ direction vector := by
  simp only [inner_sub_right, inner_add_right, real_inner_smul_right, unit]
  field_simp
  ring

end PairDriver.LinesInSpace
