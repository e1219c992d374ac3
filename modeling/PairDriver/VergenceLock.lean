/-
This file models the vergence lock of the face tracking driver over the real numbers: the
rays of both eyes, the middle of their closest points, the penalty for eyes that disagree,
the bounds on the distance of the focus point, and the gazes that are drawn towards it.

The solve takes the eyes to look along whole lines. The closest points of rays that diverge
lie behind the eyes, and nothing asks for the signs of the ray parameters, so the gazes are
drawn towards a point behind the head. How far a gaze turns depends on its weight, the
distance of the focus point and its depth along the gaze, and on nothing else.
-/

import PairDriver.FaceParameters
import PairDriver.LinesInSpace

namespace PairDriver.VergenceLock

open FaceParameters LinesInSpace

noncomputable section

local instance neZeroThree : NeZero 3 := ⟨by decide⟩

local instance atLeastTwo : Nat.AtLeastTwo 2 := inferInstance

/-! ### Vectors -/

structure Vec3 where
  x : ℝ
  y : ℝ
  z : ℝ

namespace Vec3

def ofAxes (axes : Fin 3 → ℝ) : Vec3 := ⟨axes 0, axes 1, axes 2⟩

def toAxes (v : Vec3) : Fin 3 → ℝ := ![v.x, v.y, v.z]

def dot (a b : Vec3) : ℝ := a.x * b.x + a.y * b.y + a.z * b.z

def sub (a b : Vec3) : Vec3 := ⟨a.x - b.x, a.y - b.y, a.z - b.z⟩

def add (a b : Vec3) : Vec3 := ⟨a.x + b.x, a.y + b.y, a.z + b.z⟩

def scale (a : Vec3) (s : ℝ) : Vec3 := ⟨a.x * s, a.y * s, a.z * s⟩

def length (v : Vec3) : ℝ := Real.sqrt (v.dot v)

def normalize (v : Vec3) : Vec3 :=
  if v.length < 1e-9 then v else v.scale (1 / v.length)

def lerp (a b : Vec3) (t : ℝ) : Vec3 :=
  ⟨a.x + t * (b.x - a.x), a.y + t * (b.y - a.y), a.z + t * (b.z - a.z)⟩

end Vec3

/-! ### The rays of a frame -/

/-- The origins and the normalized gazes of both eyes. -/
structure Rays where
  o_L : Vec3
  o_R : Vec3
  d_L : Vec3
  d_R : Vec3

def raysOf {count : Nat} (frame : FrameBody ℝ count) : Rays where
  o_L := Vec3.ofAxes (frame.eyeOrigin .left)
  o_R := Vec3.ofAxes (frame.eyeOrigin .right)
  d_L := (Vec3.ofAxes (frame.eyeGaze .left)).normalize
  d_R := (Vec3.ofAxes (frame.eyeGaze .right)).normalize

namespace Rays

variable (rays : Rays)

def r : Vec3 := rays.o_L.sub rays.o_R
def a : ℝ := rays.d_L.dot rays.d_L
def b : ℝ := rays.d_L.dot rays.d_R
def c : ℝ := rays.d_R.dot rays.d_R
def d : ℝ := rays.d_L.dot rays.r
def e : ℝ := rays.d_R.dot rays.r
def denom : ℝ := rays.a * rays.c - rays.b * rays.b
def t_L : ℝ := (rays.b * rays.e - rays.c * rays.d) / rays.denom
def t_R : ℝ := (rays.a * rays.e - rays.b * rays.d) / rays.denom

def avg_t : ℝ := 0.5 * (|rays.t_L| + |rays.t_R| + 1e-9)

def rel_disagree : ℝ := |(|rays.t_L| - |rays.t_R|)| / rays.avg_t

/-- What is left of the strength if the eyes disagree. -/
def scale : ℝ := max 0 (min 1 (1 - (rays.rel_disagree - 0.5) / 0.5))

def p_L : Vec3 := rays.o_L.add (rays.d_L.scale rays.t_L)
def p_R : Vec3 := rays.o_R.add (rays.d_R.scale rays.t_R)
def focus : Vec3 := (rays.p_L.add rays.p_R).scale 0.5
def eyeMid : Vec3 := (rays.o_L.add rays.o_R).scale 0.5
def toFocus : Vec3 := rays.focus.sub rays.eyeMid
def dist : ℝ := rays.toFocus.length

/-- The strength after the penalty, or nothing if too little of it is left. -/
def penalized (k : ℝ) : Option ℝ :=
  if 0.5 < rays.rel_disagree then
    if k * rays.scale < 1e-4 then none else some (k * rays.scale)
  else some k

/-- The focus point after the bounds on its distance, or nothing if it is dropped. -/
def clampedFocus : Option Vec3 :=
  if rays.dist < 0.10 then
    if rays.dist < 1e-6 then none
    else some (rays.eyeMid.add ((rays.toFocus.scale (1 / rays.dist)).scale 0.10))
  else if 20.0 < rays.dist then none
  else some rays.focus

end Rays

/-! ### The lock -/

structure Lock where
  last_focus_m : ℝ
  last_ipd_m : ℝ

section Apply

variable {count : Nat}

/-- The frame with another gaze of an eye. -/
def withGaze (frame : FrameBody ℝ count) (side : Side) (gaze : Vec3) : FrameBody ℝ count :=
  { frame with eyeGaze := fun other => if other = side then gaze.toAxes else frame.eyeGaze other }

/-- The direction of an eye, drawn towards the focus point. -/
def drawn (origin direction focus : Vec3) (k : ℝ) : Vec3 :=
  (direction.lerp (focus.sub origin).normalize k).normalize

/-- What is left to do once both eyes are trusted. -/
def applyBoth (lock : Lock) (frame : FrameBody ℝ count) (rays : Rays) (k : ℝ) :
    Lock × FrameBody ℝ count :=
  if rays.denom < 1e-6 then (lock, frame)
  else
    match rays.penalized k with
    | none => (lock, frame)
    | some k =>
      let lock := { lock with last_focus_m := rays.dist }
      match rays.clampedFocus with
      | none => (lock, frame)
      | some focus =>
        (lock, withGaze (withGaze frame .left (drawn rays.o_L rays.d_L focus k)) .right
          (drawn rays.o_R rays.d_R focus k))

/-- `VergenceLock::Apply`. -/
def apply (lock : Lock) (frame : FrameBody ℝ count) (strength : UInt8) :
    Lock × FrameBody ℝ count :=
  if frame.eyeValid = false then (lock, frame)
  else if strength = 0 then (lock, frame)
  else
    let k : ℝ := strength.toNat / 100.0
    let rays := raysOf frame
    let lock := { lock with last_ipd_m := (rays.o_L.sub rays.o_R).length }
    if frame.eyeConfidence .left < 0.3 ∧ frame.eyeConfidence .right < 0.3 then (lock, frame)
    else if frame.eyeConfidence .left < 0.3 then
      (lock, withGaze frame .left (rays.d_L.lerp rays.d_R k).normalize)
    else if frame.eyeConfidence .right < 0.3 then
      (lock, withGaze frame .right (rays.d_R.lerp rays.d_L k).normalize)
    else applyBoth lock frame rays k

/-- The inner product of the gaze of an eye after the lock with the one before it. -/
def gazeProduct (lock : Lock) (frame : FrameBody ℝ count) (strength : UInt8) (side : Side) : ℝ :=
  (Vec3.ofAxes ((apply lock frame strength).2.eyeGaze side)).dot
    (Vec3.ofAxes (frame.eyeGaze side))

end Apply

/-! ### Vectors as points of space -/

namespace Vec3

def toSpace (v : Vec3) : EuclideanSpace ℝ (Fin 3) := !₂[v.x, v.y, v.z]

theorem inner_toSpace (a b : Vec3) : inner ℝ a.toSpace b.toSpace = a.dot b := by
  unfold toSpace dot
  rw [EuclideanSpace.inner_eq_star_dotProduct]
  simp [dotProduct, Fin.sum_univ_three]
  ring

theorem toSpace_add (a b : Vec3) : (a.add b).toSpace = a.toSpace + b.toSpace := by
  ext axis
  fin_cases axis <;> rfl

theorem toSpace_sub (a b : Vec3) : (a.sub b).toSpace = a.toSpace - b.toSpace := by
  ext axis
  fin_cases axis <;> rfl

theorem toSpace_scale (a : Vec3) (s : ℝ) : (a.scale s).toSpace = s • a.toSpace := by
  ext axis
  fin_cases axis <;> exact mul_comm _ _

theorem toSpace_lerp (a b : Vec3) (t : ℝ) :
    (a.lerp b t).toSpace = a.toSpace + t • (b.toSpace - a.toSpace) := by
  ext axis
  fin_cases axis <;> rfl

theorem length_eq (v : Vec3) : v.length = ‖v.toSpace‖ := by
  unfold length
  rw [← inner_toSpace, real_inner_self_eq_norm_sq, Real.sqrt_sq (norm_nonneg _)]

end Vec3

/-! ### Normalized vectors -/

namespace Vec3

/-- What normalizing divides a vector by. -/
def divisor (v : Vec3) : ℝ := if v.length < 1e-9 then 1 else v.length

theorem divisor_pos (v : Vec3) : 0 < v.divisor := by
  unfold divisor
  split_ifs with tiny
  · exact one_pos
  · exact lt_of_lt_of_le (by norm_num) (not_lt.mp tiny)

theorem scale_one (v : Vec3) : v.scale 1 = v := by
  unfold scale
  rw [mul_one, mul_one, mul_one]

theorem normalize_eq (v : Vec3) : v.normalize = v.scale (1 / v.divisor) := by
  unfold normalize divisor
  split_ifs with tiny
  · rw [div_one, scale_one]
  · rfl

theorem dot_scale (a b : Vec3) (s : ℝ) : a.dot (b.scale s) = s * a.dot b := by
  unfold dot scale
  ring

theorem dot_comm (a b : Vec3) : a.dot b = b.dot a := by
  unfold dot
  ring

theorem dot_self (v : Vec3) : v.dot v = v.length * v.length := by
  rw [length_eq, ← inner_toSpace, real_inner_self_eq_norm_mul_norm]

/-- A normalized vector is a unit vector, unless the vector was too short to normalize. -/
theorem dot_normalize_self (v : Vec3) :
    v.normalize.dot v.normalize = if v.length < 1e-9 then v.length * v.length else 1 := by
  unfold normalize
  split_ifs with tiny
  · exact dot_self v
  · have positive : v.length ≠ 0 :=
      (lt_of_lt_of_le (by norm_num : (0 : ℝ) < 1e-9) (not_lt.mp tiny)).ne'
    rw [dot_scale, dot_comm, dot_scale, dot_self]
    field_simp

theorem dot_normalize_self_le (v : Vec3) : v.normalize.dot v.normalize ≤ 1 := by
  rw [dot_normalize_self]
  split_ifs with tiny
  · have nonneg : 0 ≤ v.length := Real.sqrt_nonneg _
    norm_num at tiny
    nlinarith
  · exact le_rfl

/-- The product of a normalized vector with another vector has the sign of the product of
the vectors. -/
theorem dot_normalize_nonneg_iff (v w : Vec3) : 0 ≤ v.normalize.dot w ↔ 0 ≤ v.dot w := by
  rw [normalize_eq, dot_comm, dot_scale, dot_comm w v]
  exact mul_nonneg_iff_of_pos_left (one_div_pos.mpr v.divisor_pos)

end Vec3

/-! ### The solve -/

namespace Rays

variable (rays : Rays)

def leftLine : Line (EuclideanSpace ℝ (Fin 3)) := ⟨rays.o_L.toSpace, rays.d_L.toSpace⟩
def rightLine : Line (EuclideanSpace ℝ (Fin 3)) := ⟨rays.o_R.toSpace, rays.d_R.toSpace⟩

/-- The solve finds the common perpendicular of the lines through the eyes. -/
theorem perpendicular (skew : 1e-6 ≤ rays.denom) :
    Perpendicular rays.leftLine rays.rightLine rays.t_L rays.t_R := by
  have base : rays.leftLine.base - rays.rightLine.base = rays.r.toSpace :=
    (Vec3.toSpace_sub _ _).symm
  have products : inner ℝ rays.leftLine.direction rays.leftLine.direction = rays.a ∧
      inner ℝ rays.leftLine.direction rays.rightLine.direction = rays.b ∧
      inner ℝ rays.rightLine.direction rays.rightLine.direction = rays.c ∧
      inner ℝ rays.leftLine.direction rays.r.toSpace = rays.d ∧
      inner ℝ rays.rightLine.direction rays.r.toSpace = rays.e :=
    ⟨Vec3.inner_toSpace _ _, Vec3.inner_toSpace _ _, Vec3.inner_toSpace _ _,
      Vec3.inner_toSpace _ _, Vec3.inner_toSpace _ _⟩
  obtain ⟨first, across, second, toLeft, toRight⟩ := products
  have positive : rays.denom ≠ 0 := (lt_of_lt_of_le (by norm_num) skew).ne'
  refine (perpendicular_iff _ _ _ _ ?_).mpr ?_
  · rw [first, across, second]
    exact positive
  · rw [base, first, across, second, toLeft, toRight]
    exact ⟨rfl, rfl⟩

/-- The solve finds the points at which the lines come closest. -/
theorem solve_closest (skew : 1e-6 ≤ rays.denom) (s t : ℝ) :
    (rays.p_L.sub rays.p_R).length ≤
      ((rays.o_L.add (rays.d_L.scale s)).sub (rays.o_R.add (rays.d_R.scale t))).length := by
  simp only [Vec3.length_eq, Vec3.toSpace_sub, Vec3.toSpace_add, Vec3.toSpace_scale, p_L, p_R]
  exact (rays.perpendicular skew).closest s t

/-- How far the focus point is moved away from the middle of the eyes. -/
def stretch : ℝ := if rays.dist < 0.10 then 0.10 / rays.dist else 1

/-- The point both eyes are drawn towards. -/
def aim : Vec3 := rays.eyeMid.add (rays.toFocus.scale rays.stretch)

theorem clampedFocus_eq :
    rays.clampedFocus =
      if rays.dist < 1e-6 ∨ 20.0 < rays.dist then none else some rays.aim := by
  unfold clampedFocus aim stretch
  by_cases near : rays.dist < 0.10
  · have notFar : ¬20.0 < rays.dist := by
      norm_num at near ⊢
      linarith
    have moved : (rays.toFocus.scale (1 / rays.dist)).scale 0.10 =
        rays.toFocus.scale (0.10 / rays.dist) := by
      unfold Vec3.scale
      simp only [Vec3.mk.injEq]
      exact ⟨by ring, by ring, by ring⟩
    rw [if_pos near, if_pos near, moved]
    simp only [notFar, or_false]
  · have notNear : ¬rays.dist < 1e-6 := by
      norm_num at near ⊢
      linarith
    have still : rays.eyeMid.add (rays.toFocus.scale 1) = rays.focus := by
      rw [Vec3.scale_one]
      unfold toFocus Vec3.add Vec3.sub
      simp only [add_sub_cancel]
    rw [if_neg near, if_neg near, still]
    simp only [notNear, false_or]

/-- How deep the point lies along the left gaze. -/
def depth_L : ℝ := rays.stretch * rays.t_L + (rays.stretch - 1) * (0.5 * rays.d)

/-- How deep the point lies along the right gaze. -/
def depth_R : ℝ := rays.stretch * rays.t_R + (1 - rays.stretch) * (0.5 * rays.e)

theorem toSpace_focus :
    rays.focus.toSpace = middle rays.leftLine rays.rightLine rays.t_L rays.t_R := by
  unfold focus p_L p_R
  simp only [Vec3.toSpace_add, Vec3.toSpace_scale]
  rfl

theorem toSpace_aim :
    rays.aim.toSpace = rays.eyeMid.toSpace +
      rays.stretch • (rays.focus.toSpace - rays.eyeMid.toSpace) := by
  unfold aim toFocus
  rw [Vec3.toSpace_add, Vec3.toSpace_scale, Vec3.toSpace_sub]

theorem dot_aim_left (skew : 1e-6 ≤ rays.denom) (unit : rays.a = 1) :
    rays.d_L.dot (rays.aim.sub rays.o_L) = rays.depth_L := by
  have deep := (rays.perpendicular skew).depth_first
  have aside : rays.d_L.dot (rays.eyeMid.sub rays.o_L) = -(0.5 * rays.d) := by
    unfold d r eyeMid Vec3.dot Vec3.sub Vec3.scale Vec3.add
    ring
  have lengthOne : inner ℝ rays.leftLine.direction rays.leftLine.direction = (1 : ℝ) :=
    (Vec3.inner_toSpace _ _).trans unit
  rw [← toSpace_focus, lengthOne, mul_one] at deep
  rw [← Vec3.inner_toSpace, Vec3.toSpace_sub] at aside
  rw [← Vec3.inner_toSpace, Vec3.toSpace_sub, toSpace_aim, inner_stretched, aside]
  unfold depth_L
  rw [← deep]
  unfold leftLine
  ring

theorem dot_aim_right (skew : 1e-6 ≤ rays.denom) (unit : rays.c = 1) :
    rays.d_R.dot (rays.aim.sub rays.o_R) = rays.depth_R := by
  have deep := (rays.perpendicular skew).depth_second
  have aside : rays.d_R.dot (rays.eyeMid.sub rays.o_R) = 0.5 * rays.e := by
    unfold e r eyeMid Vec3.dot Vec3.sub Vec3.scale Vec3.add
    ring
  have lengthOne : inner ℝ rays.rightLine.direction rays.rightLine.direction = (1 : ℝ) :=
    (Vec3.inner_toSpace _ _).trans unit
  rw [← toSpace_focus, lengthOne, mul_one] at deep
  rw [← Vec3.inner_toSpace, Vec3.toSpace_sub] at aside
  rw [← Vec3.inner_toSpace, Vec3.toSpace_sub, toSpace_aim, inner_stretched, aside]
  unfold depth_R
  rw [← deep]
  unfold rightLine
  ring

end Rays

/-! ### What the lock writes -/

section Written

variable {count : Nat}

/-- The strength as a factor. -/
def factor (strength : UInt8) : ℝ := strength.toNat / 100.0

/-- The strength after the penalty. -/
def Rays.weight (rays : Rays) (k : ℝ) : ℝ :=
  if 0.5 < rays.rel_disagree then k * rays.scale else k

/-- The rays are nearly parallel, the eyes disagree too much, or the focus point is too near
or too far. -/
def LeavesAlone (rays : Rays) (k : ℝ) : Prop :=
  rays.denom < 1e-6 ∨ rays.weight k < 1e-4 ∨ rays.dist < 1e-6 ∨ 20.0 < rays.dist

theorem factor_ge {strength : UInt8} (positive : strength ≠ 0) : 0.01 ≤ factor strength := by
  have counts : 1 ≤ strength.toNat := by
    refine Nat.one_le_iff_ne_zero.mpr fun zero => positive ?_
    exact UInt8.toNat_inj.mp zero
  have cast : (1 : ℝ) ≤ strength.toNat := by exact_mod_cast counts
  unfold factor
  norm_num
  linarith

theorem Rays.scale_bounds (rays : Rays) : 0 ≤ rays.scale ∧ rays.scale ≤ 1 :=
  ⟨le_max_left _ _, max_le zero_le_one (min_le_left _ _)⟩

theorem Rays.weight_bounds (rays : Rays) {k : ℝ} (nonneg : 0 ≤ k) :
    0 ≤ rays.weight k ∧ rays.weight k ≤ k := by
  obtain ⟨low, high⟩ := rays.scale_bounds
  unfold weight
  split_ifs
  · exact ⟨mul_nonneg nonneg low, mul_le_of_le_one_right nonneg high⟩
  · exact ⟨nonneg, le_rfl⟩

theorem Rays.penalized_eq (rays : Rays) {k : ℝ} (enough : 0.01 ≤ k) :
    rays.penalized k = if rays.weight k < 1e-4 then none else some (rays.weight k) := by
  have notLess : ¬k < 1e-4 := by
    norm_num at enough ⊢
    linarith
  unfold penalized weight
  by_cases disagree : 0.5 < rays.rel_disagree
  · simp only [if_pos disagree]
  · simp only [if_neg disagree, if_neg notLess]

theorem applyBoth_alone (lock : Lock) (frame : FrameBody ℝ count) {rays : Rays} {k : ℝ}
    (enough : 0.01 ≤ k) (alone : LeavesAlone rays k) :
    (applyBoth lock frame rays k).2 = frame := by
  unfold applyBoth
  by_cases parallel : rays.denom < 1e-6
  · rw [if_pos parallel]
  · rw [if_neg parallel, rays.penalized_eq enough]
    by_cases weak : rays.weight k < 1e-4
    · rw [if_pos weak]
    · have bounded : rays.dist < 1e-6 ∨ 20.0 < rays.dist :=
        (alone.resolve_left parallel).resolve_left weak
      rw [if_neg weak]
      simp only [rays.clampedFocus_eq, if_pos bounded]

theorem applyBoth_written (lock : Lock) (frame : FrameBody ℝ count) {rays : Rays} {k : ℝ}
    (enough : 0.01 ≤ k) (written : ¬LeavesAlone rays k) :
    (applyBoth lock frame rays k).2 =
      withGaze (withGaze frame .left (drawn rays.o_L rays.d_L rays.aim (rays.weight k))) .right
        (drawn rays.o_R rays.d_R rays.aim (rays.weight k)) := by
  unfold LeavesAlone at written
  push Not at written
  obtain ⟨skew, strong, far, near⟩ := written
  have within : ¬(rays.dist < 1e-6 ∨ 20.0 < rays.dist) :=
    not_or.mpr ⟨not_lt.mpr far, not_lt.mpr near⟩
  unfold applyBoth
  rw [if_neg (not_lt.mpr skew), rays.penalized_eq enough, if_neg (not_lt.mpr strong)]
  simp only [rays.clampedFocus_eq, if_neg within]

theorem weight_zero_alone (rays : Rays) : LeavesAlone rays (factor 0) := by
  refine Or.inr (Or.inl ?_)
  have zero : factor 0 = 0 := by
    unfold factor
    simp
  unfold Rays.weight
  rw [zero, zero_mul, ite_self]
  norm_num

variable {frame : FrameBody ℝ count}

/-- A frame with valid, trusted eyes. -/
structure Trusted (frame : FrameBody ℝ count) : Prop where
  valid : frame.eyeValid = true
  confident : ∀ side, 0.3 ≤ frame.eyeConfidence side

theorem apply_trusted (lock : Lock) (trusted : Trusted frame) {strength : UInt8}
    (positive : strength ≠ 0) :
    ∃ lock' : Lock, apply lock frame strength =
      applyBoth lock' frame (raysOf frame) (factor strength) := by
  have left := not_lt.mpr (trusted.confident .left)
  have right := not_lt.mpr (trusted.confident .right)
  unfold apply
  rw [trusted.valid, if_neg (by decide), if_neg positive]
  simp only [left, right, false_and, if_false]
  exact ⟨_, rfl⟩

theorem apply_alone (lock : Lock) (trusted : Trusted frame) {strength : UInt8}
    (alone : LeavesAlone (raysOf frame) (factor strength)) :
    (apply lock frame strength).2 = frame := by
  by_cases zero : strength = 0
  · unfold apply
    rw [trusted.valid, if_neg (by decide), if_pos zero]
  · obtain ⟨lock', same⟩ := apply_trusted lock trusted zero
    rw [same]
    exact applyBoth_alone lock' frame (factor_ge zero) alone

theorem apply_written (lock : Lock) (trusted : Trusted frame) {strength : UInt8}
    (written : ¬LeavesAlone (raysOf frame) (factor strength)) :
    (apply lock frame strength).2 =
      withGaze (withGaze frame .left (drawn (raysOf frame).o_L (raysOf frame).d_L
          (raysOf frame).aim ((raysOf frame).weight (factor strength)))) .right
        (drawn (raysOf frame).o_R (raysOf frame).d_R (raysOf frame).aim
          ((raysOf frame).weight (factor strength))) := by
  have positive : strength ≠ 0 := by
    intro zero
    rw [zero] at written
    exact written (weight_zero_alone _)
  obtain ⟨lock', same⟩ := apply_trusted lock trusted positive
  rw [same]
  exact applyBoth_written lock' frame (factor_ge positive) written

end Written

/-! ### How far a gaze turns -/

/-- A vector that is not nearly parallel to another one can be normalized. -/
theorem unit_of_skew (v w : Vec3)
    (skew : 1e-6 ≤ v.normalize.dot v.normalize * w.normalize.dot w.normalize -
      v.normalize.dot w.normalize * v.normalize.dot w.normalize) :
    v.normalize.dot v.normalize = 1 := by
  have bounded := w.dot_normalize_self_le
  have square := mul_self_nonneg (v.normalize.dot w.normalize)
  have own := v.dot_normalize_self
  split_ifs at own with tiny
  · have nonneg : 0 ≤ v.length := Real.sqrt_nonneg _
    have small : v.normalize.dot v.normalize ≤ 1e-9 := by
      rw [own]
      norm_num at tiny ⊢
      nlinarith
    have start : 0 ≤ v.normalize.dot v.normalize := by
      rw [own]
      exact mul_self_nonneg _
    norm_num at skew small
    nlinarith
  · exact own

theorem raysOf_units {count : Nat} (frame : FrameBody ℝ count)
    (skew : 1e-6 ≤ (raysOf frame).denom) : (raysOf frame).a = 1 ∧ (raysOf frame).c = 1 := by
  refine ⟨unit_of_skew _ _ skew, unit_of_skew _ (Vec3.ofAxes (frame.eyeGaze .left)) ?_⟩
  rw [mul_comm, Vec3.dot_comm (Vec3.normalize (Vec3.ofAxes (frame.eyeGaze .right)))
    (Vec3.normalize (Vec3.ofAxes (frame.eyeGaze .left)))]
  exact skew

/-- A gaze drawn towards a point keeps its side exactly if the distance of the point and its
depth along the gaze, weighed against each other, do not come out negative. -/
theorem drawn_nonneg_iff (origin gaze point : Vec3) (k : ℝ)
    (unit : gaze.normalize.dot gaze.normalize = 1) :
    0 ≤ (drawn origin gaze.normalize point k).dot gaze ↔
      0 ≤ (1 - k) * (point.sub origin).divisor +
        k * gaze.normalize.dot (point.sub origin) := by
  have positive := (point.sub origin).divisor_pos
  have turned := inner_towards gaze.normalize.toSpace (point.sub origin).toSpace
    (point.sub origin).divisor k ((Vec3.inner_toSpace _ _).trans unit) positive
  rw [← Vec3.toSpace_scale, ← Vec3.normalize_eq, ← Vec3.toSpace_lerp, Vec3.inner_toSpace,
    Vec3.inner_toSpace] at turned
  unfold drawn
  rw [Vec3.dot_normalize_nonneg_iff, Vec3.dot_comm, ← Vec3.dot_normalize_nonneg_iff, ← turned]
  exact (mul_nonneg_iff_of_pos_left positive).symm

/-- The distance of the point from the left eye, or one if it lies on the eye. -/
def Rays.reach_L (rays : Rays) : ℝ := (rays.aim.sub rays.o_L).divisor

def Rays.reach_R (rays : Rays) : ℝ := (rays.aim.sub rays.o_R).divisor

/-- The lock leaves the frame alone, or the distance of the point and its depth along each
gaze, weighed against each other, do not come out negative. -/
def KeepsForward (rays : Rays) (k : ℝ) : Prop :=
  LeavesAlone rays k ∨
    0 ≤ (1 - rays.weight k) * rays.reach_L + rays.weight k * rays.depth_L ∧
      0 ≤ (1 - rays.weight k) * rays.reach_R + rays.weight k * rays.depth_R

theorem gazeProduct_nonneg_iff {count : Nat} (lock : Lock) {frame : FrameBody ℝ count}
    (strength : UInt8) (trusted : Trusted frame) :
    (∀ side, 0 ≤ gazeProduct lock frame strength side) ↔
      KeepsForward (raysOf frame) (factor strength) := by
  unfold gazeProduct KeepsForward
  by_cases alone : LeavesAlone (raysOf frame) (factor strength)
  · rw [apply_alone lock trusted alone]
    refine iff_of_true (fun side => ?_) (Or.inl alone)
    rw [Vec3.dot_self]
    exact mul_self_nonneg _
  · have skew : 1e-6 ≤ (raysOf frame).denom := not_lt.mp fun parallel => alone (Or.inl parallel)
    obtain ⟨leftUnit, rightUnit⟩ := raysOf_units frame skew
    have left := drawn_nonneg_iff (raysOf frame).o_L (Vec3.ofAxes (frame.eyeGaze .left))
      (raysOf frame).aim ((raysOf frame).weight (factor strength)) leftUnit
    have right := drawn_nonneg_iff (raysOf frame).o_R (Vec3.ofAxes (frame.eyeGaze .right))
      (raysOf frame).aim ((raysOf frame).weight (factor strength)) rightUnit
    have leftDepth := (raysOf frame).dot_aim_left skew leftUnit
    have rightDepth := (raysOf frame).dot_aim_right skew rightUnit
    rw [apply_written lock trusted alone, or_iff_right alone, ← leftDepth, ← rightDepth]
    constructor
    · intro kept
      exact ⟨left.mp (kept .left), right.mp (kept .right)⟩
    · rintro ⟨leftKept, rightKept⟩ side
      cases side with
      | left => exact left.mpr leftKept
      | right => exact right.mpr rightKept

/-! ### Weak locks -/

theorem Vec3.length_le_divisor (v : Vec3) : v.length ≤ v.divisor := by
  unfold Vec3.divisor
  split_ifs with tiny
  · norm_num at tiny
    linarith
  · exact le_rfl

/-- A point lies at most its distance behind an eye. -/
theorem neg_divisor_le_dot (direction v : Vec3) (unit : direction.dot direction = 1) :
    -v.divisor ≤ direction.dot v := by
  have lengthOne : ‖direction.toSpace‖ = 1 := by
    rw [← Vec3.length_eq]
    unfold Vec3.length
    rw [unit, Real.sqrt_one]
  have bounded := abs_real_inner_le_norm direction.toSpace v.toSpace
  rw [Vec3.inner_toSpace, lengthOne, one_mul, ← Vec3.length_eq] at bounded
  exact (abs_le.mp (bounded.trans v.length_le_divisor)).1

/-- With half the strength no gaze is turned around. -/
theorem keepsForward_of_half {count : Nat} (frame : FrameBody ℝ count) {k : ℝ}
    (nonneg : 0 ≤ k) (half : (raysOf frame).weight k ≤ 0.5) :
    KeepsForward (raysOf frame) k := by
  by_cases alone : LeavesAlone (raysOf frame) k
  · exact Or.inl alone
  · have skew : 1e-6 ≤ (raysOf frame).denom := not_lt.mp fun parallel => alone (Or.inl parallel)
    obtain ⟨leftUnit, rightUnit⟩ := raysOf_units frame skew
    have low := ((raysOf frame).weight_bounds nonneg).1
    have left := neg_divisor_le_dot _ ((raysOf frame).aim.sub (raysOf frame).o_L) leftUnit
    have right := neg_divisor_le_dot _ ((raysOf frame).aim.sub (raysOf frame).o_R) rightUnit
    have leftPositive := ((raysOf frame).aim.sub (raysOf frame).o_L).divisor_pos
    have rightPositive := ((raysOf frame).aim.sub (raysOf frame).o_R).divisor_pos
    rw [(raysOf frame).dot_aim_left skew leftUnit] at left
    rw [(raysOf frame).dot_aim_right skew rightUnit] at right
    unfold Rays.depth_L at left
    norm_num at half
    refine Or.inr ⟨?_, ?_⟩
    · unfold Rays.reach_L Rays.depth_L
      nlinarith
    · unfold Rays.reach_R
      nlinarith

/-- An eye that follows the other one halfway at most is not turned around. -/
theorem follows_nonneg (gaze other : Vec3) {k : ℝ} (nonneg : 0 ≤ k) (half : k ≤ 0.5)
    (directed : 1e-9 ≤ gaze.length) :
    0 ≤ (gaze.normalize.lerp other.normalize k).normalize.dot gaze := by
  have unit : gaze.normalize.dot gaze.normalize = 1 := by
    rw [gaze.dot_normalize_self, if_neg (not_lt.mpr directed)]
  have behind := neg_divisor_le_dot gaze.normalize other.normalize unit
  have short : other.normalize.divisor ≤ 1 := by
    have squares := other.dot_normalize_self_le
    rw [Vec3.dot_self] at squares
    unfold Vec3.divisor
    split_ifs
    · exact le_rfl
    · exact abs_le_one_iff_mul_self_le_one.mpr squares |> (le_abs_self _).trans
  have between : gaze.normalize.dot (gaze.normalize.lerp other.normalize k) =
      (1 - k) * gaze.normalize.dot gaze.normalize + k * gaze.normalize.dot other.normalize := by
    simp only [Vec3.dot, Vec3.lerp]
    ring
  rw [Vec3.dot_normalize_nonneg_iff, Vec3.dot_comm, ← Vec3.dot_normalize_nonneg_iff, between,
    unit]
  norm_num at half
  nlinarith

/-- At full strength nothing but the depths counts. -/
theorem keepsForward_full_iff {rays : Rays} {k : ℝ} (full : rays.weight k = 1) :
    KeepsForward rays k ↔ LeavesAlone rays k ∨ 0 ≤ rays.depth_L ∧ 0 ≤ rays.depth_R := by
  unfold KeepsForward
  simp only [full, sub_self, zero_mul, zero_add, one_mul]

/-- Without a move of the focus point the depths are the ray parameters. -/
theorem depths_of_distant {rays : Rays} (distant : 0.10 ≤ rays.dist) :
    rays.depth_L = rays.t_L ∧ rays.depth_R = rays.t_R := by
  have still : rays.stretch = 1 := if_neg (not_lt.mpr distant)
  unfold Rays.depth_L Rays.depth_R
  rw [still]
  exact ⟨by ring, by ring⟩

/-- The vergence lock turns no gaze around exactly if it leaves the frame alone or, for both
eyes, the distance of the point it aims at and its depth along the gaze, weighed against each
other by the strength, do not come out negative. -/
theorem vergence_lock_keeps_forward_iff {count : Nat} (lock : Lock) (frame : FrameBody ℝ count)
    (strength : UInt8) (valid : frame.eyeValid = true)
    (confident : ∀ side, 0.3 ≤ frame.eyeConfidence side) :
    (∀ side, 0 ≤ gazeProduct lock frame strength side) ↔
      KeepsForward (raysOf frame) (factor strength) :=
  gazeProduct_nonneg_iff lock strength ⟨valid, confident⟩

/-! ### Eyes that converge or diverge -/

/-- Eyes fourteen centimetres apart that look a quarter turn of the triangle 7, 24, 25
inwards, or outwards. -/
def symmetricEyes (inward : ℝ) : FrameBody ℝ 63 where
  sourceModuleUuidHash := 0
  eyeOrigin := fun side =>
    match side with
    | .left => ![-0.07, 0, 0]
    | .right => ![0.07, 0, 0]
  eyeGaze := fun side =>
    match side with
    | .left => ![0.28 * inward, 0, -0.96]
    | .right => ![-(0.28 * inward), 0, -0.96]
  eyeOpenness := fun _ => 1
  pupilDilation := fun _ => 0
  eyeConfidence := fun _ => 1
  expressions := fun _ => 0
  eyeValid := true
  expressionsValid := false

theorem symmetricEyes_trusted (inward : ℝ) : Trusted (symmetricEyes inward) where
  valid := rfl
  confident := by
    intro side
    show (0.3 : ℝ) ≤ 1
    norm_num

theorem factor_full : factor 100 = 1 := by
  have counts : (100 : UInt8).toNat = 100 := rfl
  unfold factor
  rw [counts]
  norm_num

theorem normalize_unit {v : Vec3} (unit : v.dot v = 1) : v.normalize = v := by
  have lengthOne : v.length = 1 := by
    unfold Vec3.length
    rw [unit, Real.sqrt_one]
  have notTiny : ¬v.length < 1e-9 := by
    rw [lengthOne]
    norm_num
  unfold Vec3.normalize
  rw [if_neg notTiny, lengthOne, div_one, Vec3.scale_one]

section Symmetric

variable {inward : ℝ} (turn : inward = 1 ∨ inward = -1)
include turn

theorem raysOf_symmetric :
    raysOf (symmetricEyes inward) =
      ⟨⟨-0.07, 0, 0⟩, ⟨0.07, 0, 0⟩, ⟨0.28 * inward, 0, -0.96⟩,
        ⟨-(0.28 * inward), 0, -0.96⟩⟩ := by
  have square : inward * inward = 1 := by
    rcases turn with rfl | rfl <;> norm_num
  have left : (⟨0.28 * inward, 0, -0.96⟩ : Vec3).normalize = ⟨0.28 * inward, 0, -0.96⟩ := by
    refine normalize_unit ?_
    unfold Vec3.dot
    norm_num
    linear_combination 0.0784 * square
  have right : (⟨-(0.28 * inward), 0, -0.96⟩ : Vec3).normalize =
      ⟨-(0.28 * inward), 0, -0.96⟩ := by
    refine normalize_unit ?_
    unfold Vec3.dot
    norm_num
    linear_combination 0.0784 * square
  have same : raysOf (symmetricEyes inward) =
      ⟨⟨-0.07, 0, 0⟩, ⟨0.07, 0, 0⟩, (⟨0.28 * inward, 0, -0.96⟩ : Vec3).normalize,
        (⟨-(0.28 * inward), 0, -0.96⟩ : Vec3).normalize⟩ := rfl
  rw [same, left, right]

/-- Rays that diverge have negative parameters. -/
theorem symmetric_parameters :
    (raysOf (symmetricEyes inward)).t_L = 0.25 * inward ∧
      (raysOf (symmetricEyes inward)).t_R = 0.25 * inward := by
  rw [raysOf_symmetric turn]
  rcases turn with rfl | rfl <;>
    norm_num [Rays.t_L, Rays.t_R, Rays.denom, Rays.a, Rays.b, Rays.c, Rays.d, Rays.e, Rays.r,
      Vec3.dot, Vec3.sub]

theorem symmetric_dist : (raysOf (symmetricEyes inward)).dist = 0.24 := by
  obtain ⟨left, right⟩ := symmetric_parameters turn
  have away : (raysOf (symmetricEyes inward)).toFocus = ⟨0, 0, -(0.24 * inward)⟩ := by
    unfold Rays.toFocus Rays.focus Rays.eyeMid Rays.p_L Rays.p_R
    rw [left, right, raysOf_symmetric turn]
    rcases turn with rfl | rfl <;> norm_num [Vec3.sub, Vec3.scale, Vec3.add]
  have square : (⟨0, 0, -(0.24 * inward)⟩ : Vec3).dot ⟨0, 0, -(0.24 * inward)⟩ =
      0.24 * 0.24 := by
    rcases turn with rfl | rfl <;> norm_num [Vec3.dot]
  unfold Rays.dist
  rw [away]
  unfold Vec3.length
  rw [square, Real.sqrt_mul_self (by norm_num)]

theorem symmetric_weight (k : ℝ) : (raysOf (symmetricEyes inward)).weight k = k := by
  obtain ⟨left, right⟩ := symmetric_parameters turn
  have agree : ¬0.5 < (raysOf (symmetricEyes inward)).rel_disagree := by
    unfold Rays.rel_disagree
    rw [left, right, sub_self, abs_zero, zero_div]
    norm_num
  exact if_neg agree

theorem symmetric_locked : ¬LeavesAlone (raysOf (symmetricEyes inward)) (factor 100) := by
  have skew : (raysOf (symmetricEyes inward)).denom = 0.28901376 := by
    rw [raysOf_symmetric turn]
    rcases turn with rfl | rfl <;>
      norm_num [Rays.denom, Rays.a, Rays.b, Rays.c, Vec3.dot]
  unfold LeavesAlone
  rw [symmetric_weight turn, factor_full, symmetric_dist turn, skew]
  norm_num

/-- With the full strength the gazes of such eyes stay forward exactly if the eyes
converge. -/
theorem symmetric_forward_iff :
    KeepsForward (raysOf (symmetricEyes inward)) (factor 100) ↔ 0 ≤ inward := by
  obtain ⟨left, right⟩ := symmetric_parameters turn
  have full : (raysOf (symmetricEyes inward)).weight (factor 100) = 1 :=
    (symmetric_weight turn _).trans factor_full
  have distant : 0.10 ≤ (raysOf (symmetricEyes inward)).dist := by
    rw [symmetric_dist turn]
    norm_num
  obtain ⟨leftDepth, rightDepth⟩ := depths_of_distant distant
  rw [keepsForward_full_iff full, or_iff_right (symmetric_locked turn), leftDepth, rightDepth,
    left, right, and_self]
  exact mul_nonneg_iff_of_pos_left (by norm_num)

end Symmetric

theorem solve_closest_converging :
    ((raysOf (symmetricEyes 1)).p_L.sub (raysOf (symmetricEyes 1)).p_R).length ≤
      (((raysOf (symmetricEyes 1)).o_L.add ((raysOf (symmetricEyes 1)).d_L.scale 1)).sub
        ((raysOf (symmetricEyes 1)).o_R.add ((raysOf (symmetricEyes 1)).d_R.scale 1))).length := by
  refine Rays.solve_closest _ ?_ 1 1
  rw [raysOf_symmetric (Or.inl rfl)]
  norm_num [Rays.denom, Rays.a, Rays.b, Rays.c, Vec3.dot]

theorem vergence_lock_keeps_forward_converging :
    0 ≤ gazeProduct ⟨0, 0⟩ (symmetricEyes 1) 100 .left ∧
      0 ≤ gazeProduct ⟨0, 0⟩ (symmetricEyes 1) 100 .right := by
  have forward := (vergence_lock_keeps_forward_iff ⟨0, 0⟩ (symmetricEyes 1) 100
    (symmetricEyes_trusted 1).valid (symmetricEyes_trusted 1).confident).mpr
    ((symmetric_forward_iff (Or.inl rfl)).mpr zero_le_one)
  exact ⟨forward .left, forward .right⟩

/-- Valid, trusted eyes with unit gazes that diverge: the full lock turns a gaze around. -/
theorem diverging_gaze_is_turned :
    (symmetricEyes (-1)).eyeValid = true ∧
      (∀ side, 0.3 ≤ (symmetricEyes (-1)).eyeConfidence side) ∧
      (∀ side, (Vec3.ofAxes ((symmetricEyes (-1)).eyeGaze side)).length = 1) ∧
      ¬∀ side, 0 ≤ gazeProduct ⟨0, 0⟩ (symmetricEyes (-1)) 100 side := by
  refine ⟨rfl, (symmetricEyes_trusted (-1)).confident, ?_, ?_⟩
  · intro side
    have unit : (Vec3.ofAxes ((symmetricEyes (-1)).eyeGaze side)).dot
        (Vec3.ofAxes ((symmetricEyes (-1)).eyeGaze side)) = 1 := by
      cases side with
      | left =>
        show (0.28 * -1) * (0.28 * -1) + 0 * 0 + -0.96 * -0.96 = (1 : ℝ)
        norm_num
      | right =>
        show -(0.28 * -1) * -(0.28 * -1) + 0 * 0 + -0.96 * -0.96 = (1 : ℝ)
        norm_num
    unfold Vec3.length
    rw [unit, Real.sqrt_one]
  · intro kept
    have forward := (gazeProduct_nonneg_iff ⟨0, 0⟩ 100 (symmetricEyes_trusted (-1))).mp kept
    have wrong := (symmetric_forward_iff (Or.inr rfl)).mp forward
    norm_num at wrong

theorem symmetricEyes_directed (side : Side) :
    1e-9 ≤ (Vec3.ofAxes ((symmetricEyes (-1)).eyeGaze side)).length := by
  have unit : (Vec3.ofAxes ((symmetricEyes (-1)).eyeGaze side)).dot
      (Vec3.ofAxes ((symmetricEyes (-1)).eyeGaze side)) = 1 := by
    cases side <;> simp only [Vec3.dot, Vec3.ofAxes, symmetricEyes, Matrix.cons_val] <;> norm_num
  unfold Vec3.length
  rw [unit, Real.sqrt_one]
  norm_num

end

end PairDriver.VergenceLock
