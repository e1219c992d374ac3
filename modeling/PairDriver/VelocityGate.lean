/-
This file puts the velocity gate of the face calibration over the real numbers and asks
whether it can lock a shape out.

The moving mean and variance of a shape are those of a gate that learns. A rejected value
changes nothing of the shape, so a value is learned in the end exactly if it is accepted at
once. A shape that rests at one level long enough closes its gate around that level.
-/

import PairDriver.CalibrationPersistence
import PairDriver.MovingGate

namespace PairDriver.FaceCalibration

open MovingGate
open Arithmetic (ofRat sqrt)

noncomputable scoped instance : Arithmetic ℝ where
  ofRat value := value
  sqrt := Real.sqrt
  abs value := |value|
  decidableLT := inferInstance
  decidableLE := inferInstance

/-! ### Runs of one shape -/

section Runs

variable (qpcFreq : Int64)

/-- A shape after the values that were delivered for it, with their counter values. -/
noncomputable def afterCalls (calls : List (ℝ × UInt64)) : ShapeCalib ℝ :=
  calls.foldl (fun shape call => updateShape qpcFreq shape call.1 call.2) .fresh

/-- A shape that is fed one value on consecutive frames. -/
noncomputable def fed (shape : ShapeCalib ℝ) (value : ℝ) (times : Nat → UInt64) :
    Nat → ShapeCalib ℝ
  | 0 => shape
  | n + 1 => updateShape qpcFreq (fed shape value times n) value (times n)

/-- The value passes the velocity gate. -/
def Accepts (shape : ShapeCalib ℝ) (value : ℝ) : Prop :=
  ¬kVelocityGateSigmas * sqrt (shape.emaVar + kNormEps) < Arithmetic.abs (value - shape.emaValue)

/-- One of the frames is accepted, and the shape changes. -/
def LearnsEventually (shape : ShapeCalib ℝ) (value : ℝ) (times : Nat → UInt64) : Prop :=
  ∃ n, Accepts (fed qpcFreq shape value times n) value ∧
    fed qpcFreq shape value times (n + 1) ≠ fed qpcFreq shape value times n

end Runs

/-! ### The gate as one that learns -/

/-- The rates of the velocity gate, with the four deviations squared. -/
def gateRates (Number : Type) [Field Number] [LinearOrder Number] [IsStrictOrderedRing Number] :
    Rates Number where
  alpha := 0.02
  beta := 0.05
  width := 16.0
  floor := 1e-6
  alpha_pos := by norm_num
  alpha_lt := by norm_num
  beta_pos := by norm_num
  beta_lt := by norm_num
  width_ge := by norm_num
  floor_nonneg := by norm_num

/-- The moving mean and variance of the values of a run that pass. -/
def gateAfter {Number : Type} [Field Number] [LinearOrder Number] [IsStrictOrderedRing Number]
    (values : List Number) : Moments Number :=
  values.foldl (fun moments value => moments.feed (gateRates Number) value) ⟨0.5, 0.04⟩

def momentsOf (shape : ShapeCalib ℝ) : Moments ℝ := ⟨shape.emaValue, shape.emaVar⟩

theorem rates_eq :
    (kAlphaUp : ℝ) = 0.02 ∧ (kAlphaEmaVar : ℝ) = 0.05 ∧ (ofRat 1 : ℝ) = 1 ∧
      (kVelocityGateSigmas : ℝ) = 4.0 ∧ (kNormEps : ℝ) = 1e-6 := by
  refine ⟨?_, ?_, ?_, ?_, ?_⟩
  · show ((2 / 100 : Rat) : ℝ) = 0.02
    norm_num
  · show ((5 / 100 : Rat) : ℝ) = 0.05
    norm_num
  · show ((1 : Rat) : ℝ) = 1
    norm_num
  · show ((4 : Rat) : ℝ) = 4.0
    norm_num
  · show ((1 / 1000000 : Rat) : ℝ) = 1e-6
    norm_num

/-- The comparison with the root is one of squares. -/
theorem accepts_iff {shape : ShapeCalib ℝ} (nonneg : 0 ≤ shape.emaVar) (value : ℝ) :
    Accepts shape value ↔ (momentsOf shape).Passes (gateRates ℝ) value := by
  obtain ⟨-, -, -, sigmas, eps⟩ := rates_eq
  have width : (4.0 : ℝ) = Real.sqrt 16.0 := by
    rw [show (16.0 : ℝ) = 4.0 * 4.0 by norm_num]
    exact (Real.sqrt_mul_self (by norm_num)).symm
  have gate : (kVelocityGateSigmas : ℝ) * sqrt (shape.emaVar + kNormEps) =
      Real.sqrt (16.0 * (shape.emaVar + 1e-6)) := by
    rw [sigmas, eps, width]
    exact (Real.sqrt_mul (by norm_num) _).symm
  have deviation : (Arithmetic.abs (value - shape.emaValue) : ℝ) =
      Real.sqrt ((value - shape.emaValue) * (value - shape.emaValue)) :=
    (Real.sqrt_mul_self_eq_abs _).symm
  have inside : 0 ≤ 16.0 * (shape.emaVar + 1e-6) :=
    mul_nonneg (by norm_num) (add_nonneg nonneg (by norm_num))
  unfold Accepts
  rw [gate, deviation, Real.sqrt_lt_sqrt_iff inside, not_lt]
  rfl

theorem updateShape_accepts {qpcFreq : Int64} {shape : ShapeCalib ℝ} {value : ℝ} (now : UInt64)
    (accepts : Accepts shape value) :
    momentsOf (updateShape qpcFreq shape value now) =
      (momentsOf shape).absorb (gateRates ℝ) value := by
  obtain ⟨up, var, one, -, -⟩ := rates_eq
  have envelope : ∀ held : ShapeCalib ℝ,
      momentsOf (held.envelope qpcFreq value now) = momentsOf held := by
    intro held
    dsimp only [ShapeCalib.envelope]
    split_ifs <;> rfl
  have same := envelope { shape with
    emaValue := shape.emaValue + 0.02 * (value - shape.emaValue)
    emaVar := (1 - 0.05) * shape.emaVar +
      0.05 * ((value - (shape.emaValue + 0.02 * (value - shape.emaValue))) *
        (value - (shape.emaValue + 0.02 * (value - shape.emaValue)))) }
  unfold updateShape
  rw [if_neg accepts, up, var, one]
  exact same

/-- The moments of a shape follow the gate. -/
theorem momentsOf_updateShape (qpcFreq : Int64) {shape : ShapeCalib ℝ}
    (nonneg : 0 ≤ shape.emaVar) (value : ℝ) (now : UInt64) :
    momentsOf (updateShape qpcFreq shape value now) =
      (momentsOf shape).feed (gateRates ℝ) value := by
  by_cases accepts : Accepts shape value
  · rw [updateShape_accepts now accepts, feed_of_passes ((accepts_iff nonneg value).mp accepts)]
  · rw [updateShape_rejects qpcFreq now (not_not.mp accepts),
      feed_of_rejected fun passes => accepts ((accepts_iff nonneg value).mpr passes)]

theorem afterCalls_concat (qpcFreq : Int64) (calls : List (ℝ × UInt64)) (call : ℝ × UInt64) :
    afterCalls qpcFreq (calls ++ [call]) =
      updateShape qpcFreq (afterCalls qpcFreq calls) call.1 call.2 := by
  unfold afterCalls
  rw [List.foldl_concat]

/-- In every run the variance is not negative, and the moments are those of the values. -/
theorem momentsOf_afterCalls (qpcFreq : Int64) (calls : List (ℝ × UInt64)) :
    0 ≤ (afterCalls qpcFreq calls).emaVar ∧
      momentsOf (afterCalls qpcFreq calls) = gateAfter (calls.map Prod.fst) := by
  induction calls using List.reverseRecOn with
  | nil =>
    have half : ((1 / 2 : Rat) : ℝ) = 0.5 := by norm_num
    have seed : ((4 / 100 : Rat) : ℝ) = 0.04 := by norm_num
    refine ⟨?_, ?_⟩
    · show 0 ≤ ((4 / 100 : Rat) : ℝ)
      rw [seed]
      norm_num
    · show (⟨((1 / 2 : Rat) : ℝ), ((4 / 100 : Rat) : ℝ)⟩ : Moments ℝ) = ⟨0.5, 0.04⟩
      rw [half, seed]
  | append_singleton calls call inductionHypothesis =>
    obtain ⟨nonneg, same⟩ := inductionHypothesis
    have fed := momentsOf_updateShape qpcFreq nonneg call.1 call.2
    have before : 0 ≤ (momentsOf (afterCalls qpcFreq calls)).var := nonneg
    have var : 0 ≤ ((momentsOf (afterCalls qpcFreq calls)).feed (gateRates ℝ) call.1).var :=
      feed_var_nonneg before call.1
    rw [← fed] at var
    refine ⟨?_, ?_⟩
    · rw [afterCalls_concat]
      exact var
    · rw [afterCalls_concat, fed, same, List.map_append, List.map_singleton]
      unfold gateAfter
      rw [List.foldl_concat]

/-! ### Values that are locked out -/

theorem momentsOf_fed (qpcFreq : Int64) {shape : ShapeCalib ℝ} (nonneg : 0 ≤ shape.emaVar)
    (value : ℝ) (times : Nat → UInt64) (n : Nat) :
    0 ≤ (fed qpcFreq shape value times n).emaVar ∧
      momentsOf (fed qpcFreq shape value times n) =
        (Moments.feed (gateRates ℝ) value)^[n] (momentsOf shape) := by
  induction n with
  | zero => exact ⟨nonneg, rfl⟩
  | succ n inductionHypothesis =>
    obtain ⟨before, same⟩ := inductionHypothesis
    have next := momentsOf_updateShape qpcFreq before value (times n)
    have varBefore : 0 ≤ (momentsOf (fed qpcFreq shape value times n)).var := before
    have var : 0 ≤ ((momentsOf (fed qpcFreq shape value times n)).feed (gateRates ℝ) value).var :=
      feed_var_nonneg varBefore value
    rw [← next] at var
    refine ⟨var, ?_⟩
    rw [Function.iterate_succ_apply', ← same]
    exact next

/-- An accepted value changes the shape, since it is counted. -/
theorem updateShape_ne {qpcFreq : Int64} {shape : ShapeCalib ℝ} {value : ℝ} (now : UInt64)
    (accepts : Accepts shape value) : updateShape qpcFreq shape value now ≠ shape := by
  intro same
  obtain ⟨counted, -⟩ := updateShape_counts qpcFreq now accepts
  rw [same] at counted
  have zero : (1 : UInt32) = 0 := (left_eq_add.mp counted)
  exact absurd zero (by decide)

theorem learns_iff_passes (qpcFreq : Int64) {shape : ShapeCalib ℝ} (nonneg : 0 ≤ shape.emaVar)
    (value : ℝ) (times : Nat → UInt64) :
    LearnsEventually qpcFreq shape value times ↔
      (momentsOf shape).Passes (gateRates ℝ) value := by
  rw [← passes_eventually_iff]
  constructor
  · rintro ⟨n, accepts, -⟩
    obtain ⟨later, moments⟩ := momentsOf_fed qpcFreq nonneg value times n
    refine ⟨n, ?_⟩
    rw [← moments]
    exact (accepts_iff later value).mp accepts
  · rintro ⟨n, passes⟩
    obtain ⟨later, moments⟩ := momentsOf_fed qpcFreq nonneg value times n
    rw [← moments, ← accepts_iff later value] at passes
    exact ⟨n, passes, updateShape_ne (times n) passes⟩

/-- After any run, a value on consecutive frames is learned in the end exactly if its squared
distance from the moving mean of the values that passed is at most sixteen times their moving
variance and its floor. -/
theorem learns_eventually_iff (qpcFreq : Int64) (calls : List (ℝ × UInt64)) (value : ℝ)
    (times : Nat → UInt64) :
    LearnsEventually qpcFreq (afterCalls qpcFreq calls) value times ↔
      (value - (gateAfter (calls.map Prod.fst)).mean) *
          (value - (gateAfter (calls.map Prod.fst)).mean) ≤
        16.0 * ((gateAfter (calls.map Prod.fst)).var + 1e-6) := by
  obtain ⟨nonneg, same⟩ := momentsOf_afterCalls qpcFreq calls
  rw [learns_iff_passes qpcFreq nonneg, same]
  rfl

/-! ### Twenty frames at one half -/

theorem gateAfter_half (n : Nat) :
    gateAfter (List.replicate n (0.5 : ℝ)) = ⟨0.5, 0.95 ^ n * 0.04⟩ := by
  induction n with
  | zero =>
    rw [pow_zero, one_mul]
    rfl
  | succ n inductionHypothesis =>
    have passes : (⟨0.5, 0.95 ^ n * 0.04⟩ : Moments ℝ).Passes (gateRates ℝ) 0.5 := by
      show (0.5 - 0.5) * (0.5 - 0.5) ≤ (16.0 : ℝ) * (0.95 ^ n * 0.04 + 1e-6)
      rw [sub_self, zero_mul]
      positivity
    have absorbed : (⟨0.5, 0.95 ^ n * 0.04⟩ : Moments ℝ).absorb (gateRates ℝ) 0.5 =
        ⟨0.5, 0.95 ^ (n + 1) * 0.04⟩ := by
      have var : ((1 : ℝ) - 0.05) * (0.95 ^ n * 0.04) + 0.05 * ((0.5 - (0.5 + 0.02 * (0.5 - 0.5))) *
          (0.5 - (0.5 + 0.02 * (0.5 - 0.5)))) = 0.95 ^ (n + 1) * 0.04 := by
        rw [pow_succ]
        norm_num
        ring
      have mean : (0.5 : ℝ) + 0.02 * (0.5 - 0.5) = 0.5 := by norm_num
      exact congrArg₂ Moments.mk mean var
    unfold gateAfter at inductionHypothesis ⊢
    rw [List.replicate_succ', List.foldl_concat, inductionHypothesis, feed_of_passes passes,
      absorbed]

/-- Both values are between zero and one, and the second one is never learned. -/
theorem resting_at_half_locks_out_zero :
    ¬∃ times, LearnsEventually 10000000
      (afterCalls 10000000 (List.replicate 20 (0.5, 1))) 0 times := by
  rintro ⟨times, learns⟩
  obtain ⟨nonneg, same⟩ := momentsOf_afterCalls 10000000 (List.replicate 20 (0.5, 1))
  rw [learns_iff_passes 10000000 nonneg, same, List.map_replicate, gateAfter_half] at learns
  have narrow : (16.0 : ℝ) * (0.95 ^ 20 * 0.04 + 1e-6) < (0 - 0.5) * (0 - 0.5) := by norm_num
  exact absurd learns (not_le.mpr narrow)

end PairDriver.FaceCalibration
