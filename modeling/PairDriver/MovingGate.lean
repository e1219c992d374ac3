/-
This file is a library about gates that learn: a value passes if its squared deviation from a
moving mean is within some multiple of a moving variance, and a value that passes moves both.

A rejected value moves nothing, so it is rejected for good. A value that passes once passes
whenever it is repeated, and while it is repeated the mean goes to the value and the variance
to zero: in the end every other value is rejected whose distance exceeds what the floor of the
gate lets through.
-/

import Mathlib

namespace PairDriver.MovingGate

section Field

variable {Number : Type} [Field Number] [LinearOrder Number]

/-! ### The gate -/

/-- The rates at which the mean and the variance follow, the factor of the variance, and what
is added to the variance. -/
structure Rates (Number : Type) [Field Number] [LinearOrder Number] where
  alpha : Number
  beta : Number
  width : Number
  floor : Number
  alpha_pos : 0 < alpha
  alpha_lt : alpha < 1
  beta_pos : 0 < beta
  beta_lt : beta < 1
  width_ge : 1 ≤ width
  floor_nonneg : 0 ≤ floor

structure Moments (Number : Type) where
  mean : Number
  var : Number

/-- The squared deviation is within the gate. -/
def Moments.Passes (rates : Rates Number) (value : Number) (moments : Moments Number) : Prop :=
  (value - moments.mean) * (value - moments.mean) ≤ rates.width * (moments.var + rates.floor)

instance (rates : Rates Number) (value : Number) (moments : Moments Number) :
    Decidable (moments.Passes rates value) :=
  inferInstanceAs (Decidable (_ ≤ _))

/-- The moments after a value that passed. The variance takes the deviation from the new mean. -/
def Moments.absorb (rates : Rates Number) (value : Number) (moments : Moments Number) :
    Moments Number :=
  let mean := moments.mean + rates.alpha * (value - moments.mean)
  { mean := mean
    var := (1 - rates.beta) * moments.var + rates.beta * ((value - mean) * (value - mean)) }

/-- The moments after a value. -/
def Moments.feed (rates : Rates Number) (value : Number) (moments : Moments Number) :
    Moments Number :=
  if moments.Passes rates value then moments.absorb rates value else moments

variable {rates : Rates Number} {moments : Moments Number} {value : Number}

theorem feed_of_passes (passes : moments.Passes rates value) :
    moments.feed rates value = moments.absorb rates value :=
  if_pos passes

theorem feed_of_rejected (rejected : ¬moments.Passes rates value) :
    moments.feed rates value = moments :=
  if_neg rejected

/-! ### A rejected value is rejected for good -/

theorem iterate_rejected (rejected : ¬moments.Passes rates value) (n : Nat) :
    (Moments.feed rates value)^[n] moments = moments :=
  Function.iterate_fixed (feed_of_rejected rejected) n

/-- A repeated value passes at some time exactly if it passes at once. -/
theorem passes_eventually_iff :
    (∃ n, ((Moments.feed rates value)^[n] moments).Passes rates value) ↔
      moments.Passes rates value := by
  constructor
  · rintro ⟨n, passes⟩
    by_contra rejected
    rw [iterate_rejected rejected] at passes
    exact rejected passes
  · exact fun passes => ⟨0, passes⟩

/-! ### A repeated value -/

theorem sub_absorb_mean (rates : Rates Number) (moments : Moments Number) (value : Number) :
    value - (moments.absorb rates value).mean =
      (1 - rates.alpha) * (value - moments.mean) := by
  unfold Moments.absorb
  ring

variable [IsStrictOrderedRing Number]

theorem absorb_var_nonneg (nonneg : 0 ≤ moments.var) (value : Number) :
    0 ≤ (moments.absorb rates value).var := by
  have first := mul_nonneg (sub_nonneg.mpr rates.beta_lt.le) nonneg
  have second := mul_nonneg rates.beta_pos.le
    (mul_self_nonneg (value - (moments.absorb rates value).mean))
  exact add_nonneg first second

theorem feed_var_nonneg (nonneg : 0 ≤ moments.var) (value : Number) :
    0 ≤ (moments.feed rates value).var := by
  unfold Moments.feed
  split_ifs
  · exact absorb_var_nonneg nonneg value
  · exact nonneg

/-- A value that passed passes again. -/
theorem passes_absorb (passes : moments.Passes rates value) :
    (moments.absorb rates value).Passes rates value := by
  have nearer := sub_absorb_mean rates moments value
  have kept : 0 ≤ 1 - rates.alpha := sub_nonneg.mpr rates.alpha_lt.le
  have keptLe : 1 - rates.alpha ≤ 1 := by linarith [rates.alpha_pos]
  have rest : 0 ≤ 1 - rates.beta := sub_nonneg.mpr rates.beta_lt.le
  have square : 0 ≤ (value - moments.mean) * (value - moments.mean) := mul_self_nonneg _
  have shrinks : (1 - rates.alpha) * (1 - rates.alpha) ≤ 1 := mul_le_one₀ keptLe kept keptLe
  have smaller : (value - (moments.absorb rates value).mean) *
      (value - (moments.absorb rates value).mean) ≤
        (value - moments.mean) * (value - moments.mean) := by
    rw [nearer]
    nlinarith
  have wide := mul_le_mul_of_nonneg_left passes rest
  have own : (value - (moments.absorb rates value).mean) *
      (value - (moments.absorb rates value).mean) ≤ rates.width *
        ((value - (moments.absorb rates value).mean) *
          (value - (moments.absorb rates value).mean)) :=
    le_mul_of_one_le_left (mul_self_nonneg _) rates.width_ge
  have floor : 0 ≤ rates.width * rates.floor :=
    mul_nonneg (zero_le_one.trans rates.width_ge) rates.floor_nonneg
  have var : (moments.absorb rates value).var = (1 - rates.beta) * moments.var +
      rates.beta * ((value - (moments.absorb rates value).mean) *
        (value - (moments.absorb rates value).mean)) := rfl
  unfold Moments.Passes
  rw [var]
  generalize (value - (moments.absorb rates value).mean) *
    (value - (moments.absorb rates value).mean) = after at smaller own ⊢
  have ownShare := mul_le_mul_of_nonneg_left own rates.beta_pos.le
  have smallerShare := mul_le_mul_of_nonneg_left smaller rest
  have floorShare := mul_nonneg rates.beta_pos.le floor
  linarith

/-- While a value that passes is repeated, it passes, and its deviation shrinks
geometrically. -/
theorem iterate_passes (passes : moments.Passes rates value) (n : Nat) :
    ((Moments.feed rates value)^[n] moments).Passes rates value ∧
      value - ((Moments.feed rates value)^[n] moments).mean =
        (1 - rates.alpha) ^ n * (value - moments.mean) := by
  induction n with
  | zero => exact ⟨passes, by rw [pow_zero, one_mul]; rfl⟩
  | succ n inductionHypothesis =>
    obtain ⟨before, deviation⟩ := inductionHypothesis
    rw [Function.iterate_succ_apply', feed_of_passes before]
    refine ⟨passes_absorb before, ?_⟩
    rw [sub_absorb_mean, deviation, pow_succ]
    ring

/-- The slower of the two rates at which the variance forgets. -/
def Rates.decay (rates : Rates Number) : Number :=
  max (1 - rates.beta) ((1 - rates.alpha) * (1 - rates.alpha))

theorem decay_bounds (rates : Rates Number) : 0 ≤ rates.decay ∧ rates.decay < 1 := by
  have kept : 0 ≤ 1 - rates.alpha := sub_nonneg.mpr rates.alpha_lt.le
  have keptLt : 1 - rates.alpha < 1 := by linarith [rates.alpha_pos]
  have restLt : 1 - rates.beta < 1 := by linarith [rates.beta_pos]
  refine ⟨le_max_of_le_left (sub_nonneg.mpr rates.beta_lt.le), max_lt restLt ?_⟩
  exact mul_lt_one_of_nonneg_of_lt_one_left kept keptLt keptLt.le

theorem iterate_var_le (nonneg : 0 ≤ moments.var) (passes : moments.Passes rates value)
    (n : Nat) :
    ((Moments.feed rates value)^[n] moments).var ≤
      (moments.var + n * ((value - moments.mean) * (value - moments.mean))) *
        rates.decay ^ n := by
  induction n with
  | zero => simp
  | succ n inductionHypothesis =>
    obtain ⟨before, deviation⟩ := iterate_passes passes n
    obtain ⟨decayNonneg, -⟩ := decay_bounds rates
    have square : 0 ≤ (value - moments.mean) * (value - moments.mean) := mul_self_nonneg _
    rw [Function.iterate_succ_apply', feed_of_passes before]
    generalize (Moments.feed rates value)^[n] moments = held
      at before deviation inductionHypothesis ⊢
    have var : (held.absorb rates value).var = (1 - rates.beta) * held.var +
      rates.beta * ((value - (held.absorb rates value).mean) *
        (value - (held.absorb rates value).mean)) := rfl
    have own : (value - (held.absorb rates value).mean) *
        (value - (held.absorb rates value).mean) ≤
          rates.decay ^ (n + 1) * ((value - moments.mean) * (value - moments.mean)) := by
      have powers : ((1 - rates.alpha) * (1 - rates.alpha)) ^ (n + 1) ≤ rates.decay ^ (n + 1) :=
        pow_le_pow_left₀ (mul_self_nonneg _) (le_max_right _ _) (n + 1)
      have same : (value - (held.absorb rates value).mean) *
          (value - (held.absorb rates value).mean) =
            ((1 - rates.alpha) * (1 - rates.alpha)) ^ (n + 1) *
              ((value - moments.mean) * (value - moments.mean)) := by
        rw [sub_absorb_mean, deviation, mul_pow]
        ring
      rw [same]
      exact mul_le_mul_of_nonneg_right powers square
    have older : (1 - rates.beta) * held.var ≤ rates.decay *
        ((moments.var + n * ((value - moments.mean) * (value - moments.mean))) *
          rates.decay ^ n) := by
      have bound : 0 ≤ (moments.var + n * ((value - moments.mean) * (value - moments.mean))) *
          rates.decay ^ n :=
        mul_nonneg (add_nonneg nonneg (mul_nonneg (Nat.cast_nonneg n) square))
          (pow_nonneg decayNonneg n)
      exact (mul_le_mul_of_nonneg_left inductionHypothesis
        (sub_nonneg.mpr rates.beta_lt.le)).trans
          (mul_le_mul_of_nonneg_right (le_max_left _ _) bound)
    have newer := (mul_le_of_le_one_left (mul_self_nonneg
      (value - (held.absorb rates value).mean)) rates.beta_lt.le).trans own
    rw [var, Nat.cast_succ]
    refine (add_le_add older newer).trans (le_of_eq ?_)
    ring

end Field

/-! ### A repeated value locks the others out -/

/-- After enough repetitions of a value that passes, every value is rejected whose squared
distance exceeds the floor of the gate. -/
theorem locks_out {rates : Rates ℝ} {moments : Moments ℝ} {value other : ℝ}
    (nonneg : 0 ≤ moments.var) (passes : moments.Passes rates value)
    (apart : rates.width * rates.floor < (other - value) * (other - value)) :
    ∃ n, ¬((Moments.feed rates value)^[n] moments).Passes rates other := by
  obtain ⟨decayNonneg, decayLt⟩ := decay_bounds rates
  have kept : 0 ≤ 1 - rates.alpha := sub_nonneg.mpr rates.alpha_lt.le
  have keptLt : 1 - rates.alpha < 1 := by linarith [rates.alpha_pos]
  have bounds := tendsto_pow_atTop_nhds_zero_of_lt_one decayNonneg decayLt
  have counted := tendsto_self_mul_const_pow_of_lt_one decayNonneg decayLt
  have nearer := tendsto_pow_atTop_nhds_zero_of_lt_one kept keptLt
  have varBound : Filter.Tendsto (fun n : Nat => rates.width * ((moments.var +
      n * ((value - moments.mean) * (value - moments.mean))) * rates.decay ^ n + rates.floor))
      Filter.atTop (nhds (rates.width * rates.floor)) := by
    have sum := ((bounds.const_mul moments.var).add (counted.const_mul
      ((value - moments.mean) * (value - moments.mean)))).add_const rates.floor
    rw [mul_zero, mul_zero, add_zero, zero_add] at sum
    refine (sum.const_mul rates.width).congr fun n => ?_
    ring
  have distance : Filter.Tendsto (fun n : Nat =>
      (other - value + (1 - rates.alpha) ^ n * (value - moments.mean)) *
        (other - value + (1 - rates.alpha) ^ n * (value - moments.mean)))
      Filter.atTop (nhds ((other - value) * (other - value))) := by
    have shifted := (nearer.mul_const (value - moments.mean)).const_add (other - value)
    rw [zero_mul, add_zero] at shifted
    exact shifted.mul shifted
  obtain ⟨n, below⟩ := (varBound.eventually_lt distance apart).exists
  refine ⟨n, fun passed => ?_⟩
  obtain ⟨-, deviation⟩ := iterate_passes passes n
  have var := iterate_var_le nonneg passes n
  unfold Moments.Passes at passed
  generalize (Moments.feed rates value)^[n] moments = held
    at passed deviation var
  have split : other - held.mean =
      other - value + (1 - rates.alpha) ^ n * (value - moments.mean) := by
    rw [← deviation]
    ring
  have widest := mul_le_mul_of_nonneg_left (add_le_add_left var rates.floor)
    (zero_le_one.trans rates.width_ge)
  rw [split] at passed
  exact absurd (passed.trans widest) (not_le.mpr below)

end PairDriver.MovingGate
