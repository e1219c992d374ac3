/-
This file proves that the blend filter stays well conditioned over any sequence
of updates and resets: no covariance vanishes, none exceeds the variance of the
measurements once a measurement followed the seed, and the translation is a
weighted mean of the measurements received since the seed.

The yaw is wrapped by a function of the platform; nothing about it is used, since
only the estimate of the yaw goes through it.
-/

import PairDriver.PublishBlend

namespace PairDriver.Incremental

open CalibrationSamples (Vec3)

namespace BlendFilter

/-! ### Runs -/

/-- A call of the filter's interface. -/
inductive FilterCall where
  | update (measYaw : Rat) (measT : Vec3 Rat) (dt : Rat)
  | reset

def perform (wrapAngle : Rat → Rat) (filter : BlendFilter) : FilterCall → BlendFilter
  | .update measYaw measT dt => (filter.update wrapAngle measYaw measT dt).1
  | .reset => reset

/-- The filter after a sequence of calls, from a new one. -/
def performAll (wrapAngle : Rat → Rat) (calls : List FilterCall) : BlendFilter :=
  calls.foldl (perform wrapAngle) {}

/-- The measurements received since the last seed, which is the first of them. -/
def received (calls : List FilterCall) : List (Vec3 Rat) :=
  calls.foldl (fun measurements call =>
    match call with
    | .update _ measT _ => measurements ++ [measT]
    | .reset => []) []

/-- The gain of the yaw at the next update. -/
def yawGain (filter : BlendFilter) (dt : Rat) : Rat :=
  gain (predicted filter.yawVariance kSigmaYawPerSec dt) kSigmaYawMeas

/-! ### Conditioning -/

/-- A component lies between two of the measurements. -/
def Spanned (measurements : List (Vec3 Rat)) (axis : Fin 3) (value : Rat) : Prop :=
  (∃ low ∈ measurements, low axis ≤ value) ∧ ∃ high ∈ measurements, value ≤ high axis

/-- What the filter keeps, with the measurements since the last seed: covariances and gains as
they should be, and a translation that the measurements span. -/
structure Conditioned (filter : BlendFilter) (measurements : List (Vec3 Rat)) : Prop where
  seeded : filter.initialized = true ↔ measurements ≠ []
  yawPositive : 0 < filter.yawVariance
  positive : ∀ axis, 0 < filter.variance axis
  yawBelow : 2 ≤ measurements.length → filter.yawVariance < kSigmaYawMeas ^ 2
  below : 2 ≤ measurements.length → ∀ axis, filter.variance axis < kSigmaPosMeas ^ 2
  yawGains : ∀ dt, 0 < filter.yawGain dt ∧ filter.yawGain dt < 1
  gains : ∀ dt axis, 0 < filter.translationGain dt axis ∧ filter.translationGain dt axis < 1
  spanned : measurements ≠ [] → ∀ axis, Spanned measurements axis (filter.translation axis)

/-- The covariance after an update is the gain's share of the measurement variance. -/
theorem posterior_eq {predicted sigma : Rat} (uncertain : 0 < predicted) :
    (1 - gain predicted sigma) * predicted = gain predicted sigma * sigma ^ 2 := by
  have total : predicted + sigma * sigma ≠ 0 :=
    (add_pos_of_pos_of_nonneg uncertain (mul_self_nonneg sigma)).ne'
  unfold gain
  field_simp
  ring

theorem posterior_mem {predicted sigma : Rat} (uncertain : 0 < predicted) (noisy : sigma ≠ 0) :
    0 < (1 - gain predicted sigma) * predicted ∧
      (1 - gain predicted sigma) * predicted < sigma ^ 2 := by
  obtain ⟨positive, below⟩ := gain_mem uncertain noisy
  refine ⟨mul_pos (sub_pos.mpr below) uncertain, ?_⟩
  rw [posterior_eq uncertain]
  exact mul_lt_of_lt_one_left (by positivity) below

theorem kSigmaYawMeas_ne_zero : kSigmaYawMeas ≠ 0 := by decide +kernel

theorem kSigmaPosMeas_ne_zero : kSigmaPosMeas ≠ 0 := by decide +kernel

theorem yawGain_mem {filter : BlendFilter} (positive : 0 < filter.yawVariance) (dt : Rat) :
    0 < filter.yawGain dt ∧ filter.yawGain dt < 1 :=
  gain_mem (predicted_pos positive kSigmaYawPerSec dt) kSigmaYawMeas_ne_zero

/-- A step towards a new measurement stays in the span of the measurements. -/
theorem spanned_step {measurements : List (Vec3 Rat)} {axis : Fin 3} {value gain : Rat}
    (spanned : Spanned measurements axis value) (measT : Vec3 Rat) (positive : 0 < gain)
    (below : gain < 1) :
    Spanned (measurements ++ [measT]) axis (value + gain * (measT axis - value)) := by
  obtain ⟨⟨low, lowMember, lowLe⟩, high, highMember, leHigh⟩ := spanned
  have newest : measT ∈ measurements ++ [measT] :=
    List.mem_append_right _ (List.mem_singleton_self _)
  rcases le_total value (measT axis) with up | down
  · refine ⟨⟨low, List.mem_append_left _ lowMember, ?_⟩, measT, newest, ?_⟩
    · nlinarith only [lowLe, up, positive]
    · nlinarith only [up, below]
  · refine ⟨⟨measT, newest, ?_⟩, high, List.mem_append_left _ highMember, ?_⟩
    · nlinarith only [down, below]
    · nlinarith only [leHigh, down, positive]

theorem conditioned_reset : Conditioned reset [] where
  seeded := by simp [reset]
  yawPositive := by decide +kernel
  positive := fun _ => (by decide +kernel : (0 : Rat) < 1 / 25)
  yawBelow := fun long => absurd long (by decide)
  below := fun long => absurd long (by decide)
  yawGains := yawGain_mem (by decide +kernel)
  gains := fun dt axis => uncertain_reset.gain dt axis
  spanned := fun some => absurd rfl some

theorem Conditioned.update {filter : BlendFilter} {measurements : List (Vec3 Rat)}
    (conditioned : Conditioned filter measurements) (wrapAngle : Rat → Rat) (measYaw : Rat)
    (measT : Vec3 Rat) (dt : Rat) :
    Conditioned (filter.update wrapAngle measYaw measT dt).1 (measurements ++ [measT]) := by
  unfold BlendFilter.update
  split
  · next initialized =>
    have seeded := conditioned.seeded.mp initialized
    have yaw := posterior_mem (predicted_pos conditioned.yawPositive kSigmaYawPerSec dt)
      kSigmaYawMeas_ne_zero
    have translation := fun axis =>
      posterior_mem (predicted_pos (conditioned.positive axis) kSigmaPosPerSec dt)
        kSigmaPosMeas_ne_zero
    exact {
      seeded := by simp
      yawPositive := yaw.1
      positive := fun axis => (translation axis).1
      yawBelow := fun _ => yaw.2
      below := fun _ axis => (translation axis).2
      yawGains := yawGain_mem yaw.1
      gains := Uncertain.gain fun axis => (translation axis).1
      spanned := fun _ axis =>
        spanned_step (conditioned.spanned seeded axis) measT (conditioned.gains dt axis).1
          (conditioned.gains dt axis).2 }
  · next uninitialized =>
    have unseeded : measurements = [] := by
      by_contra some
      exact uninitialized (conditioned.seeded.mpr some)
    subst unseeded
    have first : measT ∈ ([] ++ [measT] : List (Vec3 Rat)) := List.mem_singleton_self _
    exact { conditioned_reset with
      seeded := by simp
      yawBelow := fun long => absurd long (by simp)
      below := fun long => absurd long (by simp)
      spanned := fun _ axis => ⟨⟨measT, first, le_rfl⟩, measT, first, le_rfl⟩ }

/-- After any sequence of updates and resets the filter is well conditioned. -/
theorem performAll_conditioned (wrapAngle : Rat → Rat) (calls : List FilterCall) :
    Conditioned (performAll wrapAngle calls) (received calls) := by
  induction calls using List.reverseRecOn with
  | nil => exact conditioned_reset
  | append_singleton calls call inductionHypothesis =>
    unfold performAll received at inductionHypothesis ⊢
    rw [List.foldl_append, List.foldl_append]
    cases call with
    | update measYaw measT dt => exact inductionHypothesis.update wrapAngle measYaw measT dt
    | reset => exact conditioned_reset

end BlendFilter

end PairDriver.Incremental
