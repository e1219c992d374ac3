/-
This file models the calibration solver around its numeric core: the sample buffer,
`ValidateCalibration`, `ComputeOneshot` and `ComputeIncremental` with the blend of what
they publish and the watchdog. The numeric solvers and error measures are functions a
call brings with it.

Every call of `ComputeIncremental` takes one of seven exits. What the exits leave alone,
and which candidates they accept, is stated here; the rejection counter and the published
translation have files of their own.
-/

import PairDriver.SampleBuffer
import PairDriver.Machine

namespace PairDriver.Incremental

open CalibrationSamples (Vec3 Mat3)

/-! ### Doubles -/

/-- A double, with exact arithmetic on the finite ones. -/
inductive Double where
  | finite (value : Rat)
  | infinite (negative : Bool)
  | nan
deriving DecidableEq

namespace Double

def lt : Double → Double → Bool
  | finite a, finite b => decide (a < b)
  | infinite true, finite _ => true
  | infinite true, infinite false => true
  | finite _, infinite false => true
  | _, _ => false

def le : Double → Double → Bool
  | finite a, finite b => decide (a ≤ b)
  | infinite true, finite _ => true
  | infinite true, infinite _ => true
  | finite _, infinite false => true
  | infinite false, infinite false => true
  | _, _ => false

instance : LT Double := ⟨fun a b => a.lt b = true⟩

instance : LE Double := ⟨fun a b => a.le b = true⟩

instance decidableLt (a b : Double) : Decidable (a < b) :=
  inferInstanceAs (Decidable (a.lt b = true))

instance decidableLe (a b : Double) : Decidable (a ≤ b) :=
  inferInstanceAs (Decidable (a.le b = true))

/-- The product of an infinity with a finite factor. -/
def scaleInfinity (negative : Bool) (factor : Rat) : Double :=
  if factor = 0 then nan else infinite (xor negative (decide (factor < 0)))

def mul : Double → Double → Double
  | finite a, finite b => finite (a * b)
  | infinite negative, finite factor => scaleInfinity negative factor
  | finite factor, infinite negative => scaleInfinity negative factor
  | infinite a, infinite b => infinite (xor a b)
  | _, _ => nan

instance : Mul Double := ⟨mul⟩

def isFinite : Double → Bool
  | finite _ => true
  | _ => false

/-- `std::max`. -/
def max (a b : Double) : Double := if a < b then b else a

end Double

/-! ### The solvers -/

abbrev Sample := CalibrationSamples.Sample Rat

structure Transform where
  linear : Mat3 Rat
  translation : Vec3 Rat

def Transform.identity : Transform := ⟨1, 0⟩

/-- What `ComputeCalibration` finds: the calibration, and the condition ratios it leaves in the
solver. -/
structure Solution where
  calibration : Transform
  rotationConditionRatio : Double
  translationConditionRatio : Double

/-- The numeric solvers and error measures. `uninitialized` is what a transform holds that was
never assigned. -/
structure Solvers where
  calibrateByRelPose : List Sample → Transform → Transform
  computeCalibration : Bool → List Sample → Solution
  computeAxisVariance : List Sample → Transform → Double
  computeRefToTargetOffset : List Sample → Transform → Vec3 Rat
  retargetingErrorRMS : List Sample → Vec3 Rat → Transform → Double
  rmsThreshold : List Sample → Double
  estimateRefToTargetPose : List Sample → Transform → Transform
  twistYaw : Mat3 Rat → Rat
  yawRotation : Rat → Mat3 Rat
  wrapAngle : Rat → Rat
  slerp : Mat3 Rat → Rat → Mat3 Rat → Mat3 Rat
  uninitialized : Transform

/-- The error `ValidateCalibration` measures. -/
def Solvers.rmsError (solvers : Solvers) (samples : List Sample) (calibration : Transform) :
    Double :=
  solvers.retargetingErrorRMS samples (solvers.computeRefToTargetOffset samples calibration)
    calibration

/-- `ValidateCalibration`. -/
def Solvers.validateCalibration (solvers : Solvers) (samples : List Sample)
    (calibration : Transform) : Bool :=
  !decide (solvers.rmsThreshold samples < solvers.rmsError samples calibration)

/-! ### The blend filter -/

/-- `blendfilter::State`, with the three axes of the translation together. -/
structure BlendFilter where
  initialized : Bool := false
  yaw : Rat := 0
  translation : Vec3 Rat := 0
  yawVariance : Rat := 1 / 10
  variance : Vec3 Rat := fun _ => 1 / 25

namespace BlendFilter

def kSigmaYawPerSec : Rat := 291 / 10000000
def kSigmaPosPerSec : Rat := 167 / 10000000
def kSigmaYawMeas : Rat := 1 / 2 * (314159265358979323846 / 100000000000000000000) / 180
def kSigmaPosMeas : Rat := 5 / 1000
def kDivergenceYawRad : Rat := 1 / 2
def kDivergencePosM : Rat := 3 / 10

/-- `Reset`. -/
def reset : BlendFilter := {}

def predicted (variance sigma dt : Rat) : Rat := variance + sigma * sigma * max 0 dt

/-- The Kalman gain of a component. -/
def gain (predicted sigma : Rat) : Rat := predicted / (predicted + sigma * sigma)

/-- The gain of an axis of the translation at the next update. -/
def translationGain (filter : BlendFilter) (dt : Rat) (axis : Fin 3) : Rat :=
  gain (predicted (filter.variance axis) kSigmaPosPerSec dt) kSigmaPosMeas

/-- `Update`: the filter after a measurement, the yaw innovation, and the square of the position
innovation. -/
def update (wrapAngle : Rat → Rat) (filter : BlendFilter) (measYaw : Rat) (measT : Vec3 Rat)
    (dt : Rat) : BlendFilter × Rat × Rat :=
  if filter.initialized then
    let yawPredicted := predicted filter.yawVariance kSigmaYawPerSec dt
    let yawGain := gain yawPredicted kSigmaYawMeas
    let yYaw := wrapAngle (measYaw - filter.yaw)
    let innovation := fun axis => measT axis - filter.translation axis
    ({ initialized := true
       yaw := filter.yaw + yawGain * yYaw
       translation := fun axis =>
         filter.translation axis + filter.translationGain dt axis * innovation axis
       yawVariance := (1 - yawGain) * yawPredicted
       variance := fun axis => (1 - filter.translationGain dt axis) *
         predicted (filter.variance axis) kSigmaPosPerSec dt },
      |yYaw|, innovation 0 ^ 2 + innovation 1 ^ 2 + innovation 2 ^ 2)
  else
    ({ reset with initialized := true, yaw := measYaw, translation := measT }, 0, 0)

/-- `IsDivergent`, with the position innovation squared. -/
def isDivergent (yawInnov posInnovSquared : Rat) : Bool :=
  decide (kDivergenceYawRad < yawInnov) || decide (kDivergencePosM ^ 2 < posInnovSquared)

end BlendFilter

/-! ### State -/

structure CalibrationCalc where
  enableStaticRecalibration : Bool := true
  lockRelativePosition : Bool := false
  useBlendFilter : Bool := false
  isValid : Bool := false
  estimatedTransformation : Transform
  relativePosCalibrated : Bool := false
  refToTargetPose : Transform := .identity
  axisVariance : Double := .finite 0
  rotationConditionRatio : Double := .finite 0
  translationConditionRatio : Double := .finite 0
  consecutiveRejections : Nat := 0
  lastSuccessfulIncrementalTime : Rat := 0
  lastSampleTime : Rat := 0
  watchdogResets : Nat := 0
  rejectReasonTag : String := ""
  healthyHoldAnnotated : Bool := false
  blendFilter : BlendFilter := {}
  blendFilterLastUpdateTime : Rat := 0
  samples : List Sample := []
  rotationFrozen : List Sample := []

namespace CalibrationCalc

/-- `PushSample`. -/
def pushSample (sample : Sample) (state : CalibrationCalc) : CalibrationCalc :=
  if sample.Admitted then
    { state with
      samples := state.samples ++ [sample]
      lastSampleTime :=
        if sample.valid ∧ state.lastSampleTime < sample.timestamp then sample.timestamp
        else state.lastSampleTime }
  else state

/-- `ShiftSample`. -/
def shiftSample (state : CalibrationCalc) : CalibrationCalc :=
  { state with samples := state.samples.tail }

/-- `Clear`. -/
def clear (state : CalibrationCalc) : CalibrationCalc :=
  { state with
    estimatedTransformation := .identity
    isValid := false
    samples := []
    rotationFrozen := []
    axisVariance := .finite 0
    refToTargetPose := .identity
    relativePosCalibrated := false
    rotationConditionRatio := .finite 0
    consecutiveRejections := 0
    blendFilter := .reset
    blendFilterLastUpdateTime := 0 }

/-- `FreezeRotationPhaseSamples`. -/
def freezeRotationPhaseSamples (state : CalibrationCalc) : CalibrationCalc :=
  { state with rotationFrozen := state.samples, samples := [] }

/-- `setRelativeTransformation`. -/
def setRelativeTransformation (transform : Transform) (calibrated : Bool)
    (state : CalibrationCalc) : CalibrationCalc :=
  { state with refToTargetPose := transform, relativePosCalibrated := calibrated }

end CalibrationCalc

/-! ### A one-shot solve -/

/-- The samples a solve needs. -/
def minimumSamples : Nat := 6

/-- The solve on the spliced samples. A candidate that does not validate is applied with a
warning. -/
def oneshotOnSplice (solvers : Solvers) (ignoreOutliers : Bool) (state : CalibrationCalc) :
    Bool × CalibrationCalc :=
  if state.samples.length < minimumSamples then (false, state)
  else
    let solution := solvers.computeCalibration ignoreOutliers state.samples
    let solved := { state with
      rotationConditionRatio := solution.rotationConditionRatio
      translationConditionRatio := solution.translationConditionRatio }
    if solution.rotationConditionRatio = .finite 0 then (false, solved)
    else (true, { solved with estimatedTransformation := solution.calibration, isValid := true })

/-- `ComputeOneshot`, in the scope of a `RotationFreezeSplice`. -/
def computeOneshot (solvers : Solvers) (ignoreOutliers : Bool) (state : CalibrationCalc) :
    Bool × CalibrationCalc :=
  let count := state.rotationFrozen.length
  let (returned, solved) := oneshotOnSplice solvers ignoreOutliers
    { state with samples := state.rotationFrozen ++ state.samples }
  (returned, { solved with samples := solved.samples.drop count })

/-! ### An incremental solve -/

def axisVarianceThreshold : Double := .finite (1 / 1000)
def rotationConditionMin : Double := .finite (5 / 100)
def kRejectionFloor : Double := .finite (5 / 1000)

/-- The part of a call that is not in the solver. -/
structure Call where
  solvers : Solvers
  threshold : Double
  relPoseMaxError : Double
  ignoreOutliers : Bool

/-- A candidate on its way through the gates. `validation` is the answer of `ValidateCalibration`
for the candidate in this call, recorded for the specification only. -/
structure Candidate where
  calibration : Transform
  newError : Double := .infinite false
  newCalibrationValid : Bool := false
  usingRelPose : Bool := false
  newVariance : Double := .finite 0
  shouldRapidCorrect : Bool := true
  validation : Option Bool := none

/-- What the relative pose gives. -/
def byRelPose (call : Call) (state : CalibrationCalc) : Transform :=
  call.solvers.calibrateByRelPose state.samples state.refToTargetPose

/-- The error of the current calibration. -/
def priorCalibrationError (call : Call) (state : CalibrationCalc) : Double :=
  if state.isValid then call.solvers.rmsError state.samples state.estimatedTransformation
  else .infinite false

/-- `relPoseError` where the locked path has not returned. -/
def relPoseError (call : Call) (state : CalibrationCalc) : Double :=
  if state.enableStaticRecalibration then call.solvers.rmsError state.samples (byRelPose call state)
  else .infinite false

/-- Whether the relative pose validates. -/
def relPoseValid (call : Call) (state : CalibrationCalc) : Bool :=
  call.solvers.validateCalibration state.samples (byRelPose call state)

/-- The static recalibration goes for the relative pose. -/
def tryStatic (call : Call) (state : CalibrationCalc) : Bool :=
  state.enableStaticRecalibration && relPoseValid call state &&
    (decide (relPoseError call state < .finite (10 / 1000)) ||
      state.relativePosCalibrated && decide (relPoseError call state < .finite (25 / 1000)))

/-- The two early returns of the static recalibration. -/
def staticRejects (call : Call) (state : CalibrationCalc) : Bool :=
  decide (priorCalibrationError call state ≤ relPoseError call state * call.threshold) ||
    decide (call.relPoseMaxError < relPoseError call state)

def staticCandidate (call : Call) (state : CalibrationCalc) : Candidate where
  calibration := byRelPose call state
  newError := relPoseError call state
  newCalibrationValid := true
  usingRelPose := true
  validation := some true

/-- The gates a fresh candidate has to pass to be validated: the tag of the one that stops it, and
whether the rapid correction is still to be tried. -/
def gate (solution : Solution) (newVariance axisVariance : Double) : Option (String × Bool) :=
  if newVariance < axisVarianceThreshold ∧ newVariance < axisVariance then
    some ("axis_variance_low", false)
  else if solution.rotationConditionRatio < rotationConditionMin then
    some (if solution.rotationConditionRatio = .finite 0 then "rotation_no_deltas"
      else "rotation_planar", true)
  else if solution.translationConditionRatio < rotationConditionMin then
    some (if solution.translationConditionRatio = .finite 0 then "translation_no_deltas"
      else "translation_planar", true)
  else none

/-- The candidate of `ComputeCalibration` behind the gates, with the tag of a rejection. -/
def gatedCandidate (call : Call) (state : CalibrationCalc) : Candidate × String :=
  let solution := call.solvers.computeCalibration call.ignoreOutliers state.samples
  let newVariance := call.solvers.computeAxisVariance state.samples solution.calibration
  let candidate : Candidate :=
    { calibration := solution.calibration
      newVariance := newVariance }
  match gate solution newVariance state.axisVariance with
  | some (tag, shouldRapidCorrect) =>
    ({ candidate with shouldRapidCorrect := shouldRapidCorrect }, tag)
  | none =>
    let valid := call.solvers.validateCalibration state.samples solution.calibration
    ({ candidate with
        newError := call.solvers.rmsError state.samples solution.calibration
        newCalibrationValid := valid
        validation := some valid },
      if valid then state.rejectReasonTag else "validate_failed")

/-- The candidate is no improvement on the current calibration. -/
def belowFloorOrWorse (call : Call) (state : CalibrationCalc) (newError : Double) : Bool :=
  state.isValid && newError.isFinite &&
    decide ((priorCalibrationError call state).max kRejectionFloor < newError * call.threshold)

def freshCandidate (call : Call) (state : CalibrationCalc) : Candidate × String :=
  let (candidate, tag) := gatedCandidate call state
  if belowFloorOrWorse call state candidate.newError then
    ({ candidate with newCalibrationValid := false, shouldRapidCorrect := false },
      "below_floor_or_worse")
  else (candidate, tag)

/-- The solver after a fresh solve. -/
def diagnosed (call : Call) (tag : String) (state : CalibrationCalc) : CalibrationCalc :=
  let solution := call.solvers.computeCalibration call.ignoreOutliers state.samples
  { state with
    rotationConditionRatio := solution.rotationConditionRatio
    translationConditionRatio := solution.translationConditionRatio
    rejectReasonTag := tag }

/-- The relative pose is better than the current calibration under the reference offset. -/
def relPoseBetter (call : Call) (state : CalibrationCalc) : Bool :=
  decide (relPoseError call state * call.threshold <
    call.solvers.retargetingErrorRMS state.samples state.refToTargetPose.translation
      state.estimatedTransformation)

/-- The rapid correction takes the relative pose in place of a candidate that was rejected. Without
static recalibration the relative pose was never computed. -/
def rapidCorrect (call : Call) (state : CalibrationCalc) (candidate : Candidate) : Candidate :=
  if !candidate.newCalibrationValid && candidate.shouldRapidCorrect && relPoseBetter call state then
    { candidate with
      newCalibrationValid := true
      usingRelPose := true
      newError := relPoseError call state
      calibration := if state.enableStaticRecalibration then byRelPose call state
        else call.solvers.uninitialized
      validation := if state.enableStaticRecalibration then some (relPoseValid call state)
        else none }
  else candidate

/-! ### Publishing -/

/-- The step of the moving average. -/
def alpha : Rat := 3 / 10

def emaBlend (solvers : Solvers) (prior candidate : Transform) : Transform where
  linear := solvers.slerp prior.linear alpha candidate.linear
  translation := fun axis =>
    prior.translation axis * (1 - alpha) + candidate.translation axis * alpha

/-- The time since the last update of the filter. -/
def CalibrationCalc.filterDt (state : CalibrationCalc) : Rat :=
  max 0 (state.lastSampleTime - state.blendFilterLastUpdateTime)

/-- The filter after the measurement of a candidate, with the two innovations. -/
def measured (solvers : Solvers) (filter : BlendFilter) (candidate : Transform) (dt : Rat) :
    BlendFilter × Rat × Rat :=
  filter.update solvers.wrapAngle (solvers.twistYaw candidate.linear) candidate.translation dt

/-- The publish-time blend of a candidate with the current calibration. -/
def blend (solvers : Solvers) (candidate : Transform) (state : CalibrationCalc) :
    CalibrationCalc :=
  if state.useBlendFilter then
    let (filter, yawInnov, posInnovSquared) :=
      measured solvers state.blendFilter candidate state.filterDt
    if BlendFilter.isDivergent yawInnov posInnovSquared then
      { state with
        blendFilterLastUpdateTime := state.lastSampleTime
        blendFilter := .reset
        estimatedTransformation := emaBlend solvers state.estimatedTransformation candidate }
    else
      { state with
        blendFilterLastUpdateTime := state.lastSampleTime
        blendFilter := filter
        estimatedTransformation := ⟨solvers.yawRotation filter.yaw, filter.translation⟩ }
  else
    { state with
      estimatedTransformation := emaBlend solvers state.estimatedTransformation candidate }

/-- The first calibration seeds the filter; a rapid correction does not. -/
def snap (solvers : Solvers) (candidate : Transform) (usingRelPose : Bool)
    (state : CalibrationCalc) : CalibrationCalc :=
  let snapped := { state with estimatedTransformation := candidate }
  if state.useBlendFilter && !usingRelPose then
    { snapped with
      blendFilter := (measured solvers .reset candidate 0).1
      blendFilterLastUpdateTime := state.lastSampleTime }
  else snapped

def publish (solvers : Solvers) (candidate : Candidate) (state : CalibrationCalc) :
    CalibrationCalc :=
  if state.isValid && !candidate.usingRelPose then blend solvers candidate.calibration state
  else snap solvers candidate.calibration candidate.usingRelPose state

/-- The candidate is accepted. -/
def accept (call : Call) (candidate : Candidate) (state : CalibrationCalc) : CalibrationCalc :=
  let published := publish call.solvers candidate
    { state with
      relativePosCalibrated := state.relativePosCalibrated ||
        decide (candidate.newError < .finite (5 / 1000)) }
  { published with
    isValid := true
    axisVariance := candidate.newVariance
    refToTargetPose :=
      if candidate.usingRelPose then state.refToTargetPose
      else call.solvers.estimateRefToTargetPose state.samples published.estimatedTransformation
    consecutiveRejections := 0
    lastSuccessfulIncrementalTime := state.lastSampleTime
    rejectReasonTag := ""
    healthyHoldAnnotated := false }

/-! ### The watchdog -/

def kMaxConsecutiveRejections : Nat := 50

def kHealthyPriorErrorMaxMeters : Double := .finite (5 / 1000)

/-- `IsCalibrationHealthy`. -/
def isCalibrationHealthy (isValid : Bool) (priorError : Double) : Bool :=
  isValid && decide (priorError < kHealthyPriorErrorMaxMeters)

/-- The exits of `ComputeIncremental`. Two accept a candidate, the second with the answer to `lerp`;
the others are too few samples, an early return of the static recalibration, a rejection, the hold
of a healthy calibration, and the clear of the watchdog. -/
inductive Exit where
  | tooFew
  | locked (calibration : Transform)
  | staticRejected
  | accepted (candidate : Candidate) (lerp : Bool)
  | rejected
  | held
  | cleared

/-- What `ComputeIncremental` returns. -/
def Exit.returned : Exit → Bool
  | .locked _ | .accepted _ _ => true
  | .tooFew | .staticRejected | .rejected | .held | .cleared => false

/-- The watchdog has cleared the calibration. -/
def Exit.clears : Exit → Bool
  | .cleared => true
  | .tooFew | .locked _ | .staticRejected | .accepted _ _ | .rejected | .held => false

/-- The candidate is rejected. -/
def reject (prior : Double) (state : CalibrationCalc) : Exit × CalibrationCalc :=
  let rejected := { state with consecutiveRejections := state.consecutiveRejections + 1 }
  if state.isValid ∧ kMaxConsecutiveRejections ≤ rejected.consecutiveRejections then
    if isCalibrationHealthy state.isValid prior then
      (.held, { rejected with
        healthyHoldAnnotated := true
        consecutiveRejections := kMaxConsecutiveRejections - 5
        rejectReasonTag := "healthy_below_floor" })
    else
      (.cleared, CalibrationCalc.clear
        { rejected with isValid := false, watchdogResets := rejected.watchdogResets + 1 })
  else (.rejected, rejected)

/-- The candidate that reaches the decision, and the solver by then. -/
def attempt (call : Call) (state : CalibrationCalc) : Candidate × CalibrationCalc :=
  if tryStatic call state then (staticCandidate call state, state)
  else
    let (fresh, tag) := freshCandidate call state
    (rapidCorrect call state fresh, diagnosed call tag state)

/-- The decision about the candidate. -/
def settle (call : Call) (prior : Double) (candidate : Candidate) (state : CalibrationCalc) :
    Exit × CalibrationCalc :=
  if candidate.newCalibrationValid then
    (.accepted candidate state.isValid, accept call candidate state)
  else reject prior state

/-- `ComputeIncremental`. -/
def computeIncremental (call : Call) (state : CalibrationCalc) : Exit × CalibrationCalc :=
  if state.samples.length < minimumSamples then (.tooFew, state)
  else if state.lockRelativePosition && relPoseValid call state then
    (.locked (byRelPose call state),
      { state with isValid := true, estimatedTransformation := byRelPose call state })
  else if tryStatic call state && staticRejects call state then (.staticRejected, state)
  else
    let (candidate, attempted) := attempt call state
    settle call (priorCalibrationError call state) candidate attempted

/-! ### Runs -/

/-- What its callers do to a solver. -/
inductive Event where
  | configure (enableStaticRecalibration lockRelativePosition useBlendFilter : Bool)
  | pushSample (sample : Sample)
  | shiftSample
  | clear
  | freezeRotationPhaseSamples
  | setRelativeTransformation (transform : Transform) (calibrated : Bool)
  | computeOneshot (solvers : Solvers) (ignoreOutliers : Bool)
  | computeIncremental (call : Call)

def step (state : CalibrationCalc) : Event → Option CalibrationCalc
  | .configure enableStaticRecalibration lockRelativePosition useBlendFilter =>
    some { state with
      enableStaticRecalibration := enableStaticRecalibration
      lockRelativePosition := lockRelativePosition
      useBlendFilter := useBlendFilter }
  | .pushSample sample => some (state.pushSample sample)
  | .shiftSample => some state.shiftSample
  | .clear => some state.clear
  | .freezeRotationPhaseSamples => some state.freezeRotationPhaseSamples
  | .setRelativeTransformation transform calibrated =>
    some (state.setRelativeTransformation transform calibrated)
  | .computeOneshot solvers ignoreOutliers =>
    some (Incremental.computeOneshot solvers ignoreOutliers state).2
  | .computeIncremental call => some (Incremental.computeIncremental call state).2

/-! ### Exits -/

/-- Before the decision only the condition ratios and the tag change. -/
theorem attempt_state (call : Call) (state : CalibrationCalc) :
    ∃ rotationRatio translationRatio tag, (attempt call state).2 =
      { state with
        rotationConditionRatio := rotationRatio
        translationConditionRatio := translationRatio
        rejectReasonTag := tag } := by
  unfold attempt
  split
  · exact ⟨_, _, _, rfl⟩
  · exact ⟨_, _, _, rfl⟩

/-- What a call does: it returns early, accepts the relative pose under the lock, or settles a
candidate. -/
theorem computeIncremental_cases (call : Call) (state : CalibrationCalc) :
    (state.samples.length < minimumSamples ∧ computeIncremental call state = (.tooFew, state)) ∨
    ((state.lockRelativePosition = true ∧ relPoseValid call state = true) ∧
      computeIncremental call state = (.locked (byRelPose call state),
        { state with isValid := true, estimatedTransformation := byRelPose call state })) ∨
    ((tryStatic call state = true ∧ staticRejects call state = true) ∧
      computeIncremental call state = (.staticRejected, state)) ∨
    computeIncremental call state = settle call (priorCalibrationError call state)
      (attempt call state).1 (attempt call state).2 := by
  unfold computeIncremental
  by_cases few : state.samples.length < minimumSamples
  · rw [if_pos few]
    exact Or.inl ⟨few, rfl⟩
  rw [if_neg few]
  by_cases locked : (state.lockRelativePosition && relPoseValid call state) = true
  · rw [if_pos locked]
    exact Or.inr (Or.inl ⟨Bool.and_eq_true_iff.mp locked, rfl⟩)
  rw [if_neg locked]
  by_cases rejected : (tryStatic call state && staticRejects call state) = true
  · rw [if_pos rejected]
    exact Or.inr (Or.inr (Or.inl ⟨Bool.and_eq_true_iff.mp rejected, rfl⟩))
  rw [if_neg rejected]
  exact Or.inr (Or.inr (Or.inr rfl))

/-- How a candidate is settled. -/
theorem settle_cases (call : Call) (prior : Double) (candidate : Candidate)
    (state : CalibrationCalc) :
    (candidate.newCalibrationValid = true ∧ settle call prior candidate state =
      (.accepted candidate state.isValid, accept call candidate state)) ∨
    (candidate.newCalibrationValid = false ∧ settle call prior candidate state =
      reject prior state) := by
  unfold settle
  cases valid : candidate.newCalibrationValid with
  | true => exact Or.inl ⟨rfl, if_pos rfl⟩
  | false => exact Or.inr ⟨rfl, if_neg Bool.false_ne_true⟩

/-- A rejection counts itself, holds a healthy calibration, or clears one that is not. -/
theorem reject_cases (prior : Double) (state : CalibrationCalc) :
    (¬(state.isValid = true ∧ kMaxConsecutiveRejections ≤ state.consecutiveRejections + 1) ∧
      reject prior state = (.rejected,
        { state with consecutiveRejections := state.consecutiveRejections + 1 })) ∨
    ((kMaxConsecutiveRejections ≤ state.consecutiveRejections + 1 ∧
        isCalibrationHealthy state.isValid prior = true) ∧
      reject prior state = (.held, { state with
        healthyHoldAnnotated := true
        consecutiveRejections := kMaxConsecutiveRejections - 5
        rejectReasonTag := "healthy_below_floor" })) ∨
    ((kMaxConsecutiveRejections ≤ state.consecutiveRejections + 1 ∧ state.isValid = true ∧
        isCalibrationHealthy state.isValid prior = false) ∧
      reject prior state = (.cleared, CalibrationCalc.clear
        { state with
          consecutiveRejections := state.consecutiveRejections + 1
          isValid := false
          watchdogResets := state.watchdogResets + 1 })) := by
  unfold reject
  dsimp only
  by_cases full : state.isValid = true ∧ kMaxConsecutiveRejections ≤ state.consecutiveRejections + 1
  · rw [if_pos full]
    cases healthy : isCalibrationHealthy state.isValid prior with
    | true => exact Or.inr (Or.inl ⟨⟨full.2, rfl⟩, rfl⟩)
    | false => exact Or.inr (Or.inr ⟨⟨full.2, full.1, rfl⟩, rfl⟩)
  · rw [if_neg full]
    exact Or.inl ⟨full, rfl⟩

theorem reject_exit (prior : Double) (state : CalibrationCalc) :
    (reject prior state).1 = .rejected ∨ (reject prior state).1 = .held ∨
      (reject prior state).1 = .cleared := by
  rcases reject_cases prior state with ⟨_, rejected⟩ | ⟨_, rejected⟩ | ⟨_, rejected⟩
  · exact Or.inl (congrArg Prod.fst rejected)
  · exact Or.inr (Or.inl (congrArg Prod.fst rejected))
  · exact Or.inr (Or.inr (congrArg Prod.fst rejected))

end PairDriver.Incremental
