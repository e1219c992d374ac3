/-
This file looks at what `ComputeIncremental` and `ComputeOneshot` accept and at what they
leave alone.

A solve that returns false changes nothing of the calibration unless the watchdog clears
it, and the frozen samples are gone from the buffer when a one-shot solve returns.

The rapid correction accepts the relative pose by its error only. A call accepts what
`ValidateCalibration` has rejected, or what is above the error limit of the relative
pose, exactly when that correction takes such a pose.
-/

import PairDriver.IncrementalSolve

namespace PairDriver.Incremental

/-! ### Rejected solves -/

/-- The calibration of a solver is as before, and so are its samples. -/
structure Intact (before after : CalibrationCalc) : Prop where
  estimatedTransformation : after.estimatedTransformation = before.estimatedTransformation
  isValid : after.isValid = before.isValid
  refToTargetPose : after.refToTargetPose = before.refToTargetPose
  relativePosCalibrated : after.relativePosCalibrated = before.relativePosCalibrated
  axisVariance : after.axisVariance = before.axisVariance
  blendFilter : after.blendFilter = before.blendFilter
  blendFilterLastUpdateTime : after.blendFilterLastUpdateTime = before.blendFilterLastUpdateTime
  samples : after.samples = before.samples
  rotationFrozen : after.rotationFrozen = before.rotationFrozen

theorem Intact.refl (state : CalibrationCalc) : Intact state state :=
  ⟨rfl, rfl, rfl, rfl, rfl, rfl, rfl, rfl, rfl⟩

theorem attempt_intact (call : Call) (state : CalibrationCalc) :
    Intact state (attempt call state).2 := by
  obtain ⟨rotationRatio, translationRatio, tag, attempted⟩ := attempt_state call state
  rw [attempted]
  exact ⟨rfl, rfl, rfl, rfl, rfl, rfl, rfl, rfl, rfl⟩

/-- A rejection counts itself; only the watchdog's clear touches the calibration. -/
theorem reject_intact (prior : Double) {before state : CalibrationCalc}
    (intact : Intact before state) (kept : (reject prior state).1.clears = false) :
    Intact before (reject prior state).2 := by
  obtain ⟨estimated, valid, pose, calibrated, variance, filter, time, samples, frozen⟩ := intact
  rcases reject_cases prior state with ⟨_, rejected⟩ | ⟨_, rejected⟩ | ⟨_, rejected⟩
  · rw [rejected]
    exact ⟨estimated, valid, pose, calibrated, variance, filter, time, samples, frozen⟩
  · rw [rejected]
    exact ⟨estimated, valid, pose, calibrated, variance, filter, time, samples, frozen⟩
  · rw [rejected] at kept
    cases kept

theorem computeIncremental_intact (call : Call) (state : CalibrationCalc)
    (refused : (computeIncremental call state).1.returned = false)
    (kept : (computeIncremental call state).1.clears = false) :
    Intact state (computeIncremental call state).2 := by
  rcases computeIncremental_cases call state with
    ⟨_, solved⟩ | ⟨_, solved⟩ | ⟨_, solved⟩ | solved
  · rw [solved]
    exact Intact.refl state
  · rw [solved] at refused
    cases refused
  · rw [solved]
    exact Intact.refl state
  · rcases settle_cases call (priorCalibrationError call state) (attempt call state).1
      (attempt call state).2 with ⟨_, settled⟩ | ⟨_, settled⟩
    · rw [solved, settled] at refused
      cases refused
    · rw [solved, settled] at kept ⊢
      exact reject_intact _ (attempt_intact call state) kept

theorem oneshotOnSplice_samples (solvers : Solvers) (ignoreOutliers : Bool)
    (state : CalibrationCalc) :
    (oneshotOnSplice solvers ignoreOutliers state).2.samples = state.samples := by
  unfold oneshotOnSplice
  split
  · rfl
  · dsimp only
    split
    · rfl
    · rfl

/-- The splice is undone whatever the solve returns. -/
theorem computeOneshot_samples (solvers : Solvers) (ignoreOutliers : Bool)
    (state : CalibrationCalc) :
    (computeOneshot solvers ignoreOutliers state).2.samples = state.samples := by
  show (oneshotOnSplice solvers ignoreOutliers
    { state with samples := state.rotationFrozen ++ state.samples }).2.samples.drop _ = _
  rw [oneshotOnSplice_samples, List.drop_left]

theorem computeOneshot_intact (solvers : Solvers) (ignoreOutliers : Bool)
    (state : CalibrationCalc)
    (refused : (computeOneshot solvers ignoreOutliers state).1 = false) :
    Intact state (computeOneshot solvers ignoreOutliers state).2 := by
  have samples := computeOneshot_samples solvers ignoreOutliers state
  unfold computeOneshot oneshotOnSplice at refused samples ⊢
  dsimp only at refused samples ⊢
  split
  · rename_i few
    rw [if_pos few] at samples
    exact ⟨rfl, rfl, rfl, rfl, rfl, rfl, rfl, samples, rfl⟩
  · rename_i enough
    rw [if_neg enough] at refused samples
    split
    · rename_i degenerate
      rw [if_pos degenerate] at samples
      exact ⟨rfl, rfl, rfl, rfl, rfl, rfl, rfl, samples, rfl⟩
    · rename_i solved
      rw [if_neg solved] at refused
      cases refused

/-- A solve that returns false leaves the calibration and the samples as they were, unless the
watchdog clears them; a one-shot solve leaves the samples as they were in any case. -/
theorem rejected_solve_is_intact (state : CalibrationCalc) :
    (∀ call, (computeIncremental call state).1.returned = false →
      (computeIncremental call state).1.clears = false →
      Intact state (computeIncremental call state).2) ∧
    ∀ solvers ignoreOutliers,
      ((computeOneshot solvers ignoreOutliers state).1 = false →
        Intact state (computeOneshot solvers ignoreOutliers state).2) ∧
      (computeOneshot solvers ignoreOutliers state).2.samples = state.samples :=
  ⟨fun call => computeIncremental_intact call state, fun solvers ignoreOutliers =>
    ⟨computeOneshot_intact solvers ignoreOutliers state,
      computeOneshot_samples solvers ignoreOutliers state⟩⟩

/-! ### Accepted candidates -/

/-- The call comes to the rapid correction and takes the relative pose. -/
def rapidlyCorrects (call : Call) (state : CalibrationCalc) : Bool :=
  let fresh := (freshCandidate call state).1
  decide (minimumSamples ≤ state.samples.length) &&
    !(state.lockRelativePosition && relPoseValid call state) && !tryStatic call state &&
    (!fresh.newCalibrationValid && fresh.shouldRapidCorrect && relPoseBetter call state)

/-- What an exit accepts has been validated in the call, and a relative pose it accepts outside the
locked path is not above the error limit. -/
def Exit.Validated (call : Call) (state : CalibrationCalc) : Exit → Prop
  | .locked calibration => call.solvers.validateCalibration state.samples calibration = true
  | .accepted candidate _ =>
    candidate.validation = some true ∧
      (candidate.usingRelPose = true → ¬call.relPoseMaxError < candidate.newError)
  | .tooFew | .staticRejected | .rejected | .held | .cleared => True

instance (call : Call) (state : CalibrationCalc) (exit : Exit) :
    Decidable (exit.Validated call state) :=
  match exit with
  | .locked _ => inferInstanceAs (Decidable (_ = _))
  | .accepted _ _ => inferInstanceAs (Decidable (_ ∧ (_ → _)))
  | .tooFew | .staticRejected | .rejected | .held | .cleared => isTrue trivial

def AcceptsValidated (call : Call) (state : CalibrationCalc) : Prop :=
  (computeIncremental call state).1.Validated call state

instance (call : Call) (state : CalibrationCalc) : Decidable (AcceptsValidated call state) :=
  inferInstanceAs (Decidable (Exit.Validated _ _ _))

/-- The rapid correction takes a relative pose that was computed, validates, and is not above the
error limit. -/
def RapidCorrectionSound (call : Call) (state : CalibrationCalc) : Prop :=
  state.enableStaticRecalibration = true ∧ relPoseValid call state = true ∧
    ¬call.relPoseMaxError < relPoseError call state

/-- What a candidate records is what `ValidateCalibration` answers for it. -/
def Candidate.Recorded (call : Call) (state : CalibrationCalc) (candidate : Candidate) : Prop :=
  ∀ valid, candidate.validation = some valid →
    call.solvers.validateCalibration state.samples candidate.calibration = valid

theorem freshCandidate_recorded (call : Call) (state : CalibrationCalc) :
    (freshCandidate call state).1.Recorded call state := by
  have gated : (gatedCandidate call state).1.Recorded call state := by
    unfold gatedCandidate
    dsimp only
    split
    · exact fun _ recorded => nomatch recorded
    · exact fun _ recorded => Option.some.inj recorded
  unfold freshCandidate
  dsimp only
  split
  · exact gated
  · exact gated

theorem attempt_recorded (call : Call) (state : CalibrationCalc) :
    (attempt call state).1.Recorded call state := by
  unfold attempt
  split
  · rename_i static
    intro valid recorded
    exact (Bool.and_eq_true_iff.mp (Bool.and_eq_true_iff.mp static).1).2.trans
      (Option.some.inj recorded)
  · dsimp only
    unfold rapidCorrect
    split
    · intro valid recorded
      dsimp only at recorded ⊢
      split at recorded
      · rename_i enabled
        rw [if_pos enabled]
        exact Option.some.inj recorded
      · cases recorded
    · exact freshCandidate_recorded call state

/-- A candidate that is accepted as validated does validate. -/
theorem accepted_validates {call : Call} {state : CalibrationCalc} {candidate : Candidate}
    {lerp : Bool} (accepted : (computeIncremental call state).1 = .accepted candidate lerp)
    (recorded : candidate.validation = some true) :
    call.solvers.validateCalibration state.samples candidate.calibration = true := by
  rcases computeIncremental_cases call state with
    ⟨_, solved⟩ | ⟨_, solved⟩ | ⟨_, solved⟩ | solved
  · rw [solved] at accepted
    cases accepted
  · rw [solved] at accepted
    cases accepted
  · rw [solved] at accepted
    cases accepted
  · rcases settle_cases call (priorCalibrationError call state) (attempt call state).1
      (attempt call state).2 with ⟨_, settled⟩ | ⟨_, settled⟩
    · rw [solved, settled] at accepted
      obtain rfl := (Exit.accepted.inj accepted).1
      exact attempt_recorded call state true recorded
    · rw [solved, settled] at accepted
      rcases reject_exit (priorCalibrationError call state) (attempt call state).2 with
        exit | exit | exit
      all_goals
        rw [exit] at accepted
        cases accepted

/-- A candidate that the gates leave valid is a fresh one that validated. -/
theorem gatedCandidate_valid (call : Call) (state : CalibrationCalc) :
    (gatedCandidate call state).1.usingRelPose = false ∧
      ((gatedCandidate call state).1.newCalibrationValid = true →
        (gatedCandidate call state).1.validation = some true) := by
  unfold gatedCandidate
  dsimp only
  split
  · exact ⟨rfl, nofun⟩
  · exact ⟨rfl, fun valid => congrArg some valid⟩

theorem freshCandidate_valid (call : Call) (state : CalibrationCalc) :
    (freshCandidate call state).1.usingRelPose = false ∧
      ((freshCandidate call state).1.newCalibrationValid = true →
        (freshCandidate call state).1.validation = some true) := by
  unfold freshCandidate
  dsimp only
  split
  · exact ⟨(gatedCandidate_valid call state).1, nofun⟩
  · exact gatedCandidate_valid call state

/-- An early return of the static recalibration is what keeps its error under the limit. -/
theorem staticCandidate_below {call : Call} {state : CalibrationCalc}
    (kept : staticRejects call state = false) :
    ¬call.relPoseMaxError < (staticCandidate call state).newError := by
  unfold staticRejects at kept
  exact of_decide_eq_false (Bool.or_eq_false_iff.mp kept).2

/-- What the candidate of a call that is not static is when it is accepted: the fresh one, or the
relative pose of the rapid correction. -/
theorem rapidCorrect_cases (call : Call) (state : CalibrationCalc) (candidate : Candidate) :
    ((!candidate.newCalibrationValid && candidate.shouldRapidCorrect &&
        relPoseBetter call state) = true ∧
      (rapidCorrect call state candidate).newCalibrationValid = true ∧
      (rapidCorrect call state candidate).usingRelPose = true ∧
      (rapidCorrect call state candidate).newError = relPoseError call state ∧
      (rapidCorrect call state candidate).validation =
        if state.enableStaticRecalibration then some (relPoseValid call state) else none) ∨
    ((!candidate.newCalibrationValid && candidate.shouldRapidCorrect &&
        relPoseBetter call state) = false ∧
      rapidCorrect call state candidate = candidate) := by
  unfold rapidCorrect
  split
  · rename_i taken
    exact Or.inl ⟨taken, rfl, rfl, rfl, rfl⟩
  · rename_i passed
    exact Or.inr ⟨Bool.eq_false_iff.mpr passed, rfl⟩

/-- Whatever is decided about the fresh candidate, it is accepted only if it validated. -/
theorem settle_fresh_validated (call : Call) (state after : CalibrationCalc) (prior : Double) :
    (settle call prior (freshCandidate call state).1 after).1.Validated call state := by
  obtain ⟨fresh, validated⟩ := freshCandidate_valid call state
  rcases settle_cases call prior (freshCandidate call state).1 after with
    ⟨valid, settled⟩ | ⟨_, settled⟩
  · rw [settled]
    refine ⟨validated valid, fun relative => ?_⟩
    rw [fresh] at relative
    cases relative
  · rw [settled]
    rcases reject_exit prior after with exit | exit | exit
    all_goals
      rw [exit]
      trivial

/-- A relative pose that records its validation only if the static recalibration is enabled is
accepted as a validated one exactly if it is sound. -/
theorem accepted_relPose_validated_iff {call : Call} {state : CalibrationCalc}
    {candidate : Candidate} {lerp : Bool} (relative : candidate.usingRelPose = true)
    (error : candidate.newError = relPoseError call state)
    (validation : candidate.validation =
      if state.enableStaticRecalibration then some (relPoseValid call state) else none) :
    (Exit.accepted candidate lerp).Validated call state ↔ RapidCorrectionSound call state := by
  dsimp only [Exit.Validated]
  rw [relative, error, validation]
  unfold RapidCorrectionSound
  cases static : state.enableStaticRecalibration with
  | true =>
    rw [if_pos rfl, Option.some_inj]
    exact ⟨fun sound => ⟨rfl, sound.1, sound.2 rfl⟩, fun sound => ⟨sound.2.1, fun _ => sound.2.2⟩⟩
  | false =>
    rw [if_neg Bool.false_ne_true]
    exact ⟨fun sound => absurd sound.1 nofun, fun sound => absurd sound.1 nofun⟩

/-- A call accepts validated candidates only, exactly if a relative pose that its rapid correction
takes is sound. -/
theorem acceptsValidated_iff (call : Call) (state : CalibrationCalc) :
    AcceptsValidated call state ↔
      (rapidlyCorrects call state = true → RapidCorrectionSound call state) := by
  unfold AcceptsValidated rapidlyCorrects computeIncremental
  dsimp only
  by_cases few : state.samples.length < minimumSamples
  · rw [if_pos few, decide_eq_false (not_le.mpr few)]
    exact iff_of_true trivial nofun
  rw [if_neg few, decide_eq_true (not_lt.mp few), Bool.true_and]
  cases locked : state.lockRelativePosition && relPoseValid call state with
  | true =>
    exact iff_of_true (Bool.and_eq_true_iff.mp locked).2 nofun
  | false =>
    rw [if_neg Bool.false_ne_true, Bool.not_false, Bool.true_and]
    cases static : tryStatic call state with
    | true =>
      have attempted : (attempt call state).1 = staticCandidate call state := by
        rw [attempt, if_pos static]
      cases rejected : staticRejects call state with
      | true => exact iff_of_true trivial nofun
      | false =>
        refine iff_of_true ?_ nofun
        rw [Bool.and_false, if_neg Bool.false_ne_true, attempted]
        exact ⟨rfl, fun _ => staticCandidate_below rejected⟩
    | false =>
      have attempted : attempt call state =
          (rapidCorrect call state (freshCandidate call state).1,
            diagnosed call (freshCandidate call state).2 state) := by
        rw [attempt, if_neg (Bool.eq_false_iff.mp static)]
      rw [Bool.false_and, if_neg Bool.false_ne_true, Bool.not_false, Bool.true_and, attempted]
      dsimp only
      rcases rapidCorrect_cases call state (freshCandidate call state).1 with
        ⟨taken, valid, relative, error, validation⟩ | ⟨passed, same⟩
      · rw [taken, settle, if_pos valid, forall_prop_of_true rfl]
        exact accepted_relPose_validated_iff relative error validation
      · rw [passed, same]
        exact iff_of_true (settle_fresh_validated call state _ _) nofun

/-! ### Calls -/

def stillSample : Sample where
  ref := ⟨1, 0⟩
  target := ⟨1, 0⟩
  valid := true
  timestamp := 0
  refSpeed := 0
  targetSpeed := 0
  pairedMotionValid := true

/-- The transform that moves along the first axis. -/
def Transform.along (distance : Rat) : Transform := ⟨1, ![distance, 0, 0]⟩

/-- Solvers that measure a calibration by its first coordinate, against a gate of five millimetres.
The relative pose and the fresh solve give what they are told to. -/
def measuringSolvers (relative fresh : Rat) (conditionRatio : Double) : Solvers where
  calibrateByRelPose _ _ := .along relative
  computeCalibration _ _ := ⟨.along fresh, conditionRatio, conditionRatio⟩
  computeAxisVariance _ _ := .finite 1
  computeRefToTargetOffset _ _ := 0
  retargetingErrorRMS _ _ calibration := .finite (calibration.translation 0)
  rmsThreshold _ := .finite (5 / 1000)
  estimateRefToTargetPose _ _ := .identity
  twistYaw _ := 0
  yawRotation _ := 1
  wrapAngle yaw := yaw
  slerp prior _ _ := prior
  uninitialized := .identity

/-- A call with the thresholds of a continuous calibration. -/
def continuousCall (solvers : Solvers) : Call where
  solvers := solvers
  threshold := .finite (3 / 2)
  relPoseMaxError := .finite (5 / 1000)
  ignoreOutliers := false

/-- A valid calibration that is off by a distance along the first axis. -/
def offBy (distance : Rat) : CalibrationCalc where
  estimatedTransformation := .along distance
  isValid := true
  samples := List.replicate 6 stillSample

/-- While the motion is too planar for a fresh solve, a relative pose that is off by twenty
millimetres replaces a calibration that is off by a metre. -/
theorem rapid_correction_accepts_invalid :
    ¬AcceptsValidated (continuousCall (measuringSolvers (2 / 100) 0 (.finite 0))) (offBy 1) := by
  decide +kernel

/-- A fresh solve at fault leaves a calibration that is off by ten millimetres as it is. -/
theorem rejected_solve_is_intact_offBy :
    Intact (offBy (1 / 100))
      (computeIncremental (continuousCall (measuringSolvers 1 0 (.finite 0)))
        (offBy (1 / 100))).2 :=
  (rejected_solve_is_intact (offBy (1 / 100))).1 _ (by decide +kernel) (by decide +kernel)

end PairDriver.Incremental
