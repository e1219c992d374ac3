/-
This file models the automatic recovery from a relocalized headset and its undo:
the gates of the recovery, what it clears in the context and in the solver, what
the snapshot keeps of that, and what `UndoLastAutoRecovery` puts back.

The snapshot leaves out the calibrated translation and rotation, and the undo does
not give the relative pose back to the solver. So the undo restores everything
exactly when there was nothing of the two to lose.
-/

import PairDriver.CalibrationTick
import PairDriver.TransformAgreement

namespace PairDriver.AutoRecovery

open Calibration (CalibrationState)
open Provider ProfileScan

/-! ### State -/

section Recovery

variable {Vec Rot Pose : Type}

/-- The part of the solver a restart touches. -/
structure CalibrationCalc (Pose : Type) where
  estimatedTransformation : Pose
  isValid : Bool
  samples : Nat
  refToTargetPose : Pose
  relativePosCalibrated : Bool
  lockRelativePosition : Bool

structure AutoRecoverySnapshot (Pose : Type) where
  refToTargetPose : Pose
  relativePosCalibrated : Bool
  hasAppliedCalibrationResult : Bool

/-- The part of the relocalization detector the recovery reads and writes. A snapshot that is not
valid is none. -/
structure RelocalizationDetector (Pose : Type) where
  lastHmdInvalidTime : Rat := -1000000000
  lastAutoRecoverTime : Rat := -1000000000
  lastAutoRecoverSnapshot : Option (AutoRecoverySnapshot Pose) := none
  autoRecoverBannerDismissed : Bool := false

/-- The overlay: the context a scan reads, the fields the recovery adds to it, the solver and the
detector. -/
structure Overlay (Vec Pose : Type) where
  context : ProfileScan.Context Vec
  state : CalibrationState
  refToTargetPose : Pose
  relativePosCalibrated : Bool
  hasAppliedCalibrationResult : Bool
  lockRelativePosition : Bool
  calibration : CalibrationCalc Pose
  detector : RelocalizationDetector Pose

/-- The context the next scan works with. -/
def Overlay.scanContext (overlay : Overlay Vec Pose) : ProfileScan.Context Vec :=
  { overlay.context with
    enabled := overlay.context.validProfile
    continuous := overlay.state == .continuous }

/-! ### Starting -/

variable (identity : Pose)

/-- `CalibrationCalc::Clear`. -/
def CalibrationCalc.clear (calibration : CalibrationCalc Pose) : CalibrationCalc Pose :=
  { calibration with
    estimatedTransformation := identity
    isValid := false
    samples := 0
    refToTargetPose := identity
    relativePosCalibrated := false }

/-- What `AssignTargets` does to the target, given the device it finds for the standby device. -/
def assignTarget (found targetID : Int) : Int :=
  if targetID < 0 then found else targetID

/-- `StartCalibration`. -/
def startCalibration (found : Int) (overlay : Overlay Vec Pose) : Overlay Vec Pose :=
  { overlay with
    context := { overlay.context with targetID := assignTarget found overlay.context.targetID }
    hasAppliedCalibrationResult := false
    state := .begin
    calibration := overlay.calibration.clear identity }

/-- `StartContinuousCalibration`. -/
def startContinuousCalibration (found : Int) (overlay : Overlay Vec Pose) : Overlay Vec Pose :=
  let started := startCalibration identity found overlay
  { started with
    state := .continuous
    calibration := { started.calibration with
      refToTargetPose := started.refToTargetPose
      relativePosCalibrated := started.relativePosCalibrated
      lockRelativePosition := started.lockRelativePosition } }

/-! ### Recovery and undo -/

def kRelocAutoRecoverThresholdM : Rat := 3 / 10
def kRelocAutoRecoverStartupSec : Rat := 30
def kRelocAutoRecoverThrottleSec : Rat := 30
def kRelocAutoRecoverPostStallSec : Rat := 10

/-- The gates of the recovery; `fired` tells whether the detector has seen a relocalization, and
`hmdDelta` how far the headset jumped. -/
def Overlay.autoRecovers (fired : Bool) (hmdDelta now : Rat) (overlay : Overlay Vec Pose) : Bool :=
  fired && kRelocAutoRecoverThresholdM ≤ hmdDelta && overlay.state.isContinuous &&
    kRelocAutoRecoverStartupSec ≤ now &&
    kRelocAutoRecoverThrottleSec ≤ now - overlay.detector.lastAutoRecoverTime &&
    !(now - overlay.detector.lastHmdInvalidTime < kRelocAutoRecoverPostStallSec)

variable [Zero Vec] [Add Vec]

/-- `RecoverFromWedgedCalibration`. -/
def recoverFromWedgedCalibration (found : Int) (overlay : Overlay Vec Pose) : Overlay Vec Pose :=
  startContinuousCalibration identity found { overlay with
    calibration := overlay.calibration.clear identity
    refToTargetPose := identity
    relativePosCalibrated := false
    hasAppliedCalibrationResult := false
    context := { overlay.context with
      calibratedTranslation := 0
      calibratedRotation := 0
      snapNextProfileApply := true } }

/-- The recovery once its gates are open. -/
def autoRecover (found : Int) (now : Rat) (overlay : Overlay Vec Pose) : Overlay Vec Pose :=
  let recovered := recoverFromWedgedCalibration identity found { overlay with
    detector := { overlay.detector with
      lastAutoRecoverSnapshot := some ⟨overlay.refToTargetPose, overlay.relativePosCalibrated,
        overlay.hasAppliedCalibrationResult⟩
      autoRecoverBannerDismissed := false } }
  { recovered with detector := { recovered.detector with lastAutoRecoverTime := now } }

/-- `TickHmdRelocalizationDetector` from its gates on. -/
def tickHmdRelocalizationDetector (fired : Bool) (hmdDelta now : Rat) (found : Int)
    (overlay : Overlay Vec Pose) : Overlay Vec Pose :=
  if overlay.autoRecovers fired hmdDelta now then autoRecover identity found now overlay
  else overlay

/-- `UndoLastAutoRecovery`. -/
def undoLastAutoRecovery (overlay : Overlay Vec Pose) : Bool × Overlay Vec Pose :=
  match overlay.detector.lastAutoRecoverSnapshot with
  | none => (false, overlay)
  | some snapshot => (true, { overlay with
      refToTargetPose := snapshot.refToTargetPose
      relativePosCalibrated := snapshot.relativePosCalibrated
      hasAppliedCalibrationResult := snapshot.hasAppliedCalibrationResult
      detector := { overlay.detector with
        lastAutoRecoverSnapshot := none
        autoRecoverBannerDismissed := true } })

/-! ### Between the two -/

/-- What happens while no solve is accepted: the drift corrections nudge the offset, a scan sends
it, a tracker that comes back restarts continuous calibration, and samples are collected. -/
inductive Between (Vec : Type) where
  | nudge (translation rotation : Vec)
  | scan (enabled completed : Bool)
  | restart (found : Int)
  | collect (samples : Nat)

def between (overlay : Overlay Vec Pose) : Between Vec → Overlay Vec Pose
  | .nudge translation rotation => { overlay with
      context := { overlay.context with
        calibratedTranslation := overlay.context.calibratedTranslation + translation
        calibratedRotation := overlay.context.calibratedRotation + rotation } }
  | .scan enabled completed => { overlay with
      context := { overlay.context with
        enabled := enabled
        snapNextProfileApply := overlay.context.snapNextProfileApply && !completed } }
  | .restart found => startContinuousCalibration identity found overlay
  | .collect samples => { overlay with calibration := { overlay.calibration with samples := samples } }

/-- The nudges of the translation, of the rotation, the scans and the assignments, one by one. -/
def nudgeTranslation (translation : Vec) : Between Vec → Vec
  | .nudge amount _ => translation + amount
  | _ => translation

def nudgeRotation (rotation : Vec) : Between Vec → Vec
  | .nudge _ amount => rotation + amount
  | _ => rotation

def isCompletedScan : Between Vec → Bool
  | .scan _ completed => completed
  | _ => false

def nextTarget (targetID : Int) : Between Vec → Int
  | .restart found => assignTarget found targetID
  | _ => targetID

/-! ### The run from the recovery to the undo -/

/-- The context of a scan after an event. -/
def follow (context : ProfileScan.Context Vec) (event : Between Vec) : ProfileScan.Context Vec :=
  { context with
    calibratedTranslation := nudgeTranslation context.calibratedTranslation event
    calibratedRotation := nudgeRotation context.calibratedRotation event
    snapNextProfileApply := context.snapNextProfileApply && !isCompletedScan event
    targetID := nextTarget context.targetID event }

/-- What the recovery leaves behind, and what stays so until a solve is accepted. -/
structure Cleared (overlay : Overlay Vec Pose) : Prop where
  state : overlay.state = .continuous
  refToTargetPose : overlay.refToTargetPose = identity
  relativePosCalibrated : overlay.relativePosCalibrated = false
  constraint : overlay.calibration.refToTargetPose = identity
  unconstrained : overlay.calibration.relativePosCalibrated = false

omit [Zero Vec] in
theorem between_cleared {overlay : Overlay Vec Pose} (cleared : Cleared identity overlay)
    (event : Between Vec) : Cleared identity (between identity overlay event) := by
  cases event with
  | restart found => exact ⟨rfl, cleared.refToTargetPose, cleared.relativePosCalibrated,
      cleared.refToTargetPose, cleared.relativePosCalibrated⟩
  | nudge translation rotation => exact ⟨cleared.state, cleared.refToTargetPose,
      cleared.relativePosCalibrated, cleared.constraint, cleared.unconstrained⟩
  | scan enabled completed => exact ⟨cleared.state, cleared.refToTargetPose,
      cleared.relativePosCalibrated, cleared.constraint, cleared.unconstrained⟩
  | collect samples => exact ⟨cleared.state, cleared.refToTargetPose,
      cleared.relativePosCalibrated, cleared.constraint, cleared.unconstrained⟩

omit [Zero Vec] in
theorem between_scanContext {overlay : Overlay Vec Pose} (cleared : Cleared identity overlay)
    (event : Between Vec) :
    (between identity overlay event).scanContext = follow overlay.scanContext event := by
  cases event with
  | nudge translation rotation => simp [between, follow, Overlay.scanContext, nudgeTranslation,
      nudgeRotation, isCompletedScan, nextTarget]
  | scan enabled completed => simp [between, follow, Overlay.scanContext, nudgeTranslation,
      nudgeRotation, isCompletedScan, nextTarget]
  | restart found => simp [between, follow, Overlay.scanContext, nudgeTranslation, nudgeRotation,
      isCompletedScan, nextTarget, startContinuousCalibration, startCalibration, cleared.state]
  | collect samples => simp [between, follow, Overlay.scanContext, nudgeTranslation,
      nudgeRotation, isCompletedScan, nextTarget]

omit [Zero Vec] in
theorem between_detector (overlay : Overlay Vec Pose) (event : Between Vec) :
    (between identity overlay event).detector = overlay.detector := by
  cases event <;> rfl

omit [Zero Vec] in
/-- A whole stretch without an accepted solve. -/
theorem between_run {overlay : Overlay Vec Pose} (cleared : Cleared identity overlay)
    (events : List (Between Vec)) :
    let after := events.foldl (between identity) overlay
    Cleared identity after ∧ after.scanContext = events.foldl follow overlay.scanContext ∧
      after.detector = overlay.detector := by
  induction events generalizing overlay with
  | nil => exact ⟨cleared, rfl, rfl⟩
  | cons event rest inductionHypothesis =>
    obtain ⟨kept, context, detector⟩ := inductionHypothesis (between_cleared identity cleared event)
    refine ⟨kept, ?_, ?_⟩
    · rw [List.foldl_cons, List.foldl_cons, context, between_scanContext identity cleared event]
    · rw [List.foldl_cons, detector, between_detector]

omit [Zero Vec] in
theorem follow_run (events : List (Between Vec)) (context : ProfileScan.Context Vec) :
    events.foldl follow context = { context with
      calibratedTranslation := events.foldl nudgeTranslation context.calibratedTranslation
      calibratedRotation := events.foldl nudgeRotation context.calibratedRotation
      snapNextProfileApply := context.snapNextProfileApply && !events.any isCompletedScan
      targetID := events.foldl nextTarget context.targetID } := by
  induction events generalizing context with
  | nil => simp
  | cons event rest inductionHypothesis =>
    rw [List.foldl_cons, inductionHypothesis]
    simp [follow, Bool.and_assoc, List.any_cons]

/-- A tick of the detector: what it has seen, the time, and the device found for the target. -/
structure DetectorTick where
  fired : Bool
  hmdDelta : Rat
  now : Rat
  found : Int

def Overlay.recovers (tick : DetectorTick) (overlay : Overlay Vec Pose) : Prop :=
  overlay.autoRecovers tick.fired tick.hmdDelta tick.now = true

/-- The overlay after a tick of the detector, a stretch without an accepted solve, and the undo. -/
def recoverAndUndo (tick : DetectorTick) (events : List (Between Vec))
    (overlay : Overlay Vec Pose) : Overlay Vec Pose :=
  (undoLastAutoRecovery (events.foldl (between identity)
    (tickHmdRelocalizationDetector identity tick.fired tick.hmdDelta tick.now tick.found overlay))).2

omit [Add Vec] in
theorem autoRecover_cleared (found : Int) (now : Rat) (overlay : Overlay Vec Pose) :
    Cleared identity (autoRecover identity found now overlay) :=
  ⟨rfl, rfl, rfl, rfl, rfl⟩

/-- The undo gives the three fields of the snapshot back, and nothing else. -/
theorem recoverAndUndo_spec {tick : DetectorTick} {overlay : Overlay Vec Pose}
    (recovers : overlay.recovers tick) (events : List (Between Vec)) :
    let undone := recoverAndUndo identity tick events overlay
    undone.refToTargetPose = overlay.refToTargetPose ∧
    undone.relativePosCalibrated = overlay.relativePosCalibrated ∧
    undone.hasAppliedCalibrationResult = overlay.hasAppliedCalibrationResult ∧
    undone.calibration.refToTargetPose = identity ∧
    undone.calibration.relativePosCalibrated = false ∧
    undone.detector.lastAutoRecoverSnapshot = none ∧
    undone.scanContext = { overlay.scanContext with
      calibratedTranslation := events.foldl nudgeTranslation 0
      calibratedRotation := events.foldl nudgeRotation 0
      continuous := true
      snapNextProfileApply := !events.any isCompletedScan
      targetID := events.foldl nextTarget
        (assignTarget tick.found overlay.context.targetID) } := by
  obtain ⟨cleared, context, detector⟩ :=
    between_run identity (autoRecover_cleared identity tick.found tick.now overlay) events
  have snapshot : (events.foldl (between identity)
      (autoRecover identity tick.found tick.now overlay)).detector.lastAutoRecoverSnapshot =
      some ⟨overlay.refToTargetPose, overlay.relativePosCalibrated,
        overlay.hasAppliedCalibrationResult⟩ := by
    rw [detector]
    rfl
  have ticked : tickHmdRelocalizationDetector identity tick.fired tick.hmdDelta tick.now tick.found
      overlay = autoRecover identity tick.found tick.now overlay := if_pos recovers
  unfold recoverAndUndo undoLastAutoRecovery
  rw [ticked, snapshot]
  refine ⟨rfl, rfl, rfl, cleared.constraint, cleared.unconstrained, rfl, ?_⟩
  rw [follow_run] at context
  refine Eq.trans context ?_
  simp [autoRecover, recoverFromWedgedCalibration, startContinuousCalibration, startCalibration,
    Overlay.scanContext]

/-! ### What the undo restores -/

/-- The values the recovery takes are those before it: five fields of the context, and the relative
pose the solver is held to. -/
structure SameValues (before after : Overlay Vec Pose) : Prop where
  calibratedTranslation : after.context.calibratedTranslation = before.context.calibratedTranslation
  calibratedRotation : after.context.calibratedRotation = before.context.calibratedRotation
  refToTargetPose : after.refToTargetPose = before.refToTargetPose
  relativePosCalibrated : after.relativePosCalibrated = before.relativePosCalibrated
  hasAppliedCalibrationResult :
    after.hasAppliedCalibrationResult = before.hasAppliedCalibrationResult
  constraint : after.calibration.refToTargetPose = before.calibration.refToTargetPose
  constrained : after.calibration.relativePosCalibrated = before.calibration.relativePosCalibrated

variable (geo : OverlayGeometry Vec Rot)

/-- The next scan sends the same offsets: the same fallbacks, and the same translation, rotation and
scale for every device, whatever was sent for it last. -/
def SameOffsets (before after : Overlay Vec Pose) : Prop :=
  after.scanContext.submissions = before.scanContext.submissions ∧
  ∀ (lastApplied : Option (SetDeviceTransform Vec Rot)) (id : Nat),
    let sent := after.scanContext.transformPayload geo lastApplied id
    let wanted := before.scanContext.transformPayload geo lastApplied id
    sent.translation = wanted.translation ∧ sent.rotation = wanted.rotation ∧
      sent.scale = wanted.scale

/-- The next scan sends the same requests, with how the driver is to move to an offset. -/
def SameRequests (before after : Overlay Vec Pose) : Prop :=
  after.scanContext.submissions = before.scanContext.submissions ∧
  ∀ (lastApplied : Option (SetDeviceTransform Vec Rot)) (id : Nat),
    after.scanContext.transformPayload geo lastApplied id =
      before.scanContext.transformPayload geo lastApplied id

/-- There was nothing to lose: the offset is what the nudges make of zero, and the solver was held
to no relative pose. -/
def NothingToLose (events : List (Between Vec)) (before : Overlay Vec Pose) : Prop :=
  before.context.calibratedTranslation = events.foldl nudgeTranslation 0 ∧
  before.context.calibratedRotation = events.foldl nudgeRotation 0 ∧
  before.calibration.refToTargetPose = identity ∧ before.calibration.relativePosCalibrated = false

/-- A scan in between has used up the snap of the recovery exactly if the offset was blended before
it, and the device that is hidden is the same. -/
def SameManner (found : Int) (events : List (Between Vec)) (before : Overlay Vec Pose) : Prop :=
  (events.any isCompletedScan = true ↔
    before.state = .continuous ∧ before.context.snapNextProfileApply = false) ∧
  (before.context.quashTargetInContinuous = true → ∀ id : Nat,
    ((id : Int) = events.foldl nextTarget (assignTarget found before.context.targetID) ↔
      before.state = .continuous ∧ (id : Int) = before.context.targetID))

theorem sameValues_iff {tick : DetectorTick} {before : Overlay Vec Pose}
    (recovers : before.recovers tick) (events : List (Between Vec)) :
    SameValues before (recoverAndUndo identity tick events before) ↔
      NothingToLose identity events before := by
  obtain ⟨pose, calibrated, applied, constraint, unconstrained, -, context⟩ :=
    recoverAndUndo_spec identity recovers events
  have translation := congrArg ProfileScan.Context.calibratedTranslation context
  have rotation := congrArg ProfileScan.Context.calibratedRotation context
  constructor
  · intro same
    exact ⟨same.calibratedTranslation.symm.trans translation,
      same.calibratedRotation.symm.trans rotation, same.constraint.symm.trans constraint,
      same.constrained.symm.trans unconstrained⟩
  · rintro ⟨noTranslation, noRotation, noConstraint, notConstrained⟩
    exact ⟨translation.trans noTranslation.symm, rotation.trans noRotation.symm, pose, calibrated,
      applied, constraint.trans noConstraint.symm, unconstrained.trans notConstrained.symm⟩

/-- With the same offset, the fallbacks of a scan are the same. -/
theorem submissions_of_nothingToLose {tick : DetectorTick} {before : Overlay Vec Pose}
    (recovers : before.recovers tick) {events : List (Between Vec)}
    (nothing : NothingToLose identity events before) :
    (recoverAndUndo identity tick events before).scanContext.submissions =
      before.scanContext.submissions := by
  obtain ⟨-, -, -, -, -, -, context⟩ := recoverAndUndo_spec identity recovers events
  rw [context, ← nothing.1, ← nothing.2.1]
  rfl

theorem sameOffsets_of_nothingToLose {tick : DetectorTick} {before : Overlay Vec Pose}
    (recovers : before.recovers tick) {events : List (Between Vec)}
    (nothing : NothingToLose identity events before) :
    SameOffsets geo before (recoverAndUndo identity tick events before) := by
  refine ⟨submissions_of_nothingToLose identity recovers nothing, fun lastApplied id => ?_⟩
  obtain ⟨-, -, -, -, -, -, context⟩ := recoverAndUndo_spec identity recovers events
  rw [context, ← nothing.1, ← nothing.2.1]
  exact ⟨rfl, rfl, rfl⟩

/-- The payload of the next scan differs from that of before in how it blends and whether it hides
the target, if nothing was lost. -/
theorem transformPayload_recovered {tick : DetectorTick} {before : Overlay Vec Pose}
    (recovers : before.recovers tick) {events : List (Between Vec)}
    (nothing : NothingToLose identity events before)
    (lastApplied : Option (SetDeviceTransform Vec Rot)) (id : Nat) :
    (recoverAndUndo identity tick events before).scanContext.transformPayload geo lastApplied id =
      { before.scanContext.transformPayload geo lastApplied id with
        lerp := shouldBlendCycle true (!lastApplied.any SetDeviceTransform.enabled)
          (!events.any isCompletedScan)
        quash := (id : Int) =
          events.foldl nextTarget (assignTarget tick.found before.context.targetID) &&
            before.context.quashTargetInContinuous } := by
  obtain ⟨-, -, -, -, -, -, context⟩ := recoverAndUndo_spec identity recovers events
  rw [context, ← nothing.1, ← nothing.2.1]
  rfl

omit [Zero Vec] [Add Vec] in
theorem completedScan_iff (events : List (Between Vec)) (before : Overlay Vec Pose) :
    (events.any isCompletedScan = true ↔ before.state = .continuous ∧
        before.context.snapNextProfileApply = false) ↔
      events.any isCompletedScan =
        (before.state == .continuous && !before.context.snapNextProfileApply) := by
  constructor
  · intro same
    refine Bool.eq_iff_iff.mpr (same.trans ?_)
    simp
  · intro same
    rw [same]
    simp

theorem sameRequests_iff {tick : DetectorTick} {before : Overlay Vec Pose}
    (recovers : before.recovers tick) {events : List (Between Vec)}
    (nothing : NothingToLose identity events before) :
    SameRequests geo before (recoverAndUndo identity tick events before) ↔
      SameManner tick.found events before := by
  have payload := transformPayload_recovered identity geo recovers nothing
  have lerp := completedScan_iff events before
  have wanted : ∀ lastApplied id,
      (before.scanContext.transformPayload geo lastApplied id).quash =
        (before.state == .continuous && decide ((id : Int) = before.context.targetID) &&
          before.context.quashTargetInContinuous) := fun _ _ => rfl
  constructor
  · rintro ⟨-, same⟩
    refine ⟨?_, fun quash id => ?_⟩
    · have blended := congrArg SetDeviceTransform.lerp
        (same (some (before.scanContext.transformPayload geo none 0)) 0)
      rw [payload] at blended
      refine lerp.mpr ?_
      simpa [shouldBlendCycle, Context.transformPayload, Overlay.scanContext] using blended
    · have hidden := congrArg SetDeviceTransform.quash (same none id)
      rw [payload] at hidden
      dsimp only at hidden
      rw [wanted, quash, Bool.and_true] at hidden
      simpa using Bool.eq_iff_iff.mp hidden
  · rintro ⟨blended, hidden⟩
    refine ⟨submissions_of_nothingToLose identity recovers nothing, fun lastApplied id => ?_⟩
    have sameLerp : shouldBlendCycle true (!lastApplied.any SetDeviceTransform.enabled)
        (!events.any isCompletedScan) =
        (before.scanContext.transformPayload geo lastApplied id).lerp := by
      rw [lerp.mp blended]
      simp only [shouldBlendCycle, Context.transformPayload, Overlay.scanContext]
      grind
    have sameQuash : ((id : Int) =
        events.foldl nextTarget (assignTarget tick.found before.context.targetID) &&
          before.context.quashTargetInContinuous) =
        (before.scanContext.transformPayload geo lastApplied id).quash := by
      rw [wanted]
      cases quash : before.context.quashTargetInContinuous with
      | false => simp only [Bool.and_false]
      | true =>
        rw [Bool.and_true, Bool.and_true, Bool.eq_iff_iff]
        simpa using hidden quash id
    rw [payload, sameLerp, sameQuash]

/-- For every overlay in which the recovery fires, whatever happens before the undo while no solve
is accepted: the undo restores the values and the offsets of the next scan exactly if there was
nothing to lose, and the whole requests of the next scan if also the manner is the same. A second
undo returns false and changes nothing. -/
theorem undo_inverts_recovery_iff (tick : DetectorTick) (events : List (Between Vec))
    (before : Overlay Vec Pose) (recovers : before.recovers tick) :
    let undone := recoverAndUndo identity tick events before
    (SameValues before undone ∧ SameOffsets geo before undone ↔
      NothingToLose identity events before) ∧
    (SameValues before undone ∧ SameRequests geo before undone ↔
      NothingToLose identity events before ∧ SameManner tick.found events before) ∧
    undoLastAutoRecovery undone = (false, undone) := by
  refine ⟨⟨?_, ?_⟩, ⟨?_, ?_⟩, ?_⟩
  · rintro ⟨values, -⟩
    exact (sameValues_iff identity recovers events).mp values
  · intro nothing
    exact ⟨(sameValues_iff identity recovers events).mpr nothing,
      sameOffsets_of_nothingToLose identity geo recovers nothing⟩
  · rintro ⟨values, requests⟩
    have nothing := (sameValues_iff identity recovers events).mp values
    exact ⟨nothing, (sameRequests_iff identity geo recovers nothing).mp requests⟩
  · rintro ⟨nothing, manner⟩
    exact ⟨(sameValues_iff identity recovers events).mpr nothing,
      (sameRequests_iff identity geo recovers nothing).mpr manner⟩
  · obtain ⟨-, -, -, -, -, none, -⟩ := recoverAndUndo_spec identity recovers events
    unfold undoLastAutoRecovery
    rw [none]

end Recovery

/-! ### Runs -/

/-- An overlay in continuous calibration with the given offset, whose solver is held to the relative
pose it has found. -/
def calibrated (translation pose : Rat) : Overlay Rat Rat where
  context := { lighthouseProfile with calibratedTranslation := translation, targetID := 3 }
  state := .continuous
  refToTargetPose := pose
  relativePosCalibrated := pose ≠ 0
  hasAppliedCalibrationResult := true
  lockRelativePosition := false
  calibration :=
    { estimatedTransformation := translation
      isValid := true
      samples := 100
      refToTargetPose := pose
      relativePosCalibrated := pose ≠ 0
      lockRelativePosition := false }
  detector := {}

/-- The headset jumps by a metre, a minute into the session. -/
def jump : DetectorTick := ⟨true, 1, 60, 3⟩

/-- A jump before any solve was accepted, and a scan before the undo. -/
theorem undo_inverts_recovery_iff_unsolved :
    (calibrated 0 0).recovers jump ∧
    SameValues (calibrated 0 0) (recoverAndUndo 0 jump [.scan true true] (calibrated 0 0)) ∧
    SameRequests axisOverlay (calibrated 0 0)
      (recoverAndUndo 0 jump [.scan true true] (calibrated 0 0)) := by
  have recovers : (calibrated 0 0).recovers jump := by
    unfold Overlay.recovers
    decide +kernel
  have same := (undo_inverts_recovery_iff 0 axisOverlay jump [.scan true true] (calibrated 0 0)
    recovers).2.1.mpr ⟨⟨rfl, rfl, rfl, rfl⟩, ⟨by decide +kernel, fun _ id => by
      simp [nextTarget, assignTarget, calibrated]⟩⟩
  exact ⟨recovers, same⟩

/-- An offset of seven metres is zero after the undo, and the solver has lost its relative pose. -/
theorem undo_loses_offset :
    (calibrated 700 2).autoRecovers jump.fired jump.hmdDelta jump.now = true ∧
    (recoverAndUndo 0 jump [] (calibrated 700 2)).context.calibratedTranslation = 0 ∧
    (calibrated 700 2).context.calibratedTranslation = 700 ∧
    (recoverAndUndo 0 jump [] (calibrated 700 2)).calibration.refToTargetPose = 0 ∧
    (calibrated 700 2).calibration.refToTargetPose = 2 ∧
    ((recoverAndUndo 0 jump [] (calibrated 700 2)).scanContext.transformPayload axisOverlay
      none 3).translation ≠
      ((calibrated 700 2).scanContext.transformPayload axisOverlay none 3).translation := by
  decide +kernel

end PairDriver.AutoRecovery
