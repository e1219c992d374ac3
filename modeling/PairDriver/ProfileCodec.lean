/-
This file models the profile of the calibration overlay: the part of the
calibration context that is saved, `WriteProfile`, `MigrateProfile`,
`ParseProfile` and `LoadProfile`.

`ParseProfile` assigns the context field by field, and some of its reads throw, so
it is a list of phases here, and a phase that throws hands on the context as it is
at that point. Text and JSON are related by a parameter; the conversions between
number types and between rotations and quaternions are the fields of a platform,
with the laws the code relies on.
-/

import PairDriver.CalibrationTick
import PairDriver.ProfileStore

namespace PairDriver.ProfileCodec

open PairDriver.Calibration (CalibrationState)
open PairDriver.Configuration (Json LoadError field getBool getNumber getString getArray getObject getTriple
  kProfileSchemaVersion profileVersion)

/-! ### Numbers and rotations -/

structure Quat (Number : Type) where
  w : Number
  x : Number
  y : Number
  z : Number
deriving DecidableEq

/-- Doubles, floats and rotations. Widening a float loses nothing, an integer is exact as a double,
and a rotation is that of its quaternion, whichever of the two signs the conversion picks. -/
structure Platform (Number Single Rotation : Type) where
  literal : Rat → Number
  pi : Number
  mul : Number → Number → Number
  div : Number → Number → Number
  narrow : Number → Single
  widen : Single → Number
  truncate : Number → Int
  identity : Rotation
  toQuat : Rotation → Quat Number
  ofQuat : Quat Number → Rotation
  ofEuler : Number → Number → Number → Rotation
  narrow_widen : ∀ single, narrow (widen single) = single
  truncate_literal : ∀ value : Int32, truncate (literal value.toInt) = value.toInt
  ofQuat_toQuat : ∀ rotation, ofQuat (toQuat rotation) = rotation

section Codec

variable {Number Single Rotation : Type} (platform : Platform Number Single Rotation)

/-- A float literal. -/
def Platform.single (value : Rat) : Single := platform.narrow (platform.literal value)

/-- A float literal in a double expression. -/
def Platform.singleAsDouble (value : Rat) : Number := platform.widen (platform.single value)

/-! ### The context -/

structure StandbyDevice where
  trackingSystem : String := ""
  model : String := ""
  serial : String := ""
deriving DecidableEq

structure AlignmentSpeedParams (Number : Type) where
  alignSpeedTiny : Number
  alignSpeedSmall : Number
  alignSpeedLarge : Number
  thrTransTiny : Number
  thrTransSmall : Number
  thrTransLarge : Number
  thrRotTiny : Number
  thrRotSmall : Number
  thrRotLarge : Number
deriving DecidableEq

structure RelativePose (Number Rotation : Type) where
  rotation : Rotation
  translation : Number × Number × Number
deriving DecidableEq

inductive LockMode where
  | off
  | on
  | auto
deriving DecidableEq

def LockMode.raw : LockMode → Int
  | .off => 0
  | .on => 1
  | .auto => 2

inductive Speed where
  | fast
  | slow
  | verySlow
  | auto
deriving DecidableEq

def Speed.raw : Speed → Int
  | .fast => 0
  | .slow => 1
  | .verySlow => 2
  | .auto => 3

/-- A float array of a fixed size. -/
def Floats (Single : Type) (size : Nat) : Type := { floats : List Single // floats.length = size }

instance [DecidableEq Single] (size : Nat) : DecidableEq (Floats Single size) :=
  inferInstanceAs (DecidableEq { floats : List Single // floats.length = size })

/-- The corners of chaperone quads, twelve floats each. -/
def Quads (Single : Type) : Type := { floats : List Single // 12 ∣ floats.length }

instance [DecidableEq Single] : DecidableEq (Quads Single) :=
  inferInstanceAs (DecidableEq { floats : List Single // 12 ∣ floats.length })

structure Chaperone (Single : Type) where
  valid : Bool
  autoApply : Bool
  geometry : Quads Single
  standingCenter : Floats Single 12
  playSpaceSize : Floats Single 2
deriving DecidableEq

/-- The part of an additional calibration that is saved; the lock mode is an integer. -/
structure AdditionalCalibration (Number : Type) where
  targetTrackingSystem : String
  targetStandby : StandbyDevice
  calibratedRotation : Number × Number × Number
  calibratedTranslation : Number × Number × Number
  calibratedScale : Number
  lockMode : Int32
  valid : Bool
  enabled : Bool
deriving DecidableEq

/-- The fields of the calibration context that a profile holds, and the flag of a valid profile. -/
structure Context (Number Single Rotation : Type) where
  state : CalibrationState
  targetStandby : StandbyDevice
  referenceStandby : StandbyDevice
  calibratedRotation : Number × Number × Number
  calibratedTranslation : Number × Number × Number
  calibratedScale : Number
  referenceTrackingSystem : String
  targetTrackingSystem : String
  validProfile : Bool
  quashTargetInContinuous : Bool
  ignoreOutliers : Bool
  jitterThreshold : Single
  requireTriggerPressToApply : Bool
  baseStationDriftCorrectionEnabled : Bool
  continuousCalibrationThreshold : Single
  maxRelativeErrorThreshold : Single
  continuousCalibrationOffset : Number × Number × Number
  targetLatencyOffsetMs : Number
  latencyAutoDetect : Bool
  estimatedLatencyOffsetMs : Number
  useGccPhatLatency : Bool
  useCusumGeometryShift : Bool
  useVelocityAwareWeighting : Bool
  useTukeyBiweight : Bool
  useLegacyMath : Bool
  useUpstreamMath : Bool
  useBlendFilter : Bool
  restLockedYawEnabled : Bool
  predictiveRecoveryEnabled : Bool
  reanchorChiSquareEnabled : Bool
  alignmentSpeedParams : AlignmentSpeedParams Number
  enableStaticRecalibration : Bool
  lockRelativePositionMode : LockMode
  additionalCalibrations : List (AdditionalCalibration Number)
  wizardCompleted : Bool
  recalibrateOnMovement : Bool
  refToTargetPose : RelativePose Number Rotation
  relativePosCalibrated : Bool
  calibrationSpeed : Speed
  chaperone : Chaperone Single
deriving DecidableEq

/-- The alignment parameters `ResetConfig` sets. -/
def resetParams : AlignmentSpeedParams Number where
  thrRotTiny := platform.mul (platform.singleAsDouble (49 / 100))
    (platform.div platform.pi (platform.singleAsDouble 180))
  thrRotSmall := platform.mul (platform.singleAsDouble (1 / 2))
    (platform.div platform.pi (platform.singleAsDouble 180))
  thrRotLarge := platform.mul (platform.singleAsDouble 5)
    (platform.div platform.pi (platform.singleAsDouble 180))
  thrTransTiny := platform.div (platform.singleAsDouble (98 / 100)) (platform.literal 1000)
  thrTransSmall := platform.div (platform.singleAsDouble 1) (platform.literal 1000)
  thrTransLarge := platform.div (platform.singleAsDouble 20) (platform.literal 1000)
  alignSpeedTiny := platform.singleAsDouble 1
  alignSpeedSmall := platform.singleAsDouble 1
  alignSpeedLarge := platform.singleAsDouble 2

def zeroTriple : Number × Number × Number :=
  (platform.literal 0, platform.literal 0, platform.literal 0)

/-- `ResetConfig`. -/
def resetConfig (ctx : Context Number Single Rotation) : Context Number Single Rotation :=
  { ctx with
    alignmentSpeedParams := resetParams platform
    continuousCalibrationThreshold := platform.single (3 / 2)
    maxRelativeErrorThreshold := platform.single (5 / 1000)
    jitterThreshold := platform.single 3
    continuousCalibrationOffset := zeroTriple platform
    enableStaticRecalibration := true
    baseStationDriftCorrectionEnabled := true }

/-- A chaperone that was never loaded. -/
def freshChaperone : Chaperone Single where
  valid := false
  autoApply := true
  geometry := ⟨[], dvd_zero 12⟩
  standingCenter := ⟨[platform.single 1, platform.single 0, platform.single 0, platform.single 0,
    platform.single 0, platform.single 1, platform.single 0, platform.single 0,
    platform.single 0, platform.single 0, platform.single 1, platform.single 0], rfl⟩
  playSpaceSize := ⟨[platform.single 0, platform.single 0], rfl⟩

/-- A freshly constructed context; vectors that are not initialized are taken to be zero. -/
def freshContext : Context Number Single Rotation where
  state := .none
  targetStandby := {}
  referenceStandby := {}
  calibratedRotation := zeroTriple platform
  calibratedTranslation := zeroTriple platform
  calibratedScale := platform.literal 1
  referenceTrackingSystem := ""
  targetTrackingSystem := ""
  validProfile := false
  quashTargetInContinuous := true
  ignoreOutliers := true
  jitterThreshold := platform.single 3
  requireTriggerPressToApply := false
  baseStationDriftCorrectionEnabled := true
  continuousCalibrationThreshold := platform.single (3 / 2)
  maxRelativeErrorThreshold := platform.single (5 / 1000)
  continuousCalibrationOffset := zeroTriple platform
  targetLatencyOffsetMs := platform.literal 0
  latencyAutoDetect := false
  estimatedLatencyOffsetMs := platform.literal 0
  useGccPhatLatency := true
  useCusumGeometryShift := false
  useVelocityAwareWeighting := true
  useTukeyBiweight := false
  useLegacyMath := false
  useUpstreamMath := false
  useBlendFilter := false
  restLockedYawEnabled := true
  predictiveRecoveryEnabled := false
  reanchorChiSquareEnabled := false
  alignmentSpeedParams := resetParams platform
  enableStaticRecalibration := true
  lockRelativePositionMode := .auto
  additionalCalibrations := []
  wizardCompleted := false
  recalibrateOnMovement := true
  refToTargetPose := ⟨platform.identity, zeroTriple platform⟩
  relativePosCalibrated := false
  calibrationSpeed := .fast
  chaperone := freshChaperone platform

/-- `CalibrationContext::Clear`, on the fields of the profile. -/
def clear (ctx : Context Number Single Rotation) : Context Number Single Rotation :=
  { ctx with
    chaperone := { ctx.chaperone with
      geometry := ⟨[], dvd_zero 12⟩
      standingCenter := ⟨List.replicate 12 (platform.single 0), List.length_replicate⟩
      playSpaceSize := ⟨List.replicate 2 (platform.single 0), List.length_replicate⟩
      valid := false }
    calibratedRotation := zeroTriple platform
    calibratedTranslation := zeroTriple platform
    calibratedScale := platform.literal 1
    referenceTrackingSystem := ""
    targetTrackingSystem := ""
    validProfile := false
    refToTargetPose := ⟨platform.identity, zeroTriple platform⟩
    targetLatencyOffsetMs := platform.literal 0
    latencyAutoDetect := false
    estimatedLatencyOffsetMs := platform.literal 0
    recalibrateOnMovement := true
    relativePosCalibrated := false
    continuousCalibrationOffset := zeroTriple platform }

/-! ### Writing a profile -/

/-- The entries of an object; those without a value are not written. -/
def writtenObject (entries : List (String × Option (Json Number))) : List (String × Json Number) :=
  entries.filterMap fun entry => entry.2.map fun value => (entry.1, value)

/-- `FloatArray`. -/
def floatArray (floats : List Single) : Json Number :=
  .array (floats.map fun float => .number (platform.widen float))

/-- `WriteStandby`. -/
def writeStandby (device : StandbyDevice) : Json Number :=
  .object (writtenObject
    [("tracking_system", some (.string device.trackingSystem)),
      ("model", some (.string device.model)),
      ("serial", some (.string device.serial))])

/-- `SaveAlignmentParams`. -/
def saveAlignmentParams (ctx : Context Number Single Rotation) : Json Number :=
  .object (writtenObject
    [("align_speed_tiny", some (.number ctx.alignmentSpeedParams.alignSpeedTiny)),
      ("align_speed_small", some (.number ctx.alignmentSpeedParams.alignSpeedSmall)),
      ("align_speed_large", some (.number ctx.alignmentSpeedParams.alignSpeedLarge)),
      ("thr_trans_tiny", some (.number ctx.alignmentSpeedParams.thrTransTiny)),
      ("thr_trans_small", some (.number ctx.alignmentSpeedParams.thrTransSmall)),
      ("thr_trans_large", some (.number ctx.alignmentSpeedParams.thrTransLarge)),
      ("thr_rot_tiny", some (.number ctx.alignmentSpeedParams.thrRotTiny)),
      ("thr_rot_small", some (.number ctx.alignmentSpeedParams.thrRotSmall)),
      ("thr_rot_large", some (.number ctx.alignmentSpeedParams.thrRotLarge)),
      ("continuousCalibrationThreshold",
        some (.number (platform.widen ctx.continuousCalibrationThreshold)))])

def writeChaperone (chaperone : Chaperone Single) : Json Number :=
  .object (writtenObject
    [("auto_apply", some (.bool chaperone.autoApply)),
      ("play_space_size", some (floatArray platform chaperone.playSpaceSize.1)),
      ("standing_center", some (floatArray platform chaperone.standingCenter.1)),
      ("geometry", some (floatArray platform chaperone.geometry.1))])

def writeRelativeTransform (pose : RelativePose Number Rotation) : Json Number :=
  .object (writtenObject
    [("x", some (.number pose.translation.1)),
      ("y", some (.number pose.translation.2.1)),
      ("z", some (.number pose.translation.2.2)),
      ("quat_w", some (.number (platform.toQuat pose.rotation).w)),
      ("quat_x", some (.number (platform.toQuat pose.rotation).x)),
      ("quat_y", some (.number (platform.toQuat pose.rotation).y)),
      ("quat_z", some (.number (platform.toQuat pose.rotation).z))])

def writeExtra (extra : AdditionalCalibration Number) : Json Number :=
  .object (writtenObject
    [("target_tracking_system", some (.string extra.targetTrackingSystem)),
      ("target_device", some (writeStandby extra.targetStandby)),
      ("roll", some (.number extra.calibratedRotation.1)),
      ("yaw", some (.number extra.calibratedRotation.2.1)),
      ("pitch", some (.number extra.calibratedRotation.2.2)),
      ("x", some (.number extra.calibratedTranslation.1)),
      ("y", some (.number extra.calibratedTranslation.2.1)),
      ("z", some (.number extra.calibratedTranslation.2.2)),
      ("scale", some (.number extra.calibratedScale)),
      ("lock_mode", some (.number (platform.literal extra.lockMode.toInt))),
      ("valid", some (.bool extra.valid)),
      ("enabled", some (.bool extra.enabled))])

/-- `WRITE_IF_CHANGED_BOOL`. -/
def writeIfChangedBool (value default : Bool) : Option (Json Number) :=
  if value = default then none else some (.bool value)

/-- `WRITE_IF_CHANGED_DOUBLE`, with the conversion to a double. -/
def writeIfChangedDouble {Value : Type} [DecidableEq Value] (toDouble : Value → Number)
    (value default : Value) : Option (Json Number) :=
  if value = default then none else some (.number (toDouble value))

section Write

variable [DecidableEq Number] [DecidableEq Single]

/-- The entries of a profile. -/
def profileEntries (ctx : Context Number Single Rotation) : List (String × Option (Json Number)) :=
  let defaults : Context Number Single Rotation := freshContext platform
  [("schema_version", some (.number (platform.literal kProfileSchemaVersion))),
    ("alignment_params", some (saveAlignmentParams platform ctx)),
    ("reference_tracking_system", some (.string ctx.referenceTrackingSystem)),
    ("target_tracking_system", some (.string ctx.targetTrackingSystem)),
    ("roll", some (.number ctx.calibratedRotation.1)),
    ("yaw", some (.number ctx.calibratedRotation.2.1)),
    ("pitch", some (.number ctx.calibratedRotation.2.2)),
    ("x", some (.number ctx.calibratedTranslation.1)),
    ("y", some (.number ctx.calibratedTranslation.2.1)),
    ("z", some (.number ctx.calibratedTranslation.2.2)),
    ("scale", some (.number ctx.calibratedScale)),
    ("reference_device", some (writeStandby ctx.referenceStandby)),
    ("target_device", some (writeStandby ctx.targetStandby)),
    ("continuous_calibration_target_offset_x", some (.number ctx.continuousCalibrationOffset.1)),
    ("continuous_calibration_target_offset_y", some (.number ctx.continuousCalibrationOffset.2.1)),
    ("continuous_calibration_target_offset_z", some (.number ctx.continuousCalibrationOffset.2.2)),
    ("autostart_continuous_calibration",
      if ctx.state.isContinuous then some (.bool true) else none),
    ("quash_target_in_continuous",
      writeIfChangedBool ctx.quashTargetInContinuous defaults.quashTargetInContinuous),
    ("require_trigger_press_to_apply",
      writeIfChangedBool ctx.requireTriggerPressToApply defaults.requireTriggerPressToApply),
    ("ignore_outliers", writeIfChangedBool ctx.ignoreOutliers defaults.ignoreOutliers),
    ("static_calibration",
      writeIfChangedBool ctx.enableStaticRecalibration defaults.enableStaticRecalibration),
    ("jitter_threshold",
      writeIfChangedDouble platform.widen ctx.jitterThreshold defaults.jitterThreshold),
    ("max_relative_error_threshold",
      writeIfChangedDouble platform.widen ctx.maxRelativeErrorThreshold
        defaults.maxRelativeErrorThreshold),
    ("target_latency_offset_ms",
      writeIfChangedDouble id ctx.targetLatencyOffsetMs defaults.targetLatencyOffsetMs),
    ("latency_auto_detect", writeIfChangedBool ctx.latencyAutoDetect defaults.latencyAutoDetect),
    ("estimated_latency_offset_ms",
      writeIfChangedDouble id ctx.estimatedLatencyOffsetMs defaults.estimatedLatencyOffsetMs),
    ("latency_use_gcc_phat", writeIfChangedBool ctx.useGccPhatLatency defaults.useGccPhatLatency),
    ("geometry_shift_use_cusum",
      writeIfChangedBool ctx.useCusumGeometryShift defaults.useCusumGeometryShift),
    ("irls_velocity_aware",
      writeIfChangedBool ctx.useVelocityAwareWeighting defaults.useVelocityAwareWeighting),
    ("irls_use_tukey", writeIfChangedBool ctx.useTukeyBiweight defaults.useTukeyBiweight),
    ("translation_use_upstream", writeIfChangedBool ctx.useUpstreamMath defaults.useUpstreamMath),
    ("translation_use_legacy", writeIfChangedBool ctx.useLegacyMath defaults.useLegacyMath),
    ("blend_use_kalman", writeIfChangedBool ctx.useBlendFilter defaults.useBlendFilter),
    ("rest_locked_yaw",
      writeIfChangedBool ctx.restLockedYawEnabled defaults.restLockedYawEnabled),
    ("predictive_recovery",
      writeIfChangedBool ctx.predictiveRecoveryEnabled defaults.predictiveRecoveryEnabled),
    ("reanchor_chi_square",
      writeIfChangedBool ctx.reanchorChiSquareEnabled defaults.reanchorChiSquareEnabled),
    ("recalibrate_on_movement",
      writeIfChangedBool ctx.recalibrateOnMovement defaults.recalibrateOnMovement),
    ("base_station_drift_correction",
      writeIfChangedBool ctx.baseStationDriftCorrectionEnabled
        defaults.baseStationDriftCorrectionEnabled),
    ("calibration_speed",
      writeIfChangedDouble (fun speed => platform.literal (Speed.raw speed)) ctx.calibrationSpeed
        defaults.calibrationSpeed),
    ("chaperone",
      if ctx.chaperone.valid then some (writeChaperone platform ctx.chaperone) else none),
    ("relative_pos_calibrated", some (.bool ctx.relativePosCalibrated)),
    ("lock_relative_position_mode",
      writeIfChangedDouble (fun mode => platform.literal (LockMode.raw mode))
        ctx.lockRelativePositionMode defaults.lockRelativePositionMode),
    ("relative_transform", some (writeRelativeTransform platform ctx.refToTargetPose)),
    ("additional_calibrations",
      if ctx.additionalCalibrations = [] then none
      else some (.array (ctx.additionalCalibrations.map (writeExtra platform)))),
    ("wizard_completed", if ctx.wizardCompleted then some (.bool true) else none)]

/-- The value `WriteProfile` serializes; without a valid profile it writes nothing. -/
def writeProfile (ctx : Context Number Single Rotation) : Option (Json Number) :=
  if ctx.validProfile then
    some (.array [.object (writtenObject (profileEntries platform ctx))])
  else none

end Write

/-! ### Reads -/

/-- A boolean, if the value is one. -/
def boolOr : Json Number → Bool → Bool
  | .bool value, _ => value
  | _, default => default

/-- A number, if the value is one. -/
def numberOr : Json Number → Number → Number
  | .number value, _ => value
  | _, default => default

/-- A number cast to a float, if the value is one. -/
def singleOr (value : Json Number) (default : Single) : Single :=
  match value with
  | .number value => platform.narrow value
  | _ => default

/-- A number cast to a float and back, if the value is one. -/
def castOr (value : Json Number) (default : Number) : Number :=
  match value with
  | .number value => platform.widen (platform.narrow value)
  | _ => default

def stringOr : Json Number → String → String
  | .string value, _ => value
  | _, default => default

/-- `evaluate_as_boolean`. -/
def evaluateAsBoolean [DecidableEq Number] : Json Number → Bool
  | .null => false
  | .bool value => value
  | .number value => decide (value ≠ platform.literal 0)
  | .string value => decide (value ≠ "")
  | .array _ => true
  | .object _ => true

/-- `LoadStandby`. -/
def loadStandby (value : Json Number) (device : StandbyDevice) : StandbyDevice :=
  match value with
  | .object fields =>
    { trackingSystem := stringOr (field fields "tracking_system") device.trackingSystem
      model := stringOr (field fields "model") device.model
      serial := stringOr (field fields "serial") device.serial }
  | _ => device

/-- `LoadAlignmentParams`, which begins with `ResetConfig`. -/
def loadAlignmentParams (value : Json Number) (ctx : Context Number Single Rotation) :
    Context Number Single Rotation :=
  let reset := resetConfig platform ctx
  match value with
  | .object fields =>
    { reset with
      alignmentSpeedParams :=
        { alignSpeedTiny := castOr platform (field fields "align_speed_tiny")
            reset.alignmentSpeedParams.alignSpeedTiny
          alignSpeedSmall := castOr platform (field fields "align_speed_small")
            reset.alignmentSpeedParams.alignSpeedSmall
          alignSpeedLarge := castOr platform (field fields "align_speed_large")
            reset.alignmentSpeedParams.alignSpeedLarge
          thrTransTiny := castOr platform (field fields "thr_trans_tiny")
            reset.alignmentSpeedParams.thrTransTiny
          thrTransSmall := castOr platform (field fields "thr_trans_small")
            reset.alignmentSpeedParams.thrTransSmall
          thrTransLarge := castOr platform (field fields "thr_trans_large")
            reset.alignmentSpeedParams.thrTransLarge
          thrRotTiny := castOr platform (field fields "thr_rot_tiny")
            reset.alignmentSpeedParams.thrRotTiny
          thrRotSmall := castOr platform (field fields "thr_rot_small")
            reset.alignmentSpeedParams.thrRotSmall
          thrRotLarge := castOr platform (field fields "thr_rot_large")
            reset.alignmentSpeedParams.thrRotLarge }
      continuousCalibrationThreshold :=
        platform.narrow (castOr platform (field fields "continuousCalibrationThreshold")
          (platform.widen reset.continuousCalibrationThreshold)) }
  | _ => reset

/-- The speed of a number: one that is none of the four counts as automatic. -/
def speedOr (value : Json Number) (default : Speed) : Speed :=
  match value with
  | .number value =>
    let raw := platform.truncate value
    if raw = 0 then .fast
    else if raw = 1 then .slow
    else if raw = 2 then .verySlow
    else .auto
  | _ => default

/-- The lock mode: the number of the current schema, or the flag of older ones. -/
def lockModeOr (mode legacy : Json Number) (default : LockMode) : LockMode :=
  match mode with
  | .number value =>
    let raw := platform.truncate value
    if raw = 0 then .off
    else if raw = 1 then .on
    else if raw = 2 then .auto
    else default
  | _ =>
    match legacy with
    | .bool true => .on
    | .bool false => .auto
    | _ => default

/-- The rotation of a relative transform: a quaternion, else the Euler angles of older profiles. -/
def loadRotation (fields : List (String × Json Number)) : Rotation :=
  match field fields "quat_w", field fields "quat_x", field fields "quat_y",
    field fields "quat_z" with
  | .number w, .number x, .number y, .number z => platform.ofQuat ⟨w, x, y, z⟩
  | _, _, _, _ =>
    match field fields "roll", field fields "yaw", field fields "pitch" with
    | .number roll, .number yaw, .number pitch => platform.ofEuler roll yaw pitch
    | _, _, _ => platform.identity

/-- The lock mode of an additional calibration; one out of range counts as automatic. -/
def extraLockMode (value : Json Number) : Int32 :=
  match value with
  | .number value =>
    let raw := platform.truncate value
    if raw < 0 ∨ 2 < raw then 2 else Int32.ofInt raw
  | _ => 2

/-- An entry of the additional calibrations; what is no object is skipped. -/
def loadExtra : Json Number → Option (AdditionalCalibration Number)
  | .object fields =>
    some
      { targetTrackingSystem := stringOr (field fields "target_tracking_system") ""
        targetStandby := loadStandby (field fields "target_device") {}
        calibratedRotation := (numberOr (field fields "roll") (platform.literal 0),
          numberOr (field fields "yaw") (platform.literal 0),
          numberOr (field fields "pitch") (platform.literal 0))
        calibratedTranslation := (numberOr (field fields "x") (platform.literal 0),
          numberOr (field fields "y") (platform.literal 0),
          numberOr (field fields "z") (platform.literal 0))
        calibratedScale := numberOr (field fields "scale") (platform.literal 1)
        lockMode := extraLockMode platform (field fields "lock_mode")
        valid := boolOr (field fields "valid") false
        enabled := boolOr (field fields "enabled") true }
  | _ => none

def loadExtras : Json Number → List (AdditionalCalibration Number)
  | .array items => items.filterMap (loadExtra platform)
  | _ => []

/-! ### Phases that can throw -/

/-- A phase of a load: it goes on with the context, or throws and leaves the context as it is at
that point. -/
abbrev Phase (State : Type) := State → Except (LoadError × State) State

/-- An assignment that reads nothing it needs. -/
def assign {State : Type} (update : State → State) : Phase State := fun state => .ok (update state)

/-- A read that throws, and the assignment of its value. -/
def require {State Value : Type} (read : Except LoadError Value) (set : Value → State → State) :
    Phase State := fun state =>
  match read with
  | .ok value => .ok (set value state)
  | .error error => .error (error, state)

/-- Phases in a row. -/
def runPhases {State : Type} : List (Phase State) → Phase State
  | [] => fun state => .ok state
  | phase :: rest => fun state => (phase state).bind (runPhases rest)

/-- The state a phase ends in, whether or not it throws. -/
def outcome {State : Type} : Except (LoadError × State) State → State
  | .ok state => state
  | .error (_, state) => state

/-- The elements of an array are cast into a buffer one by one, up to the first that is no
number. -/
def fillFloats : List (Json Number) → List Single → Option LoadError × List Single
  | item :: items, old :: rest =>
    match getNumber item with
    | .ok value =>
      let filled := fillFloats items rest
      (filled.1, platform.narrow value :: filled.2)
    | .error error => (some error, old :: rest)
  | _, buffer => (none, buffer)

theorem fillFloats_length (items : List (Json Number)) (buffer : List Single) :
    (fillFloats platform items buffer).2.length = buffer.length := by
  induction items generalizing buffer with
  | nil => cases buffer <;> rfl
  | cons item items inductionHypothesis =>
    cases buffer with
    | nil => rfl
    | cons old rest =>
      rw [fillFloats]
      cases getNumber item with
      | error error => rfl
      | ok value => exact congrArg (· + 1) (inductionHypothesis rest)

/-- `LoadFloatArray` into a buffer of a fixed size. -/
def loadFloatArray {size : Nat} (value : Json Number) : Phase (Floats Single size) := fun buffer =>
  match value with
  | .array items =>
    if items.length = size then
      let filled := fillFloats platform items buffer.1
      let after : Floats Single size :=
        ⟨filled.2, (fillFloats_length platform items buffer.1).trans buffer.2⟩
      match filled.1 with
      | none => .ok after
      | some error => .error (error, after)
    else .error (.wrongBufferSize, buffer)
  | _ => .error (.expectedArray, buffer)

/-- A phase on a part of the state. -/
def within {State Part : Type} (get : State → Part) (set : Part → State → State)
    (phase : Phase Part) : Phase State := fun state =>
  match phase (get state) with
  | .ok part => .ok (set part state)
  | .error (error, part) => .error (error, set part state)

/-- `resize` to a number of floats. -/
def resized (size : Nat) (quads : 12 ∣ size) (floats : List Single) : Quads Single :=
  ⟨floats.take size ++ List.replicate (size - floats.length) (platform.single 0), by
    rw [List.length_append, List.length_take, List.length_replicate]
    have whole : min size floats.length + (size - floats.length) = size := by omega
    rw [whole]
    exact quads⟩

theorem resized_length (size : Nat) (quads : 12 ∣ size) (floats : List Single) :
    (resized platform size quads floats).1.length = size := by
  rw [resized, List.length_append, List.length_take, List.length_replicate]
  omega

/-- The geometry of the chaperone: one of a corrupt length is skipped, an empty one is not valid. -/
def loadGeometry (value : Json Number) : Phase (Chaperone Single) := fun chaperone =>
  match value with
  | .array items =>
    if whole : 0 < items.length ∧ 12 ∣ items.length then
      let buffer := resized platform items.length whole.2 chaperone.geometry.1
      let filled := fillFloats platform items buffer.1
      let after : Chaperone Single := { chaperone with
        geometry := ⟨filled.2, (fillFloats_length platform items buffer.1).symm ▸ buffer.2⟩ }
      match filled.1 with
      | none => .ok { after with valid := true }
      | some error => .error (error, after)
    else .ok chaperone
  | _ => .error (.geometryNotArray, chaperone)

/-- The chaperone of the profile. -/
def loadChaperone (value : Json Number) : Phase (Chaperone Single) :=
  match value with
  | .object fields =>
    runPhases
      [require (getBool (field fields "auto_apply"))
          fun value chaperone => { chaperone with autoApply := value },
        within Chaperone.playSpaceSize
          (fun value chaperone => { chaperone with playSpaceSize := value })
          (loadFloatArray platform (field fields "play_space_size")),
        within Chaperone.standingCenter
          (fun value chaperone => { chaperone with standingCenter := value })
          (loadFloatArray platform (field fields "standing_center")),
        loadGeometry platform (field fields "geometry")]
  | _ => assign id

/-! ### `ParseProfile` -/

section Parse

variable [DecidableEq Number]

/-- The devices, and the mode of the state machine. -/
def loadDevices (fields : List (String × Json Number)) (ctx : Context Number Single Rotation) :
    Context Number Single Rotation :=
  { ctx with
    referenceStandby := loadStandby (field fields "reference_device") ctx.referenceStandby
    targetStandby := loadStandby (field fields "target_device") ctx.targetStandby
    state :=
      if evaluateAsBoolean platform (field fields "autostart_continuous_calibration") then
        .continuousStandby
      else ctx.state
    quashTargetInContinuous :=
      boolOr (field fields "quash_target_in_continuous") ctx.quashTargetInContinuous
    requireTriggerPressToApply :=
      boolOr (field fields "require_trigger_press_to_apply") ctx.requireTriggerPressToApply
    ignoreOutliers := boolOr (field fields "ignore_outliers") ctx.ignoreOutliers }

/-- The settings between the tracker offset and the chaperone. -/
def loadSettings (fields : List (String × Json Number)) (ctx : Context Number Single Rotation) :
    Context Number Single Rotation :=
  { ctx with
    enableStaticRecalibration :=
      boolOr (field fields "static_calibration") ctx.enableStaticRecalibration
    jitterThreshold := singleOr platform (field fields "jitter_threshold") ctx.jitterThreshold
    maxRelativeErrorThreshold :=
      singleOr platform (field fields "max_relative_error_threshold") ctx.maxRelativeErrorThreshold
    targetLatencyOffsetMs :=
      numberOr (field fields "target_latency_offset_ms") ctx.targetLatencyOffsetMs
    latencyAutoDetect := boolOr (field fields "latency_auto_detect") ctx.latencyAutoDetect
    estimatedLatencyOffsetMs :=
      numberOr (field fields "estimated_latency_offset_ms") ctx.estimatedLatencyOffsetMs
    useGccPhatLatency := boolOr (field fields "latency_use_gcc_phat") ctx.useGccPhatLatency
    useCusumGeometryShift :=
      boolOr (field fields "geometry_shift_use_cusum") ctx.useCusumGeometryShift
    useVelocityAwareWeighting :=
      boolOr (field fields "irls_velocity_aware") ctx.useVelocityAwareWeighting
    useTukeyBiweight := boolOr (field fields "irls_use_tukey") ctx.useTukeyBiweight
    useUpstreamMath := boolOr (field fields "translation_use_upstream") ctx.useUpstreamMath
    useLegacyMath := boolOr (field fields "translation_use_legacy") ctx.useLegacyMath
    useBlendFilter := boolOr (field fields "blend_use_kalman") ctx.useBlendFilter
    restLockedYawEnabled := boolOr (field fields "rest_locked_yaw") ctx.restLockedYawEnabled
    predictiveRecoveryEnabled :=
      boolOr (field fields "predictive_recovery") ctx.predictiveRecoveryEnabled
    reanchorChiSquareEnabled :=
      boolOr (field fields "reanchor_chi_square") ctx.reanchorChiSquareEnabled
    recalibrateOnMovement := boolOr (field fields "recalibrate_on_movement") true
    baseStationDriftCorrectionEnabled := boolOr (field fields "base_station_drift_correction") true
    calibratedScale := numberOr (field fields "scale") (platform.literal 1)
    calibrationSpeed := speedOr platform (field fields "calibration_speed") ctx.calibrationSpeed }

/-- The state of the relative pose. -/
def loadLock (fields : List (String × Json Number)) (ctx : Context Number Single Rotation) :
    Context Number Single Rotation :=
  { ctx with
    relativePosCalibrated :=
      boolOr (field fields "relative_pos_calibrated") ctx.relativePosCalibrated
    lockRelativePositionMode := lockModeOr platform (field fields "lock_relative_position_mode")
      (field fields "lock_relative_position") ctx.lockRelativePositionMode }

/-- The relative pose is assigned after its three mandatory numbers are read. -/
def loadRelativeTransform (value : Json Number) : Phase (Context Number Single Rotation) :=
  match value with
  | .object fields =>
    require (getTriple fields "x" "y" "z") fun translation ctx =>
      { ctx with refToTargetPose := ⟨loadRotation platform fields, translation⟩ }
  | _ => assign id

/-- The end of the profile. -/
def loadRest (fields : List (String × Json Number)) (ctx : Context Number Single Rotation) :
    Context Number Single Rotation :=
  { ctx with
    additionalCalibrations := loadExtras platform (field fields "additional_calibrations")
    wizardCompleted := boolOr (field fields "wizard_completed") ctx.wizardCompleted
    validProfile := true }

/-- The assignments of `ParseProfile` after the schema is checked, in the order of the source. -/
def loadPhases (fields : List (String × Json Number)) :
    List (Phase (Context Number Single Rotation)) :=
  [assign (loadAlignmentParams platform (field fields "alignment_params")),
    require (getString (field fields "reference_tracking_system"))
      fun value ctx => { ctx with referenceTrackingSystem := value },
    require (getString (field fields "target_tracking_system"))
      fun value ctx => { ctx with targetTrackingSystem := value },
    require (getNumber (field fields "roll"))
      fun value ctx => { ctx with calibratedRotation := (value, ctx.calibratedRotation.2) },
    require (getNumber (field fields "yaw"))
      fun value ctx => { ctx with
        calibratedRotation := (ctx.calibratedRotation.1, value, ctx.calibratedRotation.2.2) },
    require (getNumber (field fields "pitch"))
      fun value ctx => { ctx with
        calibratedRotation := (ctx.calibratedRotation.1, ctx.calibratedRotation.2.1, value) },
    require (getNumber (field fields "x"))
      fun value ctx => { ctx with calibratedTranslation := (value, ctx.calibratedTranslation.2) },
    require (getNumber (field fields "y"))
      fun value ctx => { ctx with
        calibratedTranslation :=
          (ctx.calibratedTranslation.1, value, ctx.calibratedTranslation.2.2) },
    require (getNumber (field fields "z"))
      fun value ctx => { ctx with
        calibratedTranslation :=
          (ctx.calibratedTranslation.1, ctx.calibratedTranslation.2.1, value) },
    assign (loadDevices platform fields),
    require (getNumber (field fields "continuous_calibration_target_offset_x"))
      fun value ctx => { ctx with
        continuousCalibrationOffset := (value, ctx.continuousCalibrationOffset.2) },
    require (getNumber (field fields "continuous_calibration_target_offset_y"))
      fun value ctx => { ctx with
        continuousCalibrationOffset :=
          (ctx.continuousCalibrationOffset.1, value, ctx.continuousCalibrationOffset.2.2) },
    require (getNumber (field fields "continuous_calibration_target_offset_z"))
      fun value ctx => { ctx with
        continuousCalibrationOffset :=
          (ctx.continuousCalibrationOffset.1, ctx.continuousCalibrationOffset.2.1, value) },
    assign (loadSettings platform fields),
    within Context.chaperone (fun value ctx => { ctx with chaperone := value })
      (loadChaperone platform (field fields "chaperone")),
    assign (loadLock platform fields),
    loadRelativeTransform platform (field fields "relative_transform"),
    assign (loadRest platform fields)]

/-- `MigrateProfile`. -/
def migrateProfile (fromVersion : Int) (fields : List (String × Json Number)) :
    List (String × Json Number) :=
  if fromVersion < 2 then
    (fields.map fun entry =>
      match entry with
      | ("calibration_speed", .number value) =>
        ("calibration_speed",
          .number (if platform.truncate value = 1 then platform.literal 3 else value))
      | other => other).filter fun entry => entry.1 != "auto_suppress_on_external_tool"
  else fields

/-- The profile of a parsed text: the fields of the first object of an array. -/
def profileFields (parsed : Except String (Json Number)) :
    Except LoadError (List (String × Json Number)) := do
  let value ← parsed.mapError .parse
  match ← getArray value with
  | [] => .error .noProfiles
  | first :: _ => getObject first

/-- `ParseProfile`, given the parsed text. -/
def parseProfile (parsed : Except String (Json Number)) :
    Phase (Context Number Single Rotation) := fun ctx =>
  match profileFields parsed with
  | .error error => .error (error, ctx)
  | .ok fields =>
    let version := profileVersion platform.truncate fields
    if version > kProfileSchemaVersion then .ok { ctx with validProfile := false }
    else
      runPhases (loadPhases platform
        (if version < kProfileSchemaVersion then migrateProfile platform version fields
        else fields)) ctx

/-- `LoadProfile` on the text read from the registry. -/
def loadProfile (parse : String → Except String (Json Number)) (text : String)
    (ctx : Context Number Single Rotation) : Context Number Single Rotation :=
  let before := { ctx with validProfile := false }
  if text = "" then clear platform before
  else outcome (parseProfile platform (parse text) before)

end Parse

/-! ### What phases leave alone -/

section Keeps

variable {State Part Value : Type} {get : State → Value}

/-- A phase leaves a part of the state alone, whether or not it throws. -/
def Keeps (get : State → Value) (phase : Phase State) : Prop :=
  ∀ state, get (outcome (phase state)) = get state

theorem keeps_assign {update : State → State} (same : ∀ state, get (update state) = get state) :
    Keeps get (assign update) := same

theorem keeps_require {Read : Type} {read : Except LoadError Read} {set : Read → State → State}
    (same : ∀ value state, get (set value state) = get state) : Keeps get (require read set) := by
  intro state
  unfold require
  cases read with
  | ok value => exact same value state
  | error error => rfl

theorem keeps_within {part : State → Part} {set : Part → State → State} {phase : Phase Part}
    (same : ∀ value state, get (set value state) = get state) :
    Keeps get (within part set phase) := by
  intro state
  unfold within
  cases phase (part state) with
  | ok value => exact same value state
  | error error => exact same error.2 state

theorem keeps_runPhases {phases : List (Phase State)} (each : ∀ phase ∈ phases, Keeps get phase) :
    Keeps get (runPhases phases) := by
  intro state
  induction phases generalizing state with
  | nil => rfl
  | cons phase rest inductionHypothesis =>
    have first := each phase List.mem_cons_self state
    show get (outcome ((phase state).bind (runPhases rest))) = get state
    cases ran : phase state with
    | error error =>
      rw [ran] at first
      exact first
    | ok after =>
      rw [ran] at first
      exact (inductionHypothesis (fun other member =>
        each other (List.mem_cons_of_mem _ member)) after).trans first

theorem runPhases_cons_ok {phase : Phase State} {rest : List (Phase State)} {state after : State}
    (ran : runPhases (phase :: rest) state = .ok after) :
    ∃ middle, phase state = .ok middle ∧ runPhases rest middle = .ok after := by
  change (phase state).bind (runPhases rest) = .ok after at ran
  cases once : phase state with
  | error error =>
    rw [once] at ran
    cases ran
  | ok middle =>
    rw [once] at ran
    exact ⟨middle, rfl, ran⟩

theorem runPhases_assign (update : State → State) (rest : List (Phase State)) (state : State) :
    runPhases (assign update :: rest) state = runPhases rest (update state) := rfl

theorem runPhases_require {Read : Type} (value : Read) (set : Read → State → State)
    (rest : List (Phase State)) (state : State) :
    runPhases (require (.ok value) set :: rest) state = runPhases rest (set value state) := rfl

theorem runPhases_of_ok {phase : Phase State} {state after : State} (ran : phase state = .ok after)
    (rest : List (Phase State)) :
    runPhases (phase :: rest) state = runPhases rest after := by
  show (phase state).bind (runPhases rest) = runPhases rest after
  rw [ran]
  rfl

/-- A mandatory read that did not throw. -/
theorem require_ok {Read : Type} {read : Except LoadError Read} {set : Read → State → State}
    {state after : State} (ran : require read set state = .ok after) :
    ∃ value, read = .ok value ∧ set value state = after := by
  unfold require at ran
  cases read with
  | ok value => exact ⟨value, rfl, Except.ok.inj ran⟩
  | error error => cases ran

/-- A phase on a part that did not throw. -/
theorem within_ok {part : State → Part} {set : Part → State → State} {phase : Phase Part}
    {state after : State} (ran : within part set phase state = .ok after) :
    ∃ value, phase (part state) = .ok value ∧ set value state = after := by
  unfold within at ran
  cases once : phase (part state) with
  | ok value =>
    rw [once] at ran
    exact ⟨value, rfl, Except.ok.inj ran⟩
  | error error =>
    rw [once] at ran
    cases ran

/-- Phases run one part after the other. -/
theorem runPhases_append (first second : List (Phase State)) (state : State) :
    runPhases (first ++ second) state = (runPhases first state).bind (runPhases second) := by
  induction first generalizing state with
  | nil => rfl
  | cons phase rest inductionHypothesis =>
    show (phase state).bind (runPhases (rest ++ second)) =
      ((phase state).bind (runPhases rest)).bind (runPhases second)
    cases phase state with
    | error error => rfl
    | ok middle => exact inductionHypothesis middle

theorem runPhases_append_ok {first second : List (Phase State)} {state after : State}
    (ran : runPhases (first ++ second) state = .ok after) :
    ∃ middle, runPhases first state = .ok middle ∧ runPhases second middle = .ok after := by
  rw [runPhases_append] at ran
  cases once : runPhases first state with
  | error error =>
    rw [once] at ran
    cases ran
  | ok middle =>
    rw [once] at ran
    exact ⟨middle, rfl, ran⟩

theorem Keeps.of_ok {phase : Phase State} (keeps : Keeps get phase) {state after : State}
    (ran : phase state = .ok after) : get after = get state := by
  have kept := keeps state
  rw [ran] at kept
  exact kept

end Keeps

/-- The phase of the relative pose changes nothing else. -/
theorem keeps_loadRelativeTransform {Value : Type} {get : Context Number Single Rotation → Value}
    (value : Json Number)
    (same : ∀ pose ctx, get { ctx with refToTargetPose := pose } = get ctx) :
    Keeps get (loadRelativeTransform platform value) := by
  unfold loadRelativeTransform
  split
  · exact keeps_require fun translation ctx => same _ ctx
  · exact keeps_assign fun ctx => rfl

/-- The alignment parameters a load ends with are those of its first phase, even if it throws. -/
theorem outcome_params [DecidableEq Number] (fields : List (String × Json Number))
    (ctx : Context Number Single Rotation) :
    (outcome (runPhases (loadPhases platform fields) ctx)).alignmentSpeedParams =
      (loadAlignmentParams platform (field fields "alignment_params") ctx).alignmentSpeedParams := by
  unfold loadPhases
  rw [runPhases_assign]
  refine keeps_runPhases ?_ _
  simp only [List.forall_mem_cons]
  refine ⟨?_, ?_, ?_, ?_, ?_, ?_, ?_, ?_, ?_, ?_, ?_, ?_, ?_, ?_, ?_, ?_, ?_, ?_⟩
  all_goals
    first
    | exact keeps_require fun _ _ => rfl
    | exact keeps_assign fun _ => rfl
    | exact keeps_within fun _ _ => rfl
    | exact keeps_loadRelativeTransform platform _ fun _ _ => rfl
    | exact fun phase member => absurd member List.not_mem_nil

end Codec

end PairDriver.ProfileCodec
