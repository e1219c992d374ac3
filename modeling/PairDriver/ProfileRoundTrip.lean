/-
This file proves what survives a save and a load of the profile. A written profile
is always accepted, and the context it loads is computed field by field: the
alignment parameters come back as floats, the lock modes of the additional
calibrations in range, and a valid chaperone only with a geometry. The round trip
is exact for the contexts and the texts this leaves alone, and for no others.
-/

import PairDriver.ProfileCodec

namespace PairDriver.ProfileCodec

open PairDriver.Configuration (Json LoadError field getBool getNumber getString getArray getObject
  getTriple kProfileSchemaVersion profileVersion)

section RoundTrip

variable {Number Single Rotation : Type} (platform : Platform Number Single Rotation)

/-! ### Keys of a written object -/

/-- A key that is not among the entries reads as null. -/
theorem field_writtenObject_of_absent {entries : List (String × Option (Json Number))}
    {key : String} (absent : key ∉ entries.map Prod.fst) :
    field (writtenObject entries) key = .null := by
  have missing : (writtenObject entries).find? (fun other => other.1 == key) = none := by
    rw [List.find?_eq_none]
    intro other member same
    obtain ⟨source, sourceMember, written⟩ := List.mem_filterMap.mp member
    obtain ⟨_, _, rfl⟩ := Option.map_eq_some_iff.mp written
    exact absent (List.mem_map.mpr ⟨source, sourceMember, beq_iff_eq.mp same⟩)
  rw [field, missing]
  rfl

/-- A key of an object with distinct keys reads as its value, and as null if it was not written. -/
theorem field_writtenObject {entries : List (String × Option (Json Number))}
    (distinct : (entries.map Prod.fst).Nodup) {key : String} {value : Option (Json Number)}
    (index : Nat) (found : entries[index]? = some (key, value)) :
    field (writtenObject entries) key = value.getD .null := by
  induction entries generalizing index with
  | nil => cases found
  | cons entry rest inductionHypothesis =>
    obtain ⟨absent, restDistinct⟩ := List.nodup_cons.mp distinct
    cases index with
    | zero =>
      obtain rfl : entry = (key, value) := Option.some.inj found
      cases value with
      | some value =>
        show field ((key, value) :: writtenObject rest) key = value
        simp only [field, List.find?_cons, beq_self_eq_true, Option.map_some, Option.getD_some]
      | none =>
        show field (writtenObject rest) key = .null
        exact field_writtenObject_of_absent absent
    | succ index =>
      have later := inductionHypothesis restDistinct index found
      have different : (entry.1 == key) = false := by
        rw [beq_eq_false_iff_ne]
        rintro rfl
        exact absent (List.mem_map.mpr ⟨_, List.mem_of_getElem? found, rfl⟩)
      obtain ⟨first, content⟩ := entry
      cases content with
      | none => exact later
      | some content =>
        rw [← later]
        show field ((first, content) :: writtenObject rest) key = field (writtenObject rest) key
        simp only [field, List.find?_cons, different]

/-! ### Settings that are written if changed -/

/-- A setting that is written if changed is read back by a reader that keeps its default on null. -/
theorem read_written {Value : Type} [DecidableEq Value] {read : Json Number → Value → Value}
    {write : Value → Json Number} (absent : ∀ default, read .null default = default)
    (present : ∀ value default, read (write value) default = value) (value default : Value) :
    read ((if value = default then none else some (write value)).getD .null) default = value := by
  split
  · rename_i same
    rw [same]
    exact absent default
  · exact present value default

theorem boolOr_written (value default : Bool) :
    boolOr ((writeIfChangedBool value default : Option (Json Number)).getD .null) default = value :=
  read_written (fun _ => rfl) (fun _ _ => rfl) value default

theorem numberOr_written [DecidableEq Number] (value default : Number) :
    numberOr ((writeIfChangedDouble id value default).getD .null) default = value :=
  read_written (fun _ => rfl) (fun _ _ => rfl) value default

theorem singleOr_written [DecidableEq Single] (value default : Single) :
    singleOr platform ((writeIfChangedDouble platform.widen value default).getD .null) default =
      value :=
  @read_written _ _ _ (singleOr platform) (fun single => .number (platform.widen single))
    (fun _ => rfl) (fun value _ => platform.narrow_widen value) value default

/-- The number a speed is written as is read back. -/
theorem speedOr_number (speed default : Speed) :
    speedOr platform (.number (platform.literal (Speed.raw speed))) default = speed := by
  have raw : platform.truncate (platform.literal (Speed.raw speed)) = Speed.raw speed := by
    cases speed with
    | fast => exact platform.truncate_literal 0
    | slow => exact platform.truncate_literal 1
    | verySlow => exact platform.truncate_literal 2
    | auto => exact platform.truncate_literal 3
  unfold speedOr
  dsimp only
  rw [raw]
  cases speed <;> rfl

theorem speedOr_written (value default : Speed) :
    speedOr platform ((writeIfChangedDouble (fun speed => platform.literal (Speed.raw speed))
      value default).getD .null) default = value :=
  read_written (fun _ => rfl) (speedOr_number platform) value default

theorem lockModeOr_number (mode default : LockMode) :
    lockModeOr platform (.number (platform.literal (LockMode.raw mode))) .null default = mode := by
  have raw : platform.truncate (platform.literal (LockMode.raw mode)) = LockMode.raw mode := by
    cases mode with
    | off => exact platform.truncate_literal 0
    | on => exact platform.truncate_literal 1
    | auto => exact platform.truncate_literal 2
  unfold lockModeOr
  dsimp only
  rw [raw]
  cases mode <;> rfl

theorem lockModeOr_written (value default : LockMode) :
    lockModeOr platform ((writeIfChangedDouble (fun mode => platform.literal (LockMode.raw mode))
      value default).getD .null) .null default = value :=
  @read_written _ _ _ (fun mode => lockModeOr platform mode .null) _ (fun _ => rfl)
    (lockModeOr_number platform) value default

/-! ### Nested objects -/

theorem loadStandby_written (device other : StandbyDevice) :
    loadStandby (writeStandby device : Json Number) other = device := rfl

/-- The lock mode an additional calibration comes back with. -/
def clampedLockMode (mode : Int32) : Int32 :=
  if mode.toInt < 0 ∨ 2 < mode.toInt then 2 else mode

theorem extraLockMode_written (mode : Int32) :
    extraLockMode platform (.number (platform.literal mode.toInt)) = clampedLockMode mode := by
  unfold extraLockMode clampedLockMode
  dsimp only
  rw [platform.truncate_literal, Int32.ofInt_toInt]

theorem loadExtra_written (extra : AdditionalCalibration Number) :
    loadExtra platform (writeExtra platform extra) =
      some { extra with lockMode := clampedLockMode extra.lockMode } := by
  show some { extra with
    lockMode := extraLockMode platform (.number (platform.literal extra.lockMode.toInt)) } = _
  rw [extraLockMode_written]

/-- An alignment parameter after the cast to a float and back. -/
def castParam (value : Number) : Number := platform.widen (platform.narrow value)

/-- The alignment parameters a profile comes back with. -/
def castParams (params : AlignmentSpeedParams Number) : AlignmentSpeedParams Number where
  alignSpeedTiny := castParam platform params.alignSpeedTiny
  alignSpeedSmall := castParam platform params.alignSpeedSmall
  alignSpeedLarge := castParam platform params.alignSpeedLarge
  thrTransTiny := castParam platform params.thrTransTiny
  thrTransSmall := castParam platform params.thrTransSmall
  thrTransLarge := castParam platform params.thrTransLarge
  thrRotTiny := castParam platform params.thrRotTiny
  thrRotSmall := castParam platform params.thrRotSmall
  thrRotLarge := castParam platform params.thrRotLarge

theorem loadAlignmentParams_written (ctx base : Context Number Single Rotation) :
    loadAlignmentParams platform (saveAlignmentParams platform ctx) base =
      { resetConfig platform base with
        alignmentSpeedParams := castParams platform ctx.alignmentSpeedParams
        continuousCalibrationThreshold := ctx.continuousCalibrationThreshold } := by
  show { resetConfig platform base with
    alignmentSpeedParams := castParams platform ctx.alignmentSpeedParams
    continuousCalibrationThreshold := platform.narrow (platform.widen (platform.narrow
      (platform.widen ctx.continuousCalibrationThreshold))) } = _
  rw [platform.narrow_widen, platform.narrow_widen]

theorem loadRelativeTransform_written (pose : RelativePose Number Rotation)
    (ctx : Context Number Single Rotation) :
    loadRelativeTransform platform (writeRelativeTransform platform pose) ctx =
      .ok { ctx with refToTargetPose := pose } := by
  show Except.ok { ctx with
    refToTargetPose := ⟨platform.ofQuat (platform.toQuat pose.rotation), pose.translation⟩ } = _
  rw [platform.ofQuat_toQuat]

/-! ### Float arrays -/

theorem fillFloats_written (floats buffer : List Single) (same : buffer.length = floats.length) :
    fillFloats platform (floats.map fun float => .number (platform.widen float)) buffer =
      (none, floats) := by
  induction floats generalizing buffer with
  | nil =>
    rw [List.length_eq_zero_iff.mp same]
    rfl
  | cons float floats inductionHypothesis =>
    cases buffer with
    | nil => cases same
    | cons old rest =>
      rw [List.map_cons, fillFloats]
      simp only [getNumber, inductionHypothesis rest (Nat.succ.inj same), platform.narrow_widen]

theorem loadFloatArray_written {size : Nat} (floats buffer : Floats Single size) :
    loadFloatArray platform (floatArray platform floats.1) buffer = .ok floats := by
  have filled := fillFloats_written platform floats.1 buffer.1 (buffer.2.trans floats.2.symm)
  unfold loadFloatArray floatArray
  dsimp only
  rw [if_pos ((List.length_map _).trans floats.2)]
  split
  · exact congrArg Except.ok (Subtype.ext (congrArg Prod.snd filled))
  · rename_i error thrown
    rw [filled] at thrown
    cases thrown

/-- The geometry comes back, and makes the chaperone valid if it is not empty. -/
theorem loadGeometry_written (geometry : Quads Single) {chaperone : Chaperone Single}
    (empty : chaperone.geometry.1 = []) (invalid : chaperone.valid = false) :
    loadGeometry platform (floatArray platform geometry.1) chaperone =
      .ok { chaperone with geometry := geometry, valid := !geometry.1.isEmpty } := by
  unfold loadGeometry floatArray
  dsimp only
  cases corners : geometry.1 with
  | nil =>
    have same : chaperone.geometry = geometry := Subtype.ext (empty.trans corners.symm)
    rw [dif_neg (fun whole => absurd whole.1 (Nat.lt_irrefl 0)), ← same]
    show Except.ok chaperone = Except.ok { chaperone with valid := false }
    rw [← invalid]
  | cons first rest =>
    have size : (geometry.1.map fun float => (Json.number (platform.widen float) :
        Json Number)).length = geometry.1.length := List.length_map _
    have whole : 0 < (geometry.1.map fun float => (Json.number (platform.widen float) :
        Json Number)).length ∧ 12 ∣ (geometry.1.map fun float =>
          (Json.number (platform.widen float) : Json Number)).length := by
      rw [size]
      exact ⟨corners ▸ Nat.succ_pos _, geometry.2⟩
    have filled := fillFloats_written platform geometry.1
      (resized platform _ whole.2 chaperone.geometry.1).1
      ((resized_length platform _ whole.2 chaperone.geometry.1).trans size)
    rw [← corners, dif_pos whole]
    split
    · have nonempty : (!geometry.1.isEmpty) = true := by rw [corners]; rfl
      rw [nonempty]
      refine congrArg Except.ok ?_
      congr 1
      exact Subtype.ext (congrArg Prod.snd filled)
    · rename_i error thrown
      rw [filled] at thrown
      cases thrown

/-- The chaperone a valid one comes back as. -/
def reloadedChaperone (chaperone : Chaperone Single) : Chaperone Single :=
  { chaperone with valid := !chaperone.geometry.1.isEmpty }

theorem loadChaperone_written (chaperone : Chaperone Single) :
    loadChaperone platform (writeChaperone platform chaperone) (freshChaperone platform) =
      .ok (reloadedChaperone chaperone) := by
  show (within Chaperone.playSpaceSize
      (fun value chaperone => { chaperone with playSpaceSize := value })
      (loadFloatArray platform (floatArray platform chaperone.playSpaceSize.1))
      { freshChaperone platform with autoApply := chaperone.autoApply }).bind (runPhases
        [within Chaperone.standingCenter
          (fun value chaperone => { chaperone with standingCenter := value })
          (loadFloatArray platform (floatArray platform chaperone.standingCenter.1)),
        loadGeometry platform (floatArray platform chaperone.geometry.1)]) = _
  unfold within
  rw [loadFloatArray_written]
  simp only [Except.bind, runPhases]
  rw [loadFloatArray_written]
  dsimp only
  rw [loadGeometry_written platform chaperone.geometry rfl rfl]
  rfl

section Write

variable [DecidableEq Number] [DecidableEq Single]

/-- The object `WriteProfile` serializes. -/
def profileObject (ctx : Context Number Single Rotation) : List (String × Json Number) :=
  writtenObject (profileEntries platform ctx)

/-- The keys of a profile. -/
def profileKeys : List String :=
  ["schema_version", "alignment_params", "reference_tracking_system", "target_tracking_system",
    "roll", "yaw", "pitch", "x", "y", "z", "scale", "reference_device", "target_device",
    "continuous_calibration_target_offset_x", "continuous_calibration_target_offset_y",
    "continuous_calibration_target_offset_z", "autostart_continuous_calibration",
    "quash_target_in_continuous", "require_trigger_press_to_apply", "ignore_outliers",
    "static_calibration", "jitter_threshold", "max_relative_error_threshold",
    "target_latency_offset_ms", "latency_auto_detect", "estimated_latency_offset_ms",
    "latency_use_gcc_phat", "geometry_shift_use_cusum", "irls_velocity_aware", "irls_use_tukey",
    "translation_use_upstream", "translation_use_legacy", "blend_use_kalman", "rest_locked_yaw",
    "predictive_recovery", "reanchor_chi_square", "recalibrate_on_movement",
    "base_station_drift_correction", "calibration_speed", "chaperone", "relative_pos_calibrated",
    "lock_relative_position_mode", "relative_transform", "additional_calibrations",
    "wizard_completed"]

theorem map_fst_profileEntries (ctx : Context Number Single Rotation) :
    (profileEntries platform ctx).map Prod.fst = profileKeys := rfl

theorem field_profile {ctx : Context Number Single Rotation} {key : String}
    {value : Option (Json Number)} (index : Nat)
    (found : (profileEntries platform ctx)[index]? = some (key, value)) :
    field (profileObject platform ctx) key = value.getD .null := by
  refine field_writtenObject ?_ index found
  rw [map_fst_profileEntries]
  decide +kernel

/-! ### A written profile is loaded -/

/-- The state a context comes back in. -/
def reloadedState (state : Calibration.CalibrationState) : Calibration.CalibrationState :=
  if state.isContinuous then .continuousStandby else .none

/-- What a load of the written profile makes of a fresh context. -/
def reloaded (ctx : Context Number Single Rotation) : Context Number Single Rotation :=
  { ctx with
    state := reloadedState ctx.state
    alignmentSpeedParams := castParams platform ctx.alignmentSpeedParams
    additionalCalibrations := ctx.additionalCalibrations.map fun extra =>
      { extra with lockMode := clampedLockMode extra.lockMode }
    chaperone :=
      if ctx.chaperone.valid then reloadedChaperone ctx.chaperone else freshChaperone platform
    validProfile := true }

theorem loadDevices_written (ctx base : Context Number Single Rotation)
    (state : base.state = .none) (quash : base.quashTargetInContinuous = true)
    (trigger : base.requireTriggerPressToApply = false) (outliers : base.ignoreOutliers = true) :
    loadDevices platform (profileObject platform ctx) base =
      { base with
        referenceStandby := ctx.referenceStandby
        targetStandby := ctx.targetStandby
        state := reloadedState ctx.state
        quashTargetInContinuous := ctx.quashTargetInContinuous
        requireTriggerPressToApply := ctx.requireTriggerPressToApply
        ignoreOutliers := ctx.ignoreOutliers } := by
  have started : (if evaluateAsBoolean platform ((if ctx.state.isContinuous = true then
      some (Json.bool true) else none).getD .null) then
      Calibration.CalibrationState.continuousStandby else .none) = reloadedState ctx.state := by
    unfold reloadedState
    cases ctx.state.isContinuous <;> rfl
  unfold loadDevices
  rw [field_profile platform 11 rfl, field_profile platform 12 rfl, field_profile platform 16 rfl,
    field_profile platform 17 rfl, field_profile platform 18 rfl, field_profile platform 19 rfl,
    state, quash, trigger, outliers, started]
  simp only [Option.getD_some, loadStandby_written]
  congr 1
  · exact boolOr_written _ _
  · exact boolOr_written _ _
  · exact boolOr_written _ _

/-- The fresh context with all a written profile assigns before its settings. -/
def loadedDevices (ctx : Context Number Single Rotation) : Context Number Single Rotation :=
  { freshContext platform with
    alignmentSpeedParams := castParams platform ctx.alignmentSpeedParams
    continuousCalibrationThreshold := ctx.continuousCalibrationThreshold
    referenceTrackingSystem := ctx.referenceTrackingSystem
    targetTrackingSystem := ctx.targetTrackingSystem
    calibratedRotation := ctx.calibratedRotation
    calibratedTranslation := ctx.calibratedTranslation
    referenceStandby := ctx.referenceStandby
    targetStandby := ctx.targetStandby
    state := reloadedState ctx.state
    quashTargetInContinuous := ctx.quashTargetInContinuous
    requireTriggerPressToApply := ctx.requireTriggerPressToApply
    ignoreOutliers := ctx.ignoreOutliers
    continuousCalibrationOffset := ctx.continuousCalibrationOffset }

/-- The same after the settings. -/
def loadedSettings (ctx : Context Number Single Rotation) : Context Number Single Rotation :=
  { loadedDevices platform ctx with
    enableStaticRecalibration := ctx.enableStaticRecalibration
    jitterThreshold := ctx.jitterThreshold
    maxRelativeErrorThreshold := ctx.maxRelativeErrorThreshold
    targetLatencyOffsetMs := ctx.targetLatencyOffsetMs
    latencyAutoDetect := ctx.latencyAutoDetect
    estimatedLatencyOffsetMs := ctx.estimatedLatencyOffsetMs
    useGccPhatLatency := ctx.useGccPhatLatency
    useCusumGeometryShift := ctx.useCusumGeometryShift
    useVelocityAwareWeighting := ctx.useVelocityAwareWeighting
    useTukeyBiweight := ctx.useTukeyBiweight
    useUpstreamMath := ctx.useUpstreamMath
    useLegacyMath := ctx.useLegacyMath
    useBlendFilter := ctx.useBlendFilter
    restLockedYawEnabled := ctx.restLockedYawEnabled
    predictiveRecoveryEnabled := ctx.predictiveRecoveryEnabled
    reanchorChiSquareEnabled := ctx.reanchorChiSquareEnabled
    recalibrateOnMovement := ctx.recalibrateOnMovement
    baseStationDriftCorrectionEnabled := ctx.baseStationDriftCorrectionEnabled
    calibratedScale := ctx.calibratedScale
    calibrationSpeed := ctx.calibrationSpeed }

theorem loadSettings_written (ctx : Context Number Single Rotation) :
    loadSettings platform (profileObject platform ctx) (loadedDevices platform ctx) =
      loadedSettings platform ctx := by
  unfold loadSettings
  rw [field_profile platform 10 rfl, field_profile platform 20 rfl, field_profile platform 21 rfl,
    field_profile platform 22 rfl, field_profile platform 23 rfl, field_profile platform 24 rfl,
    field_profile platform 25 rfl, field_profile platform 26 rfl, field_profile platform 27 rfl,
    field_profile platform 28 rfl, field_profile platform 29 rfl, field_profile platform 30 rfl,
    field_profile platform 31 rfl, field_profile platform 32 rfl, field_profile platform 33 rfl,
    field_profile platform 34 rfl, field_profile platform 35 rfl, field_profile platform 36 rfl,
    field_profile platform 37 rfl, field_profile platform 38 rfl]
  unfold loadedSettings
  congr 1
  all_goals
    first
    | exact boolOr_written _ _
    | exact numberOr_written _ _
    | exact singleOr_written platform _ _
    | exact speedOr_written platform _ _

theorem loadLock_written (ctx base : Context Number Single Rotation)
    (mode : base.lockRelativePositionMode = .auto) :
    loadLock platform (profileObject platform ctx) base =
      { base with
        relativePosCalibrated := ctx.relativePosCalibrated
        lockRelativePositionMode := ctx.lockRelativePositionMode } := by
  have legacy : field (profileObject platform ctx) "lock_relative_position" = .null := by
    refine field_writtenObject_of_absent ?_
    rw [map_fst_profileEntries]
    decide +kernel
  unfold loadLock
  rw [legacy, field_profile platform 40 rfl, field_profile platform 41 rfl, mode]
  congr 1
  exact lockModeOr_written platform _ _

theorem loadExtras_written (ctx : Context Number Single Rotation) :
    loadExtras platform (field (profileObject platform ctx) "additional_calibrations") =
      ctx.additionalCalibrations.map fun extra =>
        { extra with lockMode := clampedLockMode extra.lockMode } := by
  rw [field_profile platform 43 rfl]
  cases entries : ctx.additionalCalibrations with
  | nil => rfl
  | cons first rest =>
    show ((first :: rest).map (writeExtra platform)).filterMap (loadExtra platform) = _
    rw [List.filterMap_map]
    have each : loadExtra platform ∘ writeExtra platform = fun extra =>
        some { extra with lockMode := clampedLockMode extra.lockMode } :=
      funext fun extra => loadExtra_written platform extra
    rw [each, List.filterMap_eq_map']

theorem loadRest_written (ctx base : Context Number Single Rotation)
    (wizard : base.wizardCompleted = false) :
    loadRest platform (profileObject platform ctx) base =
      { base with
        additionalCalibrations := ctx.additionalCalibrations.map fun extra =>
          { extra with lockMode := clampedLockMode extra.lockMode }
        wizardCompleted := ctx.wizardCompleted
        validProfile := true } := by
  unfold loadRest
  rw [loadExtras_written, field_profile platform 44 rfl, wizard]
  congr 1
  cases ctx.wizardCompleted <;> rfl

/-- The phase of the chaperone on a written profile. -/
theorem loadChaperone_profile (ctx : Context Number Single Rotation) :
    loadChaperone platform (field (profileObject platform ctx) "chaperone")
        (freshChaperone platform) =
      .ok (if ctx.chaperone.valid then reloadedChaperone ctx.chaperone
        else freshChaperone platform) := by
  rw [field_profile platform 39 rfl]
  cases ctx.chaperone.valid with
  | true => exact loadChaperone_written platform ctx.chaperone
  | false => rfl

/-- The fresh context with the calibration of the written profile. -/
def loadedCalibration (ctx : Context Number Single Rotation) : Context Number Single Rotation :=
  { freshContext platform with
    alignmentSpeedParams := castParams platform ctx.alignmentSpeedParams
    continuousCalibrationThreshold := ctx.continuousCalibrationThreshold
    referenceTrackingSystem := ctx.referenceTrackingSystem
    targetTrackingSystem := ctx.targetTrackingSystem
    calibratedRotation := ctx.calibratedRotation
    calibratedTranslation := ctx.calibratedTranslation }

theorem runPhases_calibration (ctx : Context Number Single Rotation) :
    runPhases (loadPhases platform (profileObject platform ctx)) (freshContext platform) =
      runPhases ((loadPhases platform (profileObject platform ctx)).drop 9)
        (loadedCalibration platform ctx) := by
  have params : loadAlignmentParams platform
      (field (profileObject platform ctx) "alignment_params") (freshContext platform) =
        { freshContext platform with
          alignmentSpeedParams := castParams platform ctx.alignmentSpeedParams
          continuousCalibrationThreshold := ctx.continuousCalibrationThreshold } := by
    rw [field_profile platform 1 rfl]
    exact loadAlignmentParams_written platform ctx (freshContext platform)
  unfold loadPhases
  rw [runPhases_assign, params, field_profile platform 2 rfl, field_profile platform 3 rfl,
    field_profile platform 4 rfl, field_profile platform 5 rfl, field_profile platform 6 rfl,
    field_profile platform 7 rfl, field_profile platform 8 rfl, field_profile platform 9 rfl]
  simp only [Option.getD_some, getString, getNumber, runPhases_require, List.drop_succ_cons,
    List.drop_zero]
  rfl

theorem runPhases_devices (ctx : Context Number Single Rotation) :
    runPhases ((loadPhases platform (profileObject platform ctx)).drop 9)
        (loadedCalibration platform ctx) =
      runPhases ((loadPhases platform (profileObject platform ctx)).drop 13)
        (loadedDevices platform ctx) := by
  have devices : loadDevices platform (profileObject platform ctx)
      (loadedCalibration platform ctx) = { loadedCalibration platform ctx with
        referenceStandby := ctx.referenceStandby
        targetStandby := ctx.targetStandby
        state := reloadedState ctx.state
        quashTargetInContinuous := ctx.quashTargetInContinuous
        requireTriggerPressToApply := ctx.requireTriggerPressToApply
        ignoreOutliers := ctx.ignoreOutliers } :=
    loadDevices_written platform ctx (loadedCalibration platform ctx) rfl rfl rfl rfl
  unfold loadPhases
  simp only [List.drop_succ_cons, List.drop_zero]
  rw [runPhases_assign, devices, field_profile platform 13 rfl, field_profile platform 14 rfl,
    field_profile platform 15 rfl]
  simp only [Option.getD_some, getNumber, runPhases_require]
  rfl

/-- The fresh context with all a written profile assigns up to its chaperone. -/
def loadedChaperone (ctx : Context Number Single Rotation) : Context Number Single Rotation :=
  { loadedSettings platform ctx with
    chaperone :=
      if ctx.chaperone.valid then reloadedChaperone ctx.chaperone else freshChaperone platform }

theorem runPhases_settings (ctx : Context Number Single Rotation) :
    runPhases ((loadPhases platform (profileObject platform ctx)).drop 13)
        (loadedDevices platform ctx) =
      runPhases ((loadPhases platform (profileObject platform ctx)).drop 15)
        (loadedChaperone platform ctx) := by
  have chaperone : within Context.chaperone (fun value ctx => { ctx with chaperone := value })
      (loadChaperone platform (field (profileObject platform ctx) "chaperone"))
      (loadedSettings platform ctx) = .ok (loadedChaperone platform ctx) := by
    unfold within
    rw [show (loadedSettings platform ctx).chaperone = freshChaperone platform from rfl,
      loadChaperone_profile]
    rfl
  unfold loadPhases
  simp only [List.drop_succ_cons, List.drop_zero]
  rw [runPhases_assign, loadSettings_written, runPhases_of_ok chaperone]

/-- The phases accept a written profile. -/
theorem runPhases_written (ctx : Context Number Single Rotation) :
    runPhases (loadPhases platform (profileObject platform ctx)) (freshContext platform) =
      .ok (reloaded platform ctx) := by
  rw [runPhases_calibration, runPhases_devices, runPhases_settings]
  unfold loadPhases
  simp only [List.drop_succ_cons, List.drop_zero]
  rw [runPhases_assign, loadLock_written platform ctx (loadedChaperone platform ctx) rfl,
    field_profile platform 42 rfl, Option.getD_some,
    runPhases_of_ok (loadRelativeTransform_written platform ctx.refToTargetPose _),
    runPhases_assign, loadRest_written platform ctx _ rfl]
  rfl

theorem profileVersion_written (ctx : Context Number Single Rotation) :
    profileVersion platform.truncate (profileObject platform ctx) = 3 := by
  unfold profileVersion
  rw [field_profile platform 0 rfl]
  exact platform.truncate_literal 3

/-- The profile of a valid context is loaded on a fresh one. -/
theorem parseProfile_written (ctx : Context Number Single Rotation) :
    parseProfile platform (.ok (.array [.object (profileObject platform ctx)]))
      (freshContext platform) = .ok (reloaded platform ctx) := by
  unfold parseProfile
  rw [show profileFields (.ok (.array [.object (profileObject platform ctx)])) =
    .ok (profileObject platform ctx) from rfl]
  dsimp only
  rw [profileVersion_written, if_neg (by decide), if_neg (by decide)]
  exact runPhases_written platform ctx

/-! ### What an accepted profile holds -/

section Accepted

omit [DecidableEq Single]

variable {fields : List (String × Json Number)} {base ctx : Context Number Single Rotation}

theorem loadPhases_params (ran : runPhases (loadPhases platform fields) base = .ok ctx) :
    ctx.alignmentSpeedParams = (loadAlignmentParams platform (field fields "alignment_params")
      base).alignmentSpeedParams := by
  have params := outcome_params platform fields base
  rw [ran] at params
  exact params

omit [DecidableEq Number] in
/-- `LoadAlignmentParams` leaves the chaperone and the state alone. -/
theorem loadAlignmentParams_frame (value : Json Number) (ctx : Context Number Single Rotation) :
    (loadAlignmentParams platform value ctx).chaperone = ctx.chaperone ∧
      (loadAlignmentParams platform value ctx).state = ctx.state := by
  cases value <;> exact ⟨rfl, rfl⟩

/-- The chaperone is that of its phase. -/
theorem loadPhases_chaperone (ran : runPhases (loadPhases platform fields) base = .ok ctx) :
    loadChaperone platform (field fields "chaperone") base.chaperone = .ok ctx.chaperone := by
  rw [← List.take_append_drop 14 (loadPhases platform fields)] at ran
  obtain ⟨middle, before, later⟩ := runPhases_append_ok ran
  have untouched : middle.chaperone = base.chaperone := by
    refine Keeps.of_ok (keeps_runPhases ?_) before
    simp only [loadPhases, List.take_succ_cons, List.take_zero, List.forall_mem_cons]
    refine ⟨keeps_assign fun ctx => (loadAlignmentParams_frame platform _ ctx).1,
      ?_, ?_, ?_, ?_, ?_, ?_, ?_, ?_, ?_, ?_, ?_, ?_, ?_, ?_⟩
    all_goals
      first
      | exact keeps_require fun _ _ => rfl
      | exact keeps_assign fun ctx => rfl
      | exact fun phase member => absurd member List.not_mem_nil
  simp only [loadPhases, List.drop_succ_cons, List.drop_zero] at later
  obtain ⟨loaded, phase, rest⟩ := runPhases_cons_ok later
  have kept : ctx.chaperone = loaded.chaperone := by
    refine Keeps.of_ok (keeps_runPhases ?_) rest
    simp only [List.forall_mem_cons]
    exact ⟨keeps_assign fun ctx => rfl, keeps_loadRelativeTransform platform _ fun _ _ => rfl,
      keeps_assign fun ctx => rfl, fun phase member => absurd member List.not_mem_nil⟩
  obtain ⟨chaperone, chaperoneLoaded, rfl⟩ := within_ok phase
  rw [← untouched, kept]
  exact chaperoneLoaded

/-- The phases before the devices leave the state alone. -/
theorem keeps_state_before (fields : List (String × Json Number)) :
    Keeps Context.state (runPhases ((loadPhases platform fields).take 9)) := by
  refine keeps_runPhases ?_
  simp only [loadPhases, List.take_succ_cons, List.take_zero, List.forall_mem_cons]
  refine ⟨keeps_assign fun ctx => (loadAlignmentParams_frame platform _ ctx).2,
    ?_, ?_, ?_, ?_, ?_, ?_, ?_, ?_, ?_⟩
  all_goals
    first
    | exact keeps_require fun _ _ => rfl
    | exact fun phase member => absurd member List.not_mem_nil

/-- So do the phases after them. -/
theorem keeps_state_after (fields : List (String × Json Number)) :
    Keeps Context.state (runPhases ((loadPhases platform fields).drop 10)) := by
  refine keeps_runPhases ?_
  simp only [loadPhases, List.drop_succ_cons, List.drop_zero, List.forall_mem_cons]
  refine ⟨?_, ?_, ?_, ?_, ?_, ?_, ?_, ?_, ?_⟩
  all_goals
    first
    | exact keeps_require fun _ _ => rfl
    | exact keeps_assign fun _ => rfl
    | exact keeps_within fun _ _ => rfl
    | exact keeps_loadRelativeTransform platform _ fun _ _ => rfl
    | exact fun phase member => absurd member List.not_mem_nil

/-- The state a load ends with, whether or not it throws. -/
theorem outcome_state (fields : List (String × Json Number))
    (base : Context Number Single Rotation) :
    (outcome (runPhases (loadPhases platform fields) base)).state =
      match runPhases ((loadPhases platform fields).take 9) base with
      | .ok _ =>
        if evaluateAsBoolean platform (field fields "autostart_continuous_calibration") then
          .continuousStandby
        else base.state
      | .error _ => base.state := by
  have before := keeps_state_before platform fields base
  have whole := runPhases_append ((loadPhases platform fields).take 9)
    ((loadPhases platform fields).drop 9) base
  rw [List.take_append_drop] at whole
  rw [whole]
  cases ran : runPhases ((loadPhases platform fields).take 9) base with
  | error error =>
    rw [ran] at before
    exact before
  | ok middle =>
    rw [ran] at before
    have after := keeps_state_after platform fields (loadDevices platform fields middle)
    show (outcome (runPhases ((loadPhases platform fields).drop 10)
      (loadDevices platform fields middle))).state = _
    rw [after]
    show (if _ then _ else middle.state) = (if _ then _ else base.state)
    rw [show middle.state = base.state from before]

/-- The state is continuous standby, or that of before. -/
theorem loadPhases_state (ran : runPhases (loadPhases platform fields) base = .ok ctx) :
    ctx.state = .continuousStandby ∨ ctx.state = base.state := by
  have state := outcome_state platform fields base
  rw [ran] at state
  change ctx.state = _ at state
  rw [state]
  split
  · split
    · exact Or.inl rfl
    · exact Or.inr rfl
  · exact Or.inr rfl

/-- The last phase assigns the additional calibrations and makes the profile valid. -/
theorem loadPhases_rest (ran : runPhases (loadPhases platform fields) base = .ok ctx) :
    ctx.additionalCalibrations = loadExtras platform (field fields "additional_calibrations") ∧
      ctx.validProfile = true := by
  rw [← List.take_append_drop 17 (loadPhases platform fields)] at ran
  obtain ⟨middle, -, later⟩ := runPhases_append_ok ran
  simp only [loadPhases, List.drop_succ_cons, List.drop_zero] at later
  rw [runPhases_assign] at later
  rw [← Except.ok.inj later]
  exact ⟨rfl, rfl⟩

end Accepted

/-! ### Chaperones that are kept -/

section Kept

omit [DecidableEq Number] [DecidableEq Single]

/-- The value is an array of numbers that are these floats after the cast. -/
def ReadsAs {size : Nat} (value : Json Number) (floats : Floats Single size) : Prop :=
  ∃ numbers : List Number, value = .array (numbers.map .number) ∧
    numbers.map platform.narrow = floats.1

/-- The geometry of the value is one that makes the chaperone valid. -/
def HasGeometry (value : Json Number) : Prop :=
  ∃ items, value = .array items ∧ 0 < items.length ∧ 12 ∣ items.length

/-- The chaperone of a profile survives the next save: it is absent, or has a geometry, or is that
of a fresh context. -/
def ChaperoneKept (value : Json Number) : Prop :=
  match value with
  | .object fields =>
    HasGeometry (field fields "geometry") ∨
      (field fields "auto_apply" = .bool true ∧
        ReadsAs platform (field fields "play_space_size") (freshChaperone platform).playSpaceSize ∧
        ReadsAs platform (field fields "standing_center") (freshChaperone platform).standingCenter)
  | _ => True

theorem fillFloats_none {items : List (Json Number)} {buffer : List Single}
    (same : items.length = buffer.length)
    (filled : (fillFloats platform items buffer).1 = none) :
    ∃ numbers : List Number, items = numbers.map .number ∧
      numbers.map platform.narrow = (fillFloats platform items buffer).2 := by
  induction items generalizing buffer with
  | nil =>
    obtain rfl : buffer = [] := List.length_eq_zero_iff.mp same.symm
    exact ⟨[], rfl, rfl⟩
  | cons item items inductionHypothesis =>
    cases buffer with
    | nil => cases same
    | cons old rest =>
      rw [fillFloats] at filled ⊢
      cases item with
      | number value =>
        obtain ⟨numbers, rfl, floats⟩ := inductionHypothesis (Nat.succ.inj same) filled
        exact ⟨value :: numbers, rfl, congrArg (platform.narrow value :: ·) floats⟩
      | null => cases filled
      | bool value => cases filled
      | string value => cases filled
      | array value => cases filled
      | object value => cases filled

/-- An array that is loaded reads as these floats, and as no others. -/
theorem readsAs_iff_of_loaded {size : Nat} {value : Json Number} {buffer floats : Floats Single size}
    (loaded : loadFloatArray platform value buffer = .ok floats) (other : Floats Single size) :
    ReadsAs platform value other ↔ floats = other := by
  cases value with
  | array items =>
    unfold loadFloatArray at loaded
    dsimp only at loaded
    split at loaded
    · rename_i fits
      split at loaded
      · rename_i filled
        obtain ⟨numbers, rfl, narrowed⟩ :=
          fillFloats_none platform (fits.trans buffer.2.symm) filled
        obtain rfl := Except.ok.inj loaded
        constructor
        · rintro ⟨others, same, reads⟩
          have numbersSame : numbers = others :=
            List.map_injective_iff.mpr (fun _ _ equal => Json.number.inj equal) (Json.array.inj same)
          refine Subtype.ext ?_
          rw [← reads, ← numbersSame]
          exact narrowed.symm
        · rintro rfl
          exact ⟨numbers, rfl, narrowed⟩
      · cases loaded
    · cases loaded
  | null => cases loaded
  | bool value => cases loaded
  | number value => cases loaded
  | string value => cases loaded
  | object value => cases loaded

/-- The geometry of a loaded chaperone: with one it is valid, without it nothing changes. -/
theorem loadGeometry_ok {value : Json Number} {chaperone after : Chaperone Single}
    (loaded : loadGeometry platform value chaperone = .ok after) :
    (HasGeometry value ∧ after.valid = true ∧ after.geometry.1 ≠ []) ∨
      (¬HasGeometry value ∧ after = chaperone) := by
  cases value with
  | array items =>
    unfold loadGeometry at loaded
    dsimp only at loaded
    split at loaded
    · rename_i whole
      refine Or.inl ⟨⟨items, rfl, whole⟩, ?_⟩
      split at loaded
      · obtain rfl := Except.ok.inj loaded
        refine ⟨rfl, fun empty => ?_⟩
        have size := congrArg List.length empty
        dsimp only at size
        rw [fillFloats_length, resized_length, List.length_nil] at size
        omega
      · cases loaded
    · rename_i corrupt
      refine Or.inr ⟨?_, (Except.ok.inj loaded).symm⟩
      rintro ⟨others, same, whole⟩
      obtain rfl := Json.array.inj same
      exact corrupt whole
  | null => cases loaded
  | bool value => cases loaded
  | number value => cases loaded
  | string value => cases loaded
  | object value => cases loaded

theorem getBool_ok {value : Json Number} {flag : Bool} (read : getBool value = .ok flag) :
    value = .bool flag := by
  cases value with
  | bool value => exact congrArg Json.bool (Except.ok.inj read)
  | null | number _ | string _ | array _ | object _ => cases read

/-- A loaded chaperone is valid or that of a fresh context exactly if it is kept, and a valid one
has a geometry. -/
theorem loadChaperone_ok {value : Json Number} {chaperone : Chaperone Single}
    (loaded : loadChaperone platform value (freshChaperone platform) = .ok chaperone) :
    ((chaperone.valid = true ∨ chaperone = freshChaperone platform) ↔
      ChaperoneKept platform value) ∧
      (chaperone.valid = true → chaperone.geometry.1 ≠ []) := by
  have untouched : (freshChaperone platform : Chaperone Single).valid = true →
      (freshChaperone platform : Chaperone Single).geometry.1 ≠ [] := fun valid => nomatch valid
  cases value with
  | object fields =>
    obtain ⟨applied, applies, rest⟩ := runPhases_cons_ok loaded
    obtain ⟨sized, sizes, rest⟩ := runPhases_cons_ok rest
    obtain ⟨centered, centers, rest⟩ := runPhases_cons_ok rest
    obtain ⟨final, geometry, rest⟩ := runPhases_cons_ok rest
    obtain rfl := Except.ok.inj rest
    obtain ⟨autoApply, reads, rfl⟩ := require_ok applies
    obtain ⟨size, sizeLoaded, rfl⟩ := within_ok sizes
    obtain ⟨center, centerLoaded, rfl⟩ := within_ok centers
    have sizeReads := readsAs_iff_of_loaded platform sizeLoaded (freshChaperone platform).playSpaceSize
    have centerReads :=
      readsAs_iff_of_loaded platform centerLoaded (freshChaperone platform).standingCenter
    show ((_ ∨ _) ↔ HasGeometry (field fields "geometry") ∨
      (field fields "auto_apply" = .bool true ∧ ReadsAs platform _ _ ∧ ReadsAs platform _ _)) ∧ _
    rw [sizeReads, centerReads]
    rcases loadGeometry_ok platform geometry with ⟨has, valid, corners⟩ | ⟨lacks, rfl⟩
    · exact ⟨⟨fun _ => Or.inl has, fun _ => Or.inl valid⟩, fun _ => corners⟩
    · refine ⟨⟨?_, ?_⟩, untouched⟩
      · rintro (valid | same)
        · exact nomatch valid
        · have applySame : autoApply = true := congrArg Chaperone.autoApply same
          rw [applySame] at reads
          exact Or.inr ⟨getBool_ok reads, congrArg Chaperone.playSpaceSize same,
            congrArg Chaperone.standingCenter same⟩
      · rintro (has | ⟨apply, rfl, rfl⟩)
        · exact absurd has lacks
        · rw [apply] at reads
          obtain rfl : true = autoApply := Except.ok.inj reads
          exact Or.inr rfl
  | null | bool _ | number _ | string _ | array _ =>
    obtain rfl := Except.ok.inj loaded
    exact ⟨⟨fun _ => trivial, fun _ => Or.inr rfl⟩, untouched⟩

end Kept

/-! ### Lock modes and alignment parameters that are kept -/

section Parameters

omit [DecidableEq Number] [DecidableEq Single]

theorem clampedLockMode_eq_iff (mode : Int32) :
    clampedLockMode mode = mode ↔ 0 ≤ mode.toInt ∧ mode.toInt ≤ 2 := by
  unfold clampedLockMode
  split
  · rename_i outside
    constructor
    · intro same
      rw [← same] at outside
      exact absurd outside (by decide)
    · intro inside
      omega
  · rename_i inside
    exact ⟨fun _ => by omega, fun _ => rfl⟩

/-- The lock mode of a loaded additional calibration is in range. -/
theorem clampedLockMode_extraLockMode (value : Json Number) :
    clampedLockMode (extraLockMode platform value) = extraLockMode platform value := by
  cases value with
  | number value =>
    unfold extraLockMode
    dsimp only
    split
    · rfl
    · rename_i inside
      have low : 0 ≤ platform.truncate value := by omega
      have high : platform.truncate value ≤ 2 := by omega
      generalize platform.truncate value = raw at low high
      interval_cases raw <;> rfl
  | null | bool _ | string _ | array _ | object _ => rfl

theorem clampedLockMode_loadExtra {value : Json Number} {extra : AdditionalCalibration Number}
    (loaded : loadExtra platform value = some extra) :
    clampedLockMode extra.lockMode = extra.lockMode := by
  cases value with
  | object fields =>
    obtain rfl := Option.some.inj loaded
    exact clampedLockMode_extraLockMode platform (field fields "lock_mode")
  | null | bool _ | number _ | string _ | array _ => cases loaded

/-- A list of additional calibrations comes back if each lock mode does. -/
theorem map_clamped_eq_iff (extras : List (AdditionalCalibration Number)) :
    (extras.map fun extra => { extra with lockMode := clampedLockMode extra.lockMode }) = extras ↔
      ∀ extra ∈ extras, clampedLockMode extra.lockMode = extra.lockMode := by
  conv_lhs => rhs; rw [← List.map_id extras]
  rw [List.map_inj_left]
  constructor
  · intro same extra member
    exact congrArg AdditionalCalibration.lockMode (same extra member)
  · intro same extra member
    rw [same extra member]
    rfl

theorem map_clamped_loadExtras (value : Json Number) :
    ((loadExtras platform value).map fun extra =>
      { extra with lockMode := clampedLockMode extra.lockMode }) = loadExtras platform value := by
  rw [map_clamped_eq_iff]
  intro extra member
  cases value with
  | array items =>
    obtain ⟨item, -, loaded⟩ := List.mem_filterMap.mp member
    exact clampedLockMode_loadExtra platform loaded
  | null | bool _ | number _ | string _ | object _ => cases member

/-- The alignment parameters that are saved, with the defaults of `ResetConfig`. -/
def paramDefaults : List (String × Number) :=
  [("align_speed_tiny", (resetParams platform).alignSpeedTiny),
    ("align_speed_small", (resetParams platform).alignSpeedSmall),
    ("align_speed_large", (resetParams platform).alignSpeedLarge),
    ("thr_trans_tiny", (resetParams platform).thrTransTiny),
    ("thr_trans_small", (resetParams platform).thrTransSmall),
    ("thr_trans_large", (resetParams platform).thrTransLarge),
    ("thr_rot_tiny", (resetParams platform).thrRotTiny),
    ("thr_rot_small", (resetParams platform).thrRotSmall),
    ("thr_rot_large", (resetParams platform).thrRotLarge)]

/-- The fields of the alignment parameters of a profile. -/
def paramFields : Json Number → List (String × Json Number)
  | .object fields => fields
  | _ => []

/-- Each alignment parameter of the profile is a number, or its default is a float. -/
def ParamsKept (value : Json Number) : Prop :=
  ∀ entry ∈ paramDefaults platform,
    (∃ number, field (paramFields value) entry.1 = .number number) ∨
      castParam platform entry.2 = entry.2

theorem castParam_castOr_iff (value : Json Number) (default : Number) :
    castParam platform (castOr platform value default) = castOr platform value default ↔
      (∃ number, value = .number number) ∨ castParam platform default = default := by
  cases value with
  | number value =>
    refine ⟨fun _ => Or.inl ⟨value, rfl⟩, fun _ => ?_⟩
    show platform.widen (platform.narrow (platform.widen (platform.narrow value))) =
      platform.widen (platform.narrow value)
    rw [platform.narrow_widen]
  | null | bool _ | string _ | array _ | object _ =>
    constructor
    · exact Or.inr
    · rintro (⟨number, impossible⟩ | same)
      · cases impossible
      · exact same

/-- A loaded alignment parameter is its field, or its default. -/
theorem loadAlignmentParams_params (value : Json Number) (ctx : Context Number Single Rotation) :
    (loadAlignmentParams platform value ctx).alignmentSpeedParams =
      { alignSpeedTiny := castOr platform (field (paramFields value) "align_speed_tiny")
          (resetParams platform).alignSpeedTiny
        alignSpeedSmall := castOr platform (field (paramFields value) "align_speed_small")
          (resetParams platform).alignSpeedSmall
        alignSpeedLarge := castOr platform (field (paramFields value) "align_speed_large")
          (resetParams platform).alignSpeedLarge
        thrTransTiny := castOr platform (field (paramFields value) "thr_trans_tiny")
          (resetParams platform).thrTransTiny
        thrTransSmall := castOr platform (field (paramFields value) "thr_trans_small")
          (resetParams platform).thrTransSmall
        thrTransLarge := castOr platform (field (paramFields value) "thr_trans_large")
          (resetParams platform).thrTransLarge
        thrRotTiny := castOr platform (field (paramFields value) "thr_rot_tiny")
          (resetParams platform).thrRotTiny
        thrRotSmall := castOr platform (field (paramFields value) "thr_rot_small")
          (resetParams platform).thrRotSmall
        thrRotLarge := castOr platform (field (paramFields value) "thr_rot_large")
          (resetParams platform).thrRotLarge } := by
  cases value <;> rfl

/-- Loaded alignment parameters are floats exactly if they are kept. -/
theorem castParams_loaded_iff (value : Json Number) (ctx : Context Number Single Rotation) :
    castParams platform (loadAlignmentParams platform value ctx).alignmentSpeedParams =
        (loadAlignmentParams platform value ctx).alignmentSpeedParams ↔
      ParamsKept platform value := by
  rw [loadAlignmentParams_params, castParams, AlignmentSpeedParams.mk.injEq]
  simp only [ParamsKept, paramDefaults, List.forall_mem_cons, castParam_castOr_iff,
    List.not_mem_nil, false_implies, implies_true, and_true]

/-- Rewriting and dropping entries of other keys leaves a key alone. -/
theorem field_filter_map {rewrites : String × Json Number → String × Json Number}
    {keeps : String × Json Number → Bool} {key : String}
    (names : ∀ entry, (rewrites entry).1 = entry.1)
    (same : ∀ entry, entry.1 = key → rewrites entry = entry ∧ keeps entry = true)
    (fields : List (String × Json Number)) :
    field ((fields.map rewrites).filter keeps) key = field fields key := by
  unfold field
  rw [List.find?_filter, List.find?_map]
  have looksUp : (fun entry => decide (keeps entry = true ∧ (entry.1 == key) = true)) ∘ rewrites =
      fun entry => entry.1 == key := by
    funext entry
    by_cases named : entry.1 = key
    · obtain ⟨unchanged, kept⟩ := same entry named
      simp only [Function.comp_apply, unchanged, kept, true_and, Bool.decide_eq_true]
    · have other : (entry.1 == key) = false := beq_eq_false_iff_ne.mpr named
      simp only [Function.comp_apply, names, other, Bool.false_eq_true, and_false, decide_false]
  rw [looksUp]
  cases found : fields.find? fun entry => entry.1 == key with
  | none => rfl
  | some entry =>
    have named := List.find?_some found
    rw [Option.map_some, (same entry (beq_iff_eq.mp named)).1]

/-- A migration rewrites the speed and drops one key, and leaves every other key alone. -/
theorem field_migrateProfile (version : Int) (fields : List (String × Json Number)) {key : String}
    (speed : key ≠ "calibration_speed") (suppress : key ≠ "auto_suppress_on_external_tool") :
    field (migrateProfile platform version fields) key = field fields key := by
  unfold migrateProfile
  split
  · refine field_filter_map ?_ ?_ fields
    · intro entry
      split <;> rfl
    · intro entry named
      refine ⟨?_, bne_iff_ne.mpr (named ▸ suppress)⟩
      split
      · exact absurd named.symm speed
      · rfl
  · rfl

end Parameters

/-! ### The round trip -/

section Text

variable {Text : Type} (serialize : Json Number → Text)
  (parse : Text → Except String (Json Number))

/-- A save, and a load of what it wrote into a fresh context; without a valid profile nothing is
written. -/
def reload (ctx : Context Number Single Rotation) :
    Option (Except (LoadError × Context Number Single Rotation) (Context Number Single Rotation)) :=
  (writeProfile platform ctx).map fun json =>
    parseProfile platform (parse (serialize json)) (freshContext platform)

omit [DecidableEq Number] [DecidableEq Single] in
/-- The context has every saved field of the one before. A continuous state comes back as standby,
and the data of a chaperone is saved if the chaperone is valid. -/
structure Restored (before after : Context Number Single Rotation) : Prop where
  fields : after =
    { before with state := reloadedState before.state, chaperone := after.chaperone }
  chaperoneValid : after.chaperone.valid = before.chaperone.valid
  chaperoneData : before.chaperone.valid = true → after.chaperone = before.chaperone

variable {serialize parse}

theorem reload_eq (inverts : ∀ json, parse (serialize json) = .ok json)
    {ctx : Context Number Single Rotation} (valid : ctx.validProfile = true) :
    reload platform serialize parse ctx = some (.ok (reloaded platform ctx)) := by
  unfold reload writeProfile
  rw [if_pos valid, Option.map_some, inverts]
  exact congrArg some (parseProfile_written platform ctx)

omit [DecidableEq Number] [DecidableEq Single] in
/-- What comes back is restored if a valid chaperone has a geometry and the lock modes are in
range. -/
theorem restored_reloaded_iff {ctx : Context Number Single Rotation}
    (valid : ctx.validProfile = true)
    (floats : castParams platform ctx.alignmentSpeedParams = ctx.alignmentSpeedParams) :
    Restored ctx (reloaded platform ctx) ↔
      (ctx.chaperone.valid = true → ctx.chaperone.geometry.1 ≠ []) ∧
        ∀ extra ∈ ctx.additionalCalibrations,
          0 ≤ extra.lockMode.toInt ∧ extra.lockMode.toInt ≤ 2 := by
  have clamped := map_clamped_eq_iff ctx.additionalCalibrations
  simp only [clampedLockMode_eq_iff] at clamped
  rw [← clamped]
  constructor
  · intro restored
    refine ⟨fun chaperoneValid empty => ?_, congrArg Context.additionalCalibrations restored.fields⟩
    have kept := restored.chaperoneValid
    simp only [reloaded, reloadedChaperone, chaperoneValid, if_true, empty, List.isEmpty_nil,
      Bool.not_true, Bool.false_eq_true] at kept
  · rintro ⟨corners, extras⟩
    have chaperoneSame : ctx.chaperone.valid = true →
        (reloaded platform ctx).chaperone = ctx.chaperone := by
      intro chaperoneValid
      have nonempty : (!ctx.chaperone.geometry.1.isEmpty) = true := by
        simpa only [Bool.not_eq_true', List.isEmpty_eq_false_iff] using corners chaperoneValid
      simp only [reloaded, reloadedChaperone, chaperoneValid, if_true, nonempty]
      rw [← chaperoneValid]
    refine ⟨?_, ?_, chaperoneSame⟩
    · unfold reloaded
      rw [floats, extras, ← valid]
    · cases chaperoneValid : ctx.chaperone.valid with
      | true => rw [chaperoneSame chaperoneValid, chaperoneValid]
      | false => simp only [reloaded, chaperoneValid, Bool.false_eq_true, if_false, freshChaperone]

/-- The profile that `ParseProfile` loads, after its migration. -/
def migratedFields (fields : List (String × Json Number)) : List (String × Json Number) :=
  let version := profileVersion platform.truncate fields
  if version < kProfileSchemaVersion then migrateProfile platform version fields else fields

omit [DecidableEq Number] [DecidableEq Single] in
theorem field_migratedFields (fields : List (String × Json Number)) {key : String}
    (speed : key ≠ "calibration_speed") (suppress : key ≠ "auto_suppress_on_external_tool") :
    field (migratedFields platform fields) key = field fields key := by
  unfold migratedFields
  dsimp only
  split
  · exact field_migrateProfile platform _ fields speed suppress
  · rfl

omit [DecidableEq Single] in
theorem parseProfile_eq {parsed : Except String (Json Number)}
    {fields : List (String × Json Number)} (found : profileFields parsed = .ok fields)
    (supported : profileVersion platform.truncate fields ≤ kProfileSchemaVersion)
    (ctx : Context Number Single Rotation) :
    parseProfile platform parsed ctx =
      runPhases (loadPhases platform (migratedFields platform fields)) ctx := by
  unfold parseProfile
  rw [found]
  dsimp only
  rw [if_neg (not_lt.mpr supported)]
  rfl

omit [DecidableEq Single] in
/-- A loaded context comes back from a save exactly if the profile it was loaded from keeps its
alignment parameters and its chaperone. -/
theorem reloaded_loaded_iff {fields : List (String × Json Number)}
    {ctx : Context Number Single Rotation}
    (ran : runPhases (loadPhases platform (migratedFields platform fields))
      (freshContext platform) = .ok ctx) :
    reloaded platform ctx = ctx ↔
      ParamsKept platform (field fields "alignment_params") ∧
        ChaperoneKept platform (field fields "chaperone") := by
  obtain ⟨extras, valid⟩ := loadPhases_rest platform ran
  have params := loadPhases_params platform ran
  have chaperone := loadPhases_chaperone platform ran
  rw [field_migratedFields platform fields (by decide) (by decide)] at params chaperone
  obtain ⟨kept, corners⟩ := loadChaperone_ok platform chaperone
  rw [← castParams_loaded_iff platform _ (freshContext platform), ← params, ← kept]
  have extrasSame : (ctx.additionalCalibrations.map fun extra =>
      { extra with lockMode := clampedLockMode extra.lockMode }) = ctx.additionalCalibrations := by
    rw [extras]
    exact map_clamped_loadExtras platform _
  have stateSame : reloadedState ctx.state = ctx.state := by
    rcases loadPhases_state platform ran with standby | fresh
    · rw [standby]
      rfl
    · rw [fresh]
      rfl
  constructor
  · intro same
    refine ⟨congrArg Context.alignmentSpeedParams same, ?_⟩
    have chaperoneSame := congrArg Context.chaperone same
    cases chaperoneValid : ctx.chaperone.valid with
    | true => exact Or.inl rfl
    | false =>
      simp only [reloaded, chaperoneValid, Bool.false_eq_true, if_false] at chaperoneSame
      exact Or.inr chaperoneSame.symm
  · rintro ⟨floats, chaperoneKept⟩
    have restored := (restored_reloaded_iff platform valid floats).mpr
      ⟨corners, fun extra member => (clampedLockMode_eq_iff extra.lockMode).mp
        ((map_clamped_eq_iff _).mp extrasSame extra member)⟩
    have chaperoneSame : (reloaded platform ctx).chaperone = ctx.chaperone := by
      rcases chaperoneKept with chaperoneValid | fresh
      · exact restored.chaperoneData chaperoneValid
      · simp only [reloaded, fresh]
        rfl
    rw [restored.fields, chaperoneSame, stateSame]

end Text

end Write

end RoundTrip

/-! ### A context that comes back, and one that does not -/

section Instances

/-- Numbers that are rationals, with every rational a float, and rotations that are quaternions. -/
def rationalPlatform : Platform Rat Rat (Quat Rat) where
  literal := id
  pi := 355 / 113
  mul := (· * ·)
  div := (· / ·)
  narrow := id
  widen := id
  truncate value := value.num.tdiv value.den
  identity := ⟨1, 0, 0, 0⟩
  toQuat := id
  ofQuat := id
  ofEuler _ _ _ := ⟨1, 0, 0, 0⟩
  narrow_widen _ := rfl
  truncate_literal value := by simp
  ofQuat_toQuat _ := rfl

/-- A continuous calibration with an additional one and a chaperone of one quad. -/
def savedContext : Context Rat Rat (Quat Rat) :=
  { freshContext rationalPlatform with
    state := .continuous
    validProfile := true
    targetTrackingSystem := "lighthouse"
    calibratedTranslation := (1, 2, 3)
    additionalCalibrations := [
      { targetTrackingSystem := "slimevr"
        targetStandby := ⟨"slimevr", "model", "serial"⟩
        calibratedRotation := (0, 90, 0)
        calibratedTranslation := (0, 0, 1)
        calibratedScale := 1
        lockMode := 1
        valid := true
        enabled := true }]
    chaperone := { freshChaperone rationalPlatform with
      valid := true
      autoApply := false
      geometry := ⟨List.replicate 12 1, by decide⟩ } }

/-- A chaperone that was copied while there were no bounds, and is not to be pasted. -/
def emptyChaperone : Context Rat Rat (Quat Rat) :=
  { freshContext rationalPlatform with
    validProfile := true
    chaperone := { freshChaperone rationalPlatform with valid := true, autoApply := false } }

end Instances

end PairDriver.ProfileCodec
