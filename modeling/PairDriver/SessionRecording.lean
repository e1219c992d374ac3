/-
This file models a recorded calibration session: the samples `CollectSample` hands
to the solver, the rows the metrics log writes at the end of a tick, and the
loader that reads the rows back for a replay.

Samples are taken from the corrected poses of every collected tick, rows from the
raw poses of the ticks that get as far as the solve. Numbers are exact rationals,
a column keeps seventeen significant digits, and a rotation stands for the matrix
of its unit quaternion. A line of the log is an annotation or a list of cells.
-/

import PairDriver.CalibrationTick

namespace PairDriver.Recording

open Calibration

/-! ### Vectors and rotations -/

structure Vec where
  x : Rat
  y : Rat
  z : Rat
deriving DecidableEq

def Vec.add (first second : Vec) : Vec :=
  ⟨first.x + second.x, first.y + second.y, first.z + second.z⟩

def Vec.scale (factor : Rat) (vector : Vec) : Vec :=
  ⟨factor * vector.x, factor * vector.y, factor * vector.z⟩

def Vec.cross (first second : Vec) : Vec :=
  ⟨first.y * second.z - first.z * second.y, first.z * second.x - first.x * second.z,
    first.x * second.y - first.y * second.x⟩

def Vec.squaredNorm (vector : Vec) : Rat :=
  vector.x * vector.x + vector.y * vector.y + vector.z * vector.z

/-- Some component is larger than the bound. -/
def Vec.exceeds (bound : Rat) (vector : Vec) : Bool :=
  decide (bound < |vector.x|) || decide (bound < |vector.y|) || decide (bound < |vector.z|)

def Vec.zero : Vec := ⟨0, 0, 0⟩

theorem Vec.offset_zero (vector : Vec) : vector.add Vec.zero = vector := by
  simp only [Vec.add, Vec.zero, add_zero]

structure Quat where
  w : Rat
  x : Rat
  y : Rat
  z : Rat
deriving DecidableEq

def Quat.mul (first second : Quat) : Quat :=
  ⟨first.w * second.w - first.x * second.x - first.y * second.y - first.z * second.z,
    first.w * second.x + first.x * second.w + first.y * second.z - first.z * second.y,
    first.w * second.y + first.y * second.w + first.z * second.x - first.x * second.z,
    first.w * second.z + first.z * second.w + first.x * second.y - first.y * second.x⟩

/-- The rotation of a vector by a quaternion. -/
def Quat.rotate (rotation : Quat) (vector : Vec) : Vec :=
  let axis : Vec := ⟨rotation.x, rotation.y, rotation.z⟩
  let twice := (axis.cross vector).scale 2
  (vector.add (twice.scale rotation.w)).add (axis.cross twice)

def Quat.squaredNorm (rotation : Quat) : Rat :=
  rotation.w * rotation.w + rotation.x * rotation.x + rotation.y * rotation.y +
    rotation.z * rotation.z

/-- The functions of the mathematical library. -/
structure MathFunctions where
  sqrt : Rat → Rat
  sin : Rat → Rat
  cos : Rat → Rat

section Session

variable (math : MathFunctions)

def Quat.norm (rotation : Quat) : Rat := math.sqrt rotation.squaredNorm

def Quat.normalize (rotation : Quat) : Quat :=
  if 0 < rotation.squaredNorm then
    ⟨rotation.w / rotation.norm math, rotation.x / rotation.norm math,
      rotation.y / rotation.norm math, rotation.z / rotation.norm math⟩
  else rotation

/-! ### Poses -/

/-- The fields of a driver pose that are read; `runningOk` tells whether its result is
`TrackingResult_Running_OK`. -/
structure DevicePose where
  position : Vec
  rotation : Quat
  worldFromDriverRotation : Quat
  worldFromDriverTranslation : Vec
  velocity : Vec := Vec.zero
  angularVelocity : Vec := Vec.zero
  poseIsValid : Bool := true
  runningOk : Bool := true
deriving DecidableEq

structure WorldPose where
  rot : Quat
  trans : Vec
deriving DecidableEq

/-- `ConvertPose`. -/
def convertPose (pose : DevicePose) : WorldPose where
  rot := (pose.worldFromDriverRotation.mul pose.rotation).normalize math
  trans := pose.worldFromDriverTranslation.add (pose.worldFromDriverRotation.rotate pose.position)

/-- `driverPoseToWorld`, the composer of the metrics log. -/
def driverPoseToWorld (pose : DevicePose) : WorldPose where
  rot := (pose.worldFromDriverRotation.mul pose.rotation).normalize math
  trans := pose.worldFromDriverTranslation.add (pose.worldFromDriverRotation.rotate pose.position)

def maxLinearMps : Rat := 50
def maxAngularRadps : Rat := 50

/-- The velocities `ExtrapolateReferencePose` works with. -/
def DevicePose.usableVelocities (pose : DevicePose) : Bool :=
  !pose.velocity.exceeds maxLinearMps && !pose.angularVelocity.exceeds maxAngularRadps

/-- The small rotation by an angular velocity over a time. -/
def deltaRotation (angularVelocity : Vec) (angSpeed seconds : Rat) : Quat :=
  let half := angSpeed * seconds / 2
  ⟨math.cos half, angularVelocity.x / angSpeed * math.sin half,
    angularVelocity.y / angSpeed * math.sin half, angularVelocity.z / angSpeed * math.sin half⟩

/-- `ExtrapolateReferencePose`. -/
def extrapolateReferencePose (pose : DevicePose) (seconds : Rat) : DevicePose :=
  if seconds = 0 then pose
  else if !pose.usableVelocities then pose
  else
    let angSpeed := math.sqrt pose.angularVelocity.squaredNorm
    { pose with
      position := pose.position.add (pose.velocity.scale seconds)
      rotation :=
        if 1 / 1000000000 < angSpeed then
          (deltaRotation math pose.angularVelocity angSpeed seconds).mul pose.rotation
        else pose.rotation }

/-! ### Collecting a sample -/

inductive Speed where
  | fast
  | slow
  | verySlow
deriving DecidableEq

/-- `CalibrationContext::SampleCount`. -/
def Speed.sampleCount : Speed → Nat
  | .fast => 30
  | .slow => 100
  | .verySlow => 200

/-- A cell of the log: a number, or a text that is none. -/
inductive Cell where
  | number (value : Rat)
  | text (value : String)
deriving DecidableEq

/-- What a tick reads from `CollectSample` on: the poses, the corrections, and the gates. The two
diversities tell whether they reach their thresholds, `solverCleared` whether the solver emptied
its buffer, and `metric` gives the columns that are no poses. -/
structure TickInput where
  reference : DevicePose
  target : DevicePose
  continuousCalibrationOffset : Vec := Vec.zero
  useUpstreamMath : Bool := false
  latencyAutoDetect : Bool := false
  estimatedLatencyOffsetMs : Rat := 0
  targetLatencyOffsetMs : Rat := 0
  referenceSampleTime : Int := 0
  targetSampleTime : Int := 0
  frequency : Int := 1
  speed : Speed := .fast
  rotationDiverse : Bool := true
  translationDiverse : Bool := true
  waitsForTrigger : Bool := false
  solverCleared : Bool := false
  metric : String → Cell := fun _ => .number 0

/-- `GetActiveLatencyOffsetMs`. -/
def TickInput.activeLatencyOffsetMs (input : TickInput) : Rat :=
  if input.useUpstreamMath then 0
  else if input.latencyAutoDetect then input.estimatedLatencyOffsetMs
  else input.targetLatencyOffsetMs

/-- The latency shift is on, and both poses have a time. -/
def TickInput.latencyActive (input : TickInput) : Bool :=
  decide (input.activeLatencyOffsetMs ≠ 0) && decide (input.referenceSampleTime ≠ 0) &&
    decide (input.targetSampleTime ≠ 0)

/-- The seconds the reference is shifted by. -/
def TickInput.latencyShift (input : TickInput) : Rat :=
  (input.targetSampleTime - input.referenceSampleTime : Int) / (input.frequency : Rat) -
    input.activeLatencyOffsetMs / 1000

/-- Both devices track, by both of their flags. -/
def TickInput.tracking (input : TickInput) : Bool :=
  input.reference.poseIsValid && input.reference.runningOk &&
    (input.target.poseIsValid && input.target.runningOk)

/-- The reference after the tracker offset. -/
def offsetReference (state : CalibrationState) (input : TickInput) : DevicePose :=
  if state.isContinuous then
    { input.reference with
      position := input.reference.position.add input.continuousCalibrationOffset }
  else input.reference

/-- The reference after the tracker offset and the latency shift. -/
def correctedReference (state : CalibrationState) (input : TickInput) : DevicePose :=
  if input.latencyActive then
    extrapolateReferencePose math (offsetReference state input) input.latencyShift
  else offsetReference state input

/-- The poses of a sample. -/
structure Sample where
  ref : WorldPose
  target : WorldPose
deriving DecidableEq

/-- The sample `CollectSample` passes to `PushSample`. -/
def collectedSample (state : CalibrationState) (input : TickInput) : Sample :=
  ⟨convertPose math (correctedReference math state input), convertPose math input.target⟩

/-- `PushSample` drops a sample that is metres away. -/
def Sample.oversize (sample : Sample) : Bool :=
  sample.ref.trans.exceeds 5 || sample.target.trans.exceeds 5

/-! ### The metrics log -/

def roundHalfEven (value : Rat) : Int :=
  let fraction := value - ⌊value⌋
  if fraction < 1 / 2 then ⌊value⌋
  else if 1 / 2 < fraction then ⌊value⌋ + 1
  else if ⌊value⌋ % 2 = 0 then ⌊value⌋
  else ⌊value⌋ + 1

/-- A number at seventeen significant digits. -/
def atPrecision (value : Rat) : Rat :=
  if value = 0 then 0
  else
    let unit : Rat := 10 ^ (Int.log 10 |value| - 16)
    roundHalfEven (value / unit) * unit

/-- The columns of the log, in the order of the table of fields. -/
def columns : List String :=
  ["Timestamp",
    "posOffset_rawComputed.x", "posOffset_rawComputed.y", "posOffset_rawComputed.z",
    "posOffset_currentCal.x", "posOffset_currentCal.y", "posOffset_currentCal.z",
    "posOffset_lastSample.x", "posOffset_lastSample.y", "posOffset_lastSample.z",
    "posOffset_byRelPose.x", "posOffset_byRelPose.y", "posOffset_byRelPose.z",
    "error_rawComputed", "error_currentCal", "error_byRelPose", "error_currentCalRelPose",
    "axisIndependence", "rotationConditionRatio", "consecutiveRejections", "samplesInBuffer",
    "translationDiversity", "rotationDiversity",
    "translationAxisRangesCm.x", "translationAxisRangesCm.y", "translationAxisRangesCm.z",
    "pairedMotionWarningCount", "watchdogHealthySkip", "effectivePriorMm",
    "validateRmsThresholdMm", "watchdogResetCount", "computationTime", "jitterRef",
    "jitterTarget", "fallbackApplyRate", "perIdApplyRate", "quashApplyRate",
    "reject_reason", "calibrationApplied",
    "ref_tx", "ref_ty", "ref_tz", "ref_qw", "ref_qx", "ref_qy", "ref_qz",
    "tgt_tx", "tgt_ty", "tgt_tz", "tgt_qw", "tgt_qx", "tgt_qy", "tgt_qz",
    "tick_phase"]

/-- `TickPhaseName` of the phase a state is mapped to. -/
def tickPhaseName : CalibrationState → String
  | .none => "None"
  | .begin => "Begin"
  | .rotation => "Rotation"
  | .translation => "Translation"
  | .editing => "Editing"
  | .continuous => "Continuous"
  | .continuousStandby => "ContinuousStandby"

/-- The writer of a column, given the raw poses of `SetTickRawPoses`. -/
def writeColumn (metric : String → Cell) (ref target : WorldPose) (phase : CalibrationState)
    (name : String) : Cell :=
  match name with
  | "ref_tx" => .number (atPrecision ref.trans.x)
  | "ref_ty" => .number (atPrecision ref.trans.y)
  | "ref_tz" => .number (atPrecision ref.trans.z)
  | "ref_qw" => .number (atPrecision ref.rot.w)
  | "ref_qx" => .number (atPrecision ref.rot.x)
  | "ref_qy" => .number (atPrecision ref.rot.y)
  | "ref_qz" => .number (atPrecision ref.rot.z)
  | "tgt_tx" => .number (atPrecision target.trans.x)
  | "tgt_ty" => .number (atPrecision target.trans.y)
  | "tgt_tz" => .number (atPrecision target.trans.z)
  | "tgt_qw" => .number (atPrecision target.rot.w)
  | "tgt_qx" => .number (atPrecision target.rot.x)
  | "tgt_qy" => .number (atPrecision target.rot.y)
  | "tgt_qz" => .number (atPrecision target.rot.z)
  | "tick_phase" => .text (tickPhaseName phase)
  | other => metric other

/-- What an annotation says of the version of the log. -/
inductive Version where
  | unsaid
  | current
  | different
deriving DecidableEq

inductive Line where
  | remark (version : Version)
  | cells (cells : List Cell)
deriving DecidableEq

/-- `WriteLogEntry` with the raw poses of the tick. -/
def writeLogEntry (state : CalibrationState) (input : TickInput) : Line :=
  .cells (columns.map (writeColumn input.metric (driverPoseToWorld math input.reference)
    (driverPoseToWorld math input.target) state))

/-- The lines `OpenLogFile` writes; `banner` is what the lines after the first say. -/
def openLogFile (banner : List Version) : List Line :=
  Line.remark .current :: banner.map Line.remark ++ [.cells (columns.map Cell.text)]

/-! ### The loader -/

structure ReplayRow where
  timestamp : Rat
  ref : WorldPose
  target : WorldPose
  tickPhase : Cell
deriving DecidableEq

inductive LoadError where
  | differentVersion
  | noColumns
  | noBanner
  | missingColumn
deriving DecidableEq

structure LoadedRecording where
  error : Option LoadError := none
  rows : List ReplayRow := []
deriving DecidableEq

/-- `ReadDouble`. -/
def readDouble : Cell → Option Rat
  | .number value => some value
  | .text _ => none

/-- `ColIndex`: of columns with one name the last counts. -/
def colIndex (header : List Cell) (name : String) : Option Nat :=
  header.zipIdx.reverse.lookup (Cell.text name)

def required : List String :=
  ["ref_tx", "ref_ty", "ref_tz", "ref_qw", "ref_qx", "ref_qy", "ref_qz",
    "tgt_tx", "tgt_ty", "tgt_tz", "tgt_qw", "tgt_qx", "tgt_qy", "tgt_qz"]

/-- The lines up to the header: the names of the columns, and the lines that follow. -/
def readHeader : Bool → List Line → Except LoadError (List Cell × List Line)
  | _, [] => .error .noColumns
  | _, .remark .current :: rest => readHeader true rest
  | _, .remark .different :: _ => .error .differentVersion
  | sawVersionBanner, .remark .unsaid :: rest => readHeader sawVersionBanner rest
  | sawVersionBanner, .cells header :: rest =>
    if sawVersionBanner then .ok (header, rest) else .error .noBanner

/-- The number in a named column. -/
def readColumn (header fields : List Cell) (name : String) : Option Rat :=
  (colIndex header name).bind fun index => fields[index]?.bind readDouble

def readVec (header fields : List Cell) (x y z : String) : Option Vec :=
  (readColumn header fields x).bind fun valueX =>
    (readColumn header fields y).bind fun valueY =>
      (readColumn header fields z).map fun valueZ => ⟨valueX, valueY, valueZ⟩

def readQuat (header fields : List Cell) (w x y z : String) : Option Quat :=
  (readColumn header fields w).bind fun valueW =>
    (readVec header fields x y z).map fun vector => ⟨valueW, vector.x, vector.y, vector.z⟩

/-- The zero quaternion stands for a device that was not tracking. -/
def Quat.sentinel (rotation : Quat) : Bool :=
  decide (rotation.norm math < 1 / 1000000000)

/-- The row of a line. A partial row, a cell that is no number and a zero quaternion are skipped. -/
def readRow (header : List Cell) : Line → Option ReplayRow
  | .remark _ => none
  | .cells fields =>
    if fields.length < header.length then none
    else
      (readVec header fields "ref_tx" "ref_ty" "ref_tz").bind fun refTrans =>
        (readQuat header fields "ref_qw" "ref_qx" "ref_qy" "ref_qz").bind fun refRot =>
          (readVec header fields "tgt_tx" "tgt_ty" "tgt_tz").bind fun targetTrans =>
            (readQuat header fields "tgt_qw" "tgt_qx" "tgt_qy" "tgt_qz").bind fun targetRot =>
              if refRot.sentinel math || targetRot.sentinel math then none
              else
                some
                  { timestamp := (readColumn header fields "Timestamp").getD 0
                    ref := ⟨refRot.normalize math, refTrans⟩
                    target := ⟨targetRot.normalize math, targetTrans⟩
                    tickPhase := ((colIndex header "tick_phase").bind fun index =>
                      fields[index]?).getD (.text "") }

/-- `LoadRecording` on the lines of a file that opens. -/
def loadRecording (lines : List Line) : LoadedRecording :=
  match readHeader false lines with
  | .error error => { error := some error }
  | .ok (header, rest) =>
    if required.all fun name => (colIndex header name).isSome then
      { rows := rest.filterMap (readRow math header) }
    else { error := some .missingColumn }

/-! ### The session -/

/-- A session with logging on: the state, the size of the solver's buffer and the log. `pushed`
lists the samples passed to `PushSample`, for the specification only. -/
structure Session where
  state : CalibrationState := .none
  buffered : Nat := 0
  banner : List Version := []
  lines : List Line := []
  pushed : List Sample := []
deriving DecidableEq

/-- The file of the session. -/
def Session.file (session : Session) : List Line :=
  openLogFile session.banner ++ session.lines

/-- The session after `PushSample`. -/
def pushSample (sample : Sample) (session : Session) : Session :=
  let pushed := { session with pushed := session.pushed ++ [sample] }
  if sample.oversize then { pushed with lines := session.lines ++ [.remark .unsaid] }
  else { pushed with buffered := session.buffered + 1 }

/-- The end of a tick, from the solve on: the row is written, and the buffer is emptied or, in
continuous calibration, makes room. -/
def finishTick (input : TickInput) (session : Session) : Session :=
  let written := { session with lines := session.lines ++ [writeLogEntry math session.state input] }
  if session.state = .continuous then
    { written with
      buffered := (if input.solverCleared then 0 else session.buffered) -
        input.speed.sampleCount / 10 }
  else { written with state := .none, buffered := 0 }

/-- The gates after a full buffer, each of which returns from the tick. -/
def gatedTick (input : TickInput) (session : Session) : Session :=
  match session.state with
  | .rotation =>
    if input.rotationDiverse then
      { session with
        state := .translation
        buffered := 0
        lines := session.lines ++ [.remark .unsaid] }
    else { session with buffered := session.buffered - 1 }
  | .translation =>
    if input.translationDiverse then finishTick math input session
    else { session with buffered := session.buffered - 1 }
  | .continuous => if input.waitsForTrigger then session else finishTick math input session
  | _ => finishTick math input session

/-- The tick from `CollectSample` on. -/
def sampleTick (input : TickInput) (session : Session) : Session :=
  if input.tracking then
    let collected := pushSample (collectedSample math session.state input) session
    if collected.buffered < input.speed.sampleCount then collected
    else gatedTick math input { collected with buffered := input.speed.sampleCount }
  else if session.state = .continuous then session
  else { session with state := .none }

/-- A tick that collects; an annotation written anywhere else; or anything else the program does
to the state and, by clearing the solver, to its buffer. -/
inductive Event where
  | tick (input : TickInput)
  | annotate (version : Version)
  | elsewhere (state : CalibrationState) (cleared : Bool)

def step (session : Session) : Event → Option Session
  | .tick input => some (sampleTick math input session)
  | .annotate version => some { session with lines := session.lines ++ [.remark version] }
  | .elsewhere state cleared =>
    some { session with state := state, buffered := if cleared then 0 else session.buffered }

/-! ### The condition -/

def Vec.atPrecision (vector : Vec) : Vec :=
  ⟨Recording.atPrecision vector.x, Recording.atPrecision vector.y, Recording.atPrecision vector.z⟩

def Quat.atPrecision (rotation : Quat) : Quat :=
  ⟨Recording.atPrecision rotation.w, Recording.atPrecision rotation.x,
    Recording.atPrecision rotation.y, Recording.atPrecision rotation.z⟩

/-- A pose at the precision of the columns. -/
def WorldPose.atPrecision (pose : WorldPose) : WorldPose :=
  ⟨pose.rot.atPrecision.normalize math, pose.trans.atPrecision⟩

def Sample.atPrecision (sample : Sample) : Sample :=
  ⟨sample.ref.atPrecision math, sample.target.atPrecision math⟩

/-- No correction changes the reference: the tracker offset is zero or not applied, and the latency
shift is off, zero or given up. -/
def Uncorrected (state : CalibrationState) (input : TickInput) : Prop :=
  (state.isContinuous = true → input.continuousCalibrationOffset = Vec.zero) ∧
    (input.latencyActive = true → input.latencyShift = 0 ∨ input.reference.usableVelocities = false)

/-- No gate returns from the tick before the row is written. -/
def reachesRow (session : Session) (input : TickInput) : Bool :=
  decide (input.speed.sampleCount ≤
      (pushSample (collectedSample math session.state input) session).buffered) &&
    match session.state with
    | .rotation => false
    | .translation => input.translationDiverse
    | .continuous => !input.waitsForTrigger
    | _ => true

/-- Neither pose has a zero quaternion in the log. -/
def readable (input : TickInput) : Bool :=
  !((driverPoseToWorld math input.reference).rot.atPrecision.sentinel math ||
    (driverPoseToWorld math input.target).rot.atPrecision.sentinel math)

/-- A tick that collects a sample collects it from uncorrected poses and writes a readable row. -/
def RowForSample (session : Session) : Event → Prop
  | .tick input => input.tracking = true →
      Uncorrected session.state input ∧ reachesRow math session input = true ∧
        readable math input = true
  | _ => True

instance (state : CalibrationState) (input : TickInput) : Decidable (Uncorrected state input) :=
  inferInstanceAs (Decidable (_ ∧ _))

instance (session : Session) (event : Event) : Decidable (RowForSample math session event) :=
  match event with
  | .tick input => inferInstanceAs (Decidable (input.tracking = true →
      Uncorrected session.state input ∧ reachesRow math session input = true ∧
        readable math input = true))
  | .annotate _ => isTrue trivial
  | .elsewhere _ _ => isTrue trivial

/-! ### A row is read back -/

/-- The header of the log. -/
def logHeader : List Cell := columns.map Cell.text

theorem required_columns : (required.all fun name => (colIndex logHeader name).isSome) = true := by
  decide +kernel

/-- A column of the log is found under its name. -/
theorem readColumn_map (write : String → Cell) (name : String) (index : Nat)
    (found : colIndex logHeader name = some index) (named : columns[index]? = some name) :
    readColumn logHeader (columns.map write) name = readDouble (write name) := by
  rw [readColumn, found]
  show ((columns.map write)[index]?).bind readDouble = readDouble (write name)
  rw [List.getElem?_map, named]
  rfl

def ReplayRow.poses (row : ReplayRow) : Sample := ⟨row.ref, row.target⟩

variable {math}

/-- The four groups of pose columns hold the poses at the precision of the columns. -/
theorem readPoses_writeColumn (metric : String → Cell) (ref target : WorldPose)
    (phase : CalibrationState) :
    readVec logHeader (columns.map (writeColumn metric ref target phase))
        "ref_tx" "ref_ty" "ref_tz" = some ref.trans.atPrecision ∧
      readQuat logHeader (columns.map (writeColumn metric ref target phase))
        "ref_qw" "ref_qx" "ref_qy" "ref_qz" = some ref.rot.atPrecision ∧
      readVec logHeader (columns.map (writeColumn metric ref target phase))
        "tgt_tx" "tgt_ty" "tgt_tz" = some target.trans.atPrecision ∧
      readQuat logHeader (columns.map (writeColumn metric ref target phase))
        "tgt_qw" "tgt_qx" "tgt_qy" "tgt_qz" = some target.rot.atPrecision := by
  refine ⟨?_, ?_, ?_, ?_⟩
  · rw [readVec, readColumn_map _ "ref_tx" 39 (by decide +kernel) (by decide +kernel),
      readColumn_map _ "ref_ty" 40 (by decide +kernel) (by decide +kernel),
      readColumn_map _ "ref_tz" 41 (by decide +kernel) (by decide +kernel)]
    rfl
  · rw [readQuat, readVec, readColumn_map _ "ref_qw" 42 (by decide +kernel) (by decide +kernel),
      readColumn_map _ "ref_qx" 43 (by decide +kernel) (by decide +kernel),
      readColumn_map _ "ref_qy" 44 (by decide +kernel) (by decide +kernel),
      readColumn_map _ "ref_qz" 45 (by decide +kernel) (by decide +kernel)]
    rfl
  · rw [readVec, readColumn_map _ "tgt_tx" 46 (by decide +kernel) (by decide +kernel),
      readColumn_map _ "tgt_ty" 47 (by decide +kernel) (by decide +kernel),
      readColumn_map _ "tgt_tz" 48 (by decide +kernel) (by decide +kernel)]
    rfl
  · rw [readQuat, readVec, readColumn_map _ "tgt_qw" 49 (by decide +kernel) (by decide +kernel),
      readColumn_map _ "tgt_qx" 50 (by decide +kernel) (by decide +kernel),
      readColumn_map _ "tgt_qy" 51 (by decide +kernel) (by decide +kernel),
      readColumn_map _ "tgt_qz" 52 (by decide +kernel) (by decide +kernel)]
    rfl

/-- A readable row is read back as the raw poses of its tick. -/
theorem readRow_writeLogEntry {input : TickInput} (state : CalibrationState)
    (legible : readable math input = true) :
    (readRow math logHeader (writeLogEntry math state input)).map ReplayRow.poses =
      some ⟨(driverPoseToWorld math input.reference).atPrecision math,
        (driverPoseToWorld math input.target).atPrecision math⟩ := by
  obtain ⟨refTrans, refRot, targetTrans, targetRot⟩ := readPoses_writeColumn input.metric
    (driverPoseToWorld math input.reference) (driverPoseToWorld math input.target) state
  have complete : ¬(columns.map (writeColumn input.metric (driverPoseToWorld math input.reference)
      (driverPoseToWorld math input.target) state)).length < logHeader.length := by
    rw [logHeader, List.length_map, List.length_map]
    exact lt_irrefl _
  unfold writeLogEntry readRow
  dsimp only
  rw [if_neg complete, refTrans, refRot, targetTrans, targetRot]
  simp only [Option.bind_some]
  rw [if_neg]
  · rfl
  · rw [Bool.not_eq_true]
    exact (Bool.not_eq_true' _).mp legible

/-- Without corrections the sample has the raw poses. -/
theorem collectedSample_of_uncorrected {state : CalibrationState} {input : TickInput}
    (uncorrected : Uncorrected state input) :
    collectedSample math state input =
      ⟨driverPoseToWorld math input.reference, driverPoseToWorld math input.target⟩ := by
  have unshifted : offsetReference state input = input.reference := by
    unfold offsetReference
    split
    · rename_i applied
      rw [uncorrected.1 applied, Vec.offset_zero]
    · rfl
  have unchanged : correctedReference math state input = input.reference := by
    unfold correctedReference
    rw [unshifted]
    split
    · rename_i active
      unfold extrapolateReferencePose
      rcases uncorrected.2 active with still | refused
      · rw [if_pos still]
      · rw [refused]
        split <;> rfl
    · rfl
  unfold collectedSample
  rw [unchanged]
  rfl

/-! ### The session and its recording -/

/-- The samples the loader reads from the lines of the session. -/
def recorded (math : MathFunctions) (lines : List Line) : List Sample :=
  lines.filterMap fun line => (readRow math logHeader line).map ReplayRow.poses

theorem recorded_remark (lines : List Line) (version : Version) :
    recorded math (lines ++ [.remark version]) = recorded math lines := by
  rw [recorded, List.filterMap_append]
  exact List.append_nil _

theorem recorded_row {input : TickInput} (lines : List Line) (state : CalibrationState)
    (legible : readable math input = true) :
    recorded math (lines ++ [writeLogEntry math state input]) =
      recorded math lines ++ [⟨(driverPoseToWorld math input.reference).atPrecision math,
        (driverPoseToWorld math input.target).atPrecision math⟩] := by
  unfold recorded
  rw [List.filterMap_append]
  simp only [List.filterMap_cons, List.filterMap_nil, readRow_writeLogEntry state legible]

/-- `PushSample` leaves the state and the banner, and records nothing. -/
theorem pushSample_frame (math : MathFunctions) (sample : Sample) (session : Session) :
    (pushSample sample session).state = session.state ∧
      (pushSample sample session).banner = session.banner ∧
      (pushSample sample session).pushed = session.pushed ++ [sample] ∧
      recorded math (pushSample sample session).lines = recorded math session.lines := by
  unfold pushSample
  dsimp only
  split
  · exact ⟨rfl, rfl, rfl, recorded_remark _ _⟩
  · exact ⟨rfl, rfl, rfl, rfl⟩

theorem finishTick_frame (math : MathFunctions) (input : TickInput) (session : Session) :
    (finishTick math input session).banner = session.banner ∧
      (finishTick math input session).pushed = session.pushed ∧
      (finishTick math input session).lines =
        session.lines ++ [writeLogEntry math session.state input] := by
  unfold finishTick
  dsimp only
  split <;> exact ⟨rfl, rfl, rfl⟩

/-- A tick that no gate returns from ends with its row. -/
theorem sampleTick_of_reachesRow {session : Session} {input : TickInput}
    (tracks : input.tracking = true) (reaches : reachesRow math session input = true) :
    ∃ buffered, sampleTick math input session =
      finishTick math input
        { pushSample (collectedSample math session.state input) session with
          buffered := buffered } := by
  obtain ⟨full, gates⟩ := (Bool.and_eq_true _ _).mp reaches
  refine ⟨input.speed.sampleCount, ?_⟩
  unfold sampleTick
  rw [if_pos tracks]
  dsimp only
  rw [if_neg (not_lt.mpr (of_decide_eq_true full))]
  unfold gatedTick
  dsimp only
  rw [(pushSample_frame math _ session).1]
  cases same : session.state with
  | rotation =>
    rw [same] at gates
    cases gates
  | translation =>
    rw [same] at gates
    exact if_pos gates
  | continuous =>
    rw [same] at gates
    exact if_neg (Bool.not_eq_true _ ▸ (Bool.not_eq_true' _).mp gates)
  | none => rfl
  | begin => rfl
  | editing => rfl
  | continuousStandby => rfl

/-- The recording holds the samples pushed so far, and the banner is that of the start. -/
structure Matches (math : MathFunctions) (banner : List Version) (session : Session) : Prop where
  banner_eq : session.banner = banner
  recorded_eq : recorded math session.lines = session.pushed.map (Sample.atPrecision math)

theorem matches_sampleTick {banner : List Version} {session : Session} {input : TickInput}
    (same : Matches math banner session) (tracks : input.tracking = true)
    (uncorrected : Uncorrected session.state input)
    (reaches : reachesRow math session input = true) (legible : readable math input = true) :
    Matches math banner (sampleTick math input session) := by
  obtain ⟨buffered, ended⟩ := sampleTick_of_reachesRow tracks reaches
  obtain ⟨-, pushedBanner, pushedSamples, pushedLines⟩ := pushSample_frame math
    (collectedSample math session.state input) session
  obtain ⟨finalBanner, finalSamples, finalLines⟩ := finishTick_frame math input
    { pushSample (collectedSample math session.state input) session with buffered := buffered }
  rw [ended]
  refine ⟨(finalBanner.trans pushedBanner).trans same.banner_eq, ?_⟩
  rw [finalSamples, finalLines, recorded_row _ _ legible, pushedSamples, pushedLines,
    same.recorded_eq, collectedSample_of_uncorrected uncorrected, List.map_append]
  rfl

theorem matches_step {banner : List Version} {session after : Session} {event : Event}
    (same : Matches math banner session) (met : RowForSample math session event)
    (stepped : step math session event = some after) : Matches math banner after := by
  cases event with
  | tick input =>
    obtain rfl : sampleTick math input session = after := Option.some.inj stepped
    cases tracks : input.tracking with
    | true =>
      obtain ⟨uncorrected, reaches, legible⟩ := met tracks
      exact matches_sampleTick same tracks uncorrected reaches legible
    | false =>
      unfold sampleTick
      rw [tracks, if_neg Bool.false_ne_true]
      split
      · exact same
      · exact ⟨same.banner_eq, same.recorded_eq⟩
  | annotate version =>
    obtain rfl := Option.some.inj stepped
    exact ⟨same.banner_eq, (recorded_remark _ _).trans same.recorded_eq⟩
  | elsewhere state cleared =>
    obtain rfl := Option.some.inj stepped
    exact ⟨same.banner_eq, same.recorded_eq⟩

/-- The loader gets through a banner that names no other version. -/
theorem readHeader_banner {banner : List Version} (known : Version.different ∉ banner)
    (lines : List Line) :
    readHeader true (banner.map Line.remark ++ .cells logHeader :: lines) =
      .ok (logHeader, lines) := by
  induction banner with
  | nil => rfl
  | cons version rest inductionHypothesis =>
    have later := inductionHypothesis fun member => known (List.mem_cons_of_mem _ member)
    cases version with
    | unsaid => exact later
    | current => exact later
    | different => exact absurd List.mem_cons_self known

/-- The rows of the session's file are those of its lines. -/
theorem loadRecording_file {session : Session} (known : Version.different ∉ session.banner) :
    (loadRecording math session.file).rows.map ReplayRow.poses = recorded math session.lines := by
  have header : readHeader false session.file = .ok (logHeader, session.lines) := by
    show readHeader true ((session.banner.map Line.remark ++ [.cells logHeader]) ++
      session.lines) = _
    rw [List.append_assoc]
    exact readHeader_banner known session.lines
  unfold loadRecording
  rw [header]
  dsimp only
  rw [if_pos required_columns]
  exact List.map_filterMap

/-- In every session in which each collected sample is uncorrected and gets its row, the loader
reads back the samples passed to the solver, in order and at the precision of the columns. -/
theorem replay_equals_session {start session : Session}
    (reached : Reaches (step math) (RowForSample math) start session)
    (fresh : start.lines = [] ∧ start.pushed = []) (known : Version.different ∉ start.banner) :
    (loadRecording math session.file).rows.map ReplayRow.poses =
      session.pushed.map (Sample.atPrecision math) := by
  have initial : Matches math start.banner start := ⟨rfl, by rw [fresh.1, fresh.2]; rfl⟩
  have same : Matches math start.banner session :=
    reached.invariant initial fun _ _ _ before met stepped => matches_step before met stepped
  rw [loadRecording_file (same.banner_eq ▸ known), same.recorded_eq]

/-- Functions that agree with the real ones at the arguments of the runs below: the root of one,
and the sine and cosine of zero. -/
def atRest : MathFunctions := ⟨fun value => value, fun value => value, fun _ => 1⟩

/-- A device at a position, in the axes of its driver and of the world. -/
def uprightAt (position : Vec) : DevicePose :=
  ⟨position, ⟨1, 0, 0, 0⟩, ⟨1, 0, 0, 0⟩, Vec.zero, Vec.zero, Vec.zero, true, true⟩

/-- A collecting tick with the given tracker offset. -/
def collectingTick (offset : Vec) : Event :=
  .tick { reference := uprightAt ⟨1 / 3, 1, 0⟩, target := uprightAt ⟨0, 1, 1 / 2⟩,
          continuousCalibrationOffset := offset }

/-- Logging that is switched on when one sample is missing from the buffer records the next one. -/
theorem replay_equals_session_full_buffer :
    ∃ session, Reaches (step atRest) (RowForSample atRest)
        { state := .continuous, buffered := 29 } session ∧
      session.pushed.length = 1 ∧
      (loadRecording atRest session.file).rows.map ReplayRow.poses =
        session.pushed.map (Sample.atPrecision atRest) := by
  obtain ⟨session, reached, collected⟩ : ∃ session, Reaches (step atRest) (RowForSample atRest)
      { state := .continuous, buffered := 29 } session ∧ session.pushed.length = 1 :=
    reaches_evaluates [collectingTick Vec.zero] (by decide +kernel)
  exact ⟨session, reached, collected, replay_equals_session reached ⟨rfl, rfl⟩ (by decide)⟩

/-- Thirty ticks of continuous calibration with a tracker offset push thirty samples. The log has
one row, and its poses are those of none of them. -/
theorem recording_misses_samples :
    ∃ session, run (step atRest) {} (Event.elsewhere .continuous true ::
        List.replicate 30 (collectingTick ⟨0, 1 / 10, 0⟩)) = some session ∧
      session.pushed.length = 30 ∧ (loadRecording atRest session.file).rows.length = 1 ∧
      (∀ row ∈ (loadRecording atRest session.file).rows,
        row.poses ∉ session.pushed.map (Sample.atPrecision atRest)) ∧
      (loadRecording atRest session.file).rows.map ReplayRow.poses ≠
        session.pushed.map (Sample.atPrecision atRest) :=
  run_evaluates (by decide +kernel)

/-! ### The first samples are never recorded -/

def Line.isRow : Line → Bool
  | .remark _ => false
  | .cells _ => true

/-- The rows in the log. -/
def rowCount (lines : List Line) : Nat := lines.countP Line.isRow

theorem rowCount_append (lines : List Line) (line : Line) :
    rowCount (lines ++ [line]) = rowCount lines + if line.isRow then 1 else 0 := by
  rw [rowCount, List.countP_append, List.countP_singleton]
  rfl

theorem recorded_length_le (math : MathFunctions) (lines : List Line) :
    (recorded math lines).length ≤ rowCount lines := by
  rw [recorded, List.length_filterMap_eq_countP]
  refine List.countP_mono_left fun line _ isSample => ?_
  cases line with
  | remark version => cases isSample
  | cells cells => rfl

/-- No row is written before the first sample, and fewer rows than samples after it. -/
def Lags (session : Session) : Prop :=
  (session.pushed = [] ∧ session.buffered = 0 ∧ rowCount session.lines = 0) ∨
    rowCount session.lines < session.pushed.length

theorem rowCount_remark (lines : List Line) (version : Version) :
    rowCount (lines ++ [.remark version]) = rowCount lines := rowCount_append _ _

theorem pushSample_rowCount (sample : Sample) (session : Session) :
    rowCount (pushSample sample session).lines = rowCount session.lines := by
  unfold pushSample
  dsimp only
  split
  · exact rowCount_remark _ _
  · rfl

/-- From a full buffer on, a tick writes at most one row. -/
theorem gatedTick_counts (math : MathFunctions) (input : TickInput) (session : Session) :
    (gatedTick math input session).pushed = session.pushed ∧
      rowCount (gatedTick math input session).lines ≤ rowCount session.lines + 1 := by
  have finished : (finishTick math input session).pushed = session.pushed ∧
      rowCount (finishTick math input session).lines ≤ rowCount session.lines + 1 := by
    obtain ⟨-, samples, lines⟩ := finishTick_frame math input session
    refine ⟨samples, ?_⟩
    rw [lines, rowCount_append]
    exact Nat.le_refl _
  unfold gatedTick
  split
  · split
    · exact ⟨rfl, (rowCount_remark _ _).le.trans (Nat.le_succ _)⟩
    · exact ⟨rfl, Nat.le_succ _⟩
  · split
    · exact finished
    · exact ⟨rfl, Nat.le_succ _⟩
  · split
    · exact ⟨rfl, Nat.le_succ _⟩
    · exact finished
  · exact finished

/-- A tick that collects passes one sample on and writes at most one row. -/
theorem sampleTick_counts (math : MathFunctions) (session : Session) {input : TickInput}
    (tracks : input.tracking = true) :
    (sampleTick math input session).pushed.length = session.pushed.length + 1 ∧
      rowCount (sampleTick math input session).lines ≤ rowCount session.lines + 1 := by
  have samples : (pushSample (collectedSample math session.state input) session).pushed.length =
      session.pushed.length + 1 := by
    rw [(pushSample_frame math _ session).2.2.1, List.length_append]
    rfl
  have rows := pushSample_rowCount (collectedSample math session.state input) session
  unfold sampleTick
  rw [if_pos tracks]
  dsimp only
  split
  · exact ⟨samples, rows.le.trans (Nat.le_succ _)⟩
  · obtain ⟨gatedSamples, gatedRows⟩ := gatedTick_counts math input
      { pushSample (collectedSample math session.state input) session with
        buffered := input.speed.sampleCount }
    rw [gatedSamples]
    exact ⟨samples, gatedRows.trans (Nat.succ_le_succ rows.le)⟩

/-- The first sample of an empty buffer does not fill it. -/
theorem sampleTick_of_empty (math : MathFunctions) {session : Session} {input : TickInput}
    (tracks : input.tracking = true) (empty : session.buffered = 0) :
    rowCount (sampleTick math input session).lines = rowCount session.lines := by
  have few : (pushSample (collectedSample math session.state input) session).buffered <
      input.speed.sampleCount := by
    have atMostOne : (pushSample (collectedSample math session.state input) session).buffered ≤
        1 := by
      unfold pushSample
      dsimp only
      split
      · exact empty.le.trans (Nat.zero_le 1)
      · exact (congrArg (· + 1) empty).le
    refine atMostOne.trans_lt ?_
    cases input.speed <;> decide
  unfold sampleTick
  rw [if_pos tracks]
  dsimp only
  rw [if_pos few]
  exact pushSample_rowCount _ _

theorem lags_step {session after : Session} {event : Event} (lags : Lags session)
    (stepped : step math session event = some after) : Lags after := by
  cases event with
  | tick input =>
    obtain rfl : sampleTick math input session = after := Option.some.inj stepped
    cases tracks : input.tracking with
    | true =>
      obtain ⟨samples, rows⟩ := sampleTick_counts math session tracks
      refine Or.inr ?_
      rw [samples]
      rcases lags with ⟨-, empty, none⟩ | fewer
      · rw [sampleTick_of_empty math tracks empty, none]
        exact Nat.succ_pos _
      · exact rows.trans_lt (Nat.succ_lt_succ fewer)
    | false =>
      unfold sampleTick
      rw [tracks, if_neg Bool.false_ne_true]
      split
      · exact lags
      · exact lags
  | annotate version =>
    obtain rfl := Option.some.inj stepped
    unfold Lags
    dsimp only
    rw [rowCount_remark]
    exact lags
  | elsewhere state cleared =>
    obtain rfl := Option.some.inj stepped
    rcases lags with ⟨noSamples, empty, none⟩ | fewer
    · refine Or.inl ⟨noSamples, ?_, none⟩
      dsimp only
      rw [empty, ite_self]
    · exact Or.inr fewer

end Session

end PairDriver.Recording
