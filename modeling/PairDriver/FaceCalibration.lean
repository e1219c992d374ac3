/-
This file models the continuous calibration of the face tracking driver: an
estimator for each shape that learns its range from the frames, and the worker
that feeds every frame to the estimators and normalises it with what they have
learned. Numbers are any type with the operations of a float, no laws asked for.

One set of estimators serves all modules. What a module's frames are normalised
with is what its own frames taught as long as the estimators of the eyes, and those
of the expressions, see one module between two resets.
-/

import PairDriver.Bytes

namespace PairDriver.FaceCalibration

/-! ### Numbers -/

/-- The operations on floats the estimators use; `ofRat` rounds a literal or an integer. -/
class Arithmetic (Number : Type) extends Add Number, Sub Number, Mul Number, Div Number, LT Number,
    LE Number where
  ofRat : Rat → Number
  sqrt : Number → Number
  abs : Number → Number
  decidableLT : DecidableLT Number
  decidableLE : DecidableLE Number

attribute [reducible, instance] Arithmetic.decidableLT Arithmetic.decidableLE

open Arithmetic

/-! ### The quantile markers -/

instance neZeroFive : NeZero 5 := ⟨by decide⟩

section Calibration

variable {Number : Type} [Arithmetic Number]

/-- `PsqUpdate`. -/
def psqUpdate (q n : Fin 5 → Number) (i : Fin 5) (d : Number) : Number :=
  let h1 := n (i + 1) - n i
  let h2 := n i - n (i - 1)
  q i + d / (h1 + h2) * (h2 / h1 * (q (i + 1) - q i) + h1 / h2 * (q i - q (i - 1)))

/-- `PsqLinear`. -/
def psqLinear (q n : Fin 5 → Number) (i : Fin 5) (d : Number) : Number :=
  let j := if ofRat 0 < d then i + 1 else i - 1
  q i + d * (q j - q i) / (n j - n i)

/-- The cell an observation falls into, with the outer markers moved to hold it. -/
def psqCell (q : Fin 5 → Number) (xn : Number) : (Fin 5 → Number) × Fin 5 :=
  if xn < q 0 then (Function.update q 0 xn, 0)
  else if xn < q 1 then (q, 0)
  else if xn < q 2 then (q, 1)
  else if xn < q 3 then (q, 2)
  else if xn ≤ q 4 then (q, 3)
  else (Function.update q 4 xn, 3)

/-- The adjustment of one inner marker. -/
def psqAdjust (dn : Fin 5 → Number) (markers : (Fin 5 → Number) × (Fin 5 → Number)) (i : Fin 5) :
    (Fin 5 → Number) × (Fin 5 → Number) :=
  let (q, n) := markers
  let di := dn i - n i
  if ofRat 1 ≤ di ∧ ofRat 1 < n (i + 1) - n i ∨ di ≤ ofRat (-1) ∧ n (i - 1) - n i < ofRat (-1) then
    let d : Number := if ofRat 0 < di then ofRat 1 else ofRat (-1)
    let qNew := psqUpdate q n i d
    (Function.update q i (if q (i - 1) < qNew ∧ qNew < q (i + 1) then qNew else psqLinear q n i d),
      Function.update n i (n i + d))
  else (q, n)

/-- `PsqStep`. The desired positions `dn` are never moved. -/
def psqStep (q n dn : Fin 5 → Number) (xn : Number) : (Fin 5 → Number) × (Fin 5 → Number) :=
  let (q, k) := psqCell q xn
  let n := fun i => if k < i then n i + ofRat 1 else n i
  [1, 2, 3].foldl (psqAdjust dn) (q, n)

/-! ### One shape -/

structure ShapeCalib (Number : Type) where
  q : Fin 5 → Number
  n : Fin 5 → Number
  dn : Fin 5 → Number
  p02 : Number
  p98 : Number
  emaMin : Number
  emaMax : Number
  emaValue : Number
  emaVar : Number
  holdCount : UInt32
  holdFirstQpc : UInt64
  samples : UInt32
  warm : Bool

/-- The constructor. -/
def ShapeCalib.fresh : ShapeCalib Number where
  q := ![ofRat 0, ofRat (5 / 1000), ofRat (2 / 100), ofRat (1 / 2), ofRat 1]
  n := ![ofRat 1, ofRat 2, ofRat 3, ofRat 4, ofRat 5]
  dn := ![ofRat 0, ofRat (1 / 100), ofRat (2 / 100), ofRat (51 / 100), ofRat 1]
  p02 := ofRat 0
  p98 := ofRat 1
  emaMin := ofRat 0
  emaMax := ofRat 1
  emaValue := ofRat (1 / 2)
  emaVar := ofRat (4 / 100)
  holdCount := 0
  holdFirstQpc := 0
  samples := 0
  warm := false

def kAlphaUp : Number := ofRat (2 / 100)
def kAlphaDown : Number := ofRat (5 / 10000)
def kVelocityGateSigmas : Number := ofRat 4
def kAlphaEmaVar : Number := ofRat (5 / 100)
def kWarmThreshold : UInt32 := 200
def kHoldCountMin : UInt32 := 6
def kHoldTimeMs : Number := ofRat 80
def kFrameAgeMaxMs : Number := ofRat 33
def kNormEps : Number := ofRat (1 / 1000000)

variable (qpcFreq : Int64)

/-- A difference of two counter values in milliseconds. -/
def elapsedMs (ticks : UInt64) : Number :=
  ofRat ticks.toNat * ofRat 1000 / ofRat qpcFreq.toInt

/-- The envelope after a value that passed the velocity gate. -/
def ShapeCalib.envelope (raw : Number) (nowQpc : UInt64) (s : ShapeCalib Number) :
    ShapeCalib Number :=
  if s.emaMax < raw then
    let first := if s.holdCount = 0 then nowQpc else s.holdFirstQpc
    let count := s.holdCount + 1
    let elapsed : Number := if first < nowQpc then elapsedMs qpcFreq (nowQpc - first) else ofRat 0
    if kHoldCountMin ≤ count ∧ kHoldTimeMs ≤ elapsed then
      { s with emaMax := raw, holdCount := 0, holdFirstQpc := 0 }
    else { s with holdCount := count, holdFirstQpc := first }
  else
    let alpha : Number := if raw < s.emaMin then kAlphaUp else kAlphaDown
    { s with
      holdCount := 0
      holdFirstQpc := 0
      emaMin := (ofRat 1 - alpha) * s.emaMin + alpha * raw
      emaMax := (ofRat 1 - kAlphaDown) * s.emaMax + kAlphaDown * raw }

/-- `UpdateShape`. -/
def updateShape (s : ShapeCalib Number) (raw : Number) (nowQpc : UInt64) : ShapeCalib Number :=
  let dev := raw - s.emaValue
  if kVelocityGateSigmas * sqrt (s.emaVar + kNormEps) < abs dev then s
  else
    let emaValue := s.emaValue + kAlphaUp * dev
    let dev2 := (raw - emaValue) * (raw - emaValue)
    let emaVar := (ofRat 1 - kAlphaEmaVar) * s.emaVar + kAlphaEmaVar * dev2
    let held := { s with emaValue := emaValue, emaVar := emaVar }.envelope qpcFreq raw nowQpc
    let markers := psqStep held.q held.n held.dn raw
    { held with
      q := markers.1
      n := markers.2
      p02 := markers.1 2
      p98 := held.emaMax
      samples := held.samples + 1
      warm := held.warm || kWarmThreshold ≤ held.samples + 1 }

/-- `NormalizeOne`. -/
def normalizeOne (s : ShapeCalib Number) (raw : Number) : Number :=
  let range := s.p98 - s.p02
  if range < kNormEps then raw
  else
    let norm := (raw - s.p02) / range
    let capped := if norm < ofRat 1 then norm else ofRat 1
    if ofRat 0 < capped then capped else ofRat 0

/-- A value as it leaves the worker: normalised once its shape is warm. -/
def ShapeCalib.normalized (s : ShapeCalib Number) (raw : Number) : Number :=
  if s.warm then normalizeOne s raw else raw

/-! ### The engine -/

def expressionCount : Nat := 63

/-- One value for each eye shape. -/
structure Eyes (Value : Type) where
  opennessL : Value
  opennessR : Value
  pupilL : Value
  pupilR : Value

/-- The fields of a frame the calibration reads. -/
structure Frame (Number : Type) where
  qpcSampleTime : UInt64
  sourceModuleUuidHash : UInt64
  eyes : Eyes Number
  expressions : Fin expressionCount → Number
  flags : UInt32

def Frame.eyeValid (frame : Frame Number) : Bool := frame.flags &&& 1 ≠ 0
def Frame.expressionsValid (frame : Frame Number) : Bool := frame.flags &&& 2 ≠ 0

/-- The array `shapes_`: the eye shapes stand behind the expressions. -/
structure CalibrationEngine (Number : Type) where
  eyes : Eyes (ShapeCalib Number)
  expressions : Fin expressionCount → ShapeCalib Number

def Eyes.fresh : Eyes (ShapeCalib Number) :=
  ⟨.fresh, .fresh, .fresh, .fresh⟩

def CalibrationEngine.fresh : CalibrationEngine Number :=
  ⟨.fresh, fun _ => .fresh⟩

def Eyes.update (nowQpc : UInt64) (shapes : Eyes (ShapeCalib Number)) (values : Eyes Number) :
    Eyes (ShapeCalib Number) where
  opennessL := updateShape qpcFreq shapes.opennessL values.opennessL nowQpc
  opennessR := updateShape qpcFreq shapes.opennessR values.opennessR nowQpc
  pupilL := updateShape qpcFreq shapes.pupilL values.pupilL nowQpc
  pupilR := updateShape qpcFreq shapes.pupilR values.pupilR nowQpc

def Eyes.normalized (shapes : Eyes (ShapeCalib Number)) (values : Eyes Number) : Eyes Number where
  opennessL := shapes.opennessL.normalized values.opennessL
  opennessR := shapes.opennessR.normalized values.opennessR
  pupilL := shapes.pupilL.normalized values.pupilL
  pupilR := shapes.pupilR.normalized values.pupilR

/-- The age of a frame when it is ingested. The sample time is compared as a signed value and
subtracted as an unsigned one. -/
def Frame.ageMs (frame : Frame Number) (now : Int64) : Number :=
  if frame.qpcSampleTime.toInt64 < now then
    elapsedMs qpcFreq (now.toUInt64 - frame.qpcSampleTime)
  else ofRat 0

/-- Whether the frame passes the age gate. -/
def Frame.current (frame : Frame Number) (now : Int64) : Bool :=
  ¬(kFrameAgeMaxMs : Number) < frame.ageMs qpcFreq now

/-- `IngestFrame`. -/
def CalibrationEngine.ingestFrame (now : Int64) (frame : Frame Number)
    (engine : CalibrationEngine Number) : CalibrationEngine Number :=
  if !frame.current qpcFreq now then engine
  else
    { eyes := if frame.eyeValid then engine.eyes.update qpcFreq now.toUInt64 frame.eyes
        else engine.eyes
      expressions := if frame.expressionsValid then fun shape =>
          updateShape qpcFreq (engine.expressions shape) (frame.expressions shape) now.toUInt64
        else engine.expressions }

/-- `Normalize`. -/
def CalibrationEngine.normalize (frame : Frame Number) (engine : CalibrationEngine Number) :
    Frame Number :=
  { frame with
    eyes := if frame.eyeValid then engine.eyes.normalized frame.eyes else frame.eyes
    expressions := if frame.expressionsValid then fun shape =>
        (engine.expressions shape).normalized (frame.expressions shape)
      else frame.expressions }

inductive FaceCalibrationOp where
  | begin
  | finish
  | save
  | resetAll
  | resetEye
  | resetExpr
deriving DecidableEq

/-- `Reset`. Nothing is saved, since no module is ever loaded. -/
def CalibrationEngine.reset (engine : CalibrationEngine Number) :
    FaceCalibrationOp → CalibrationEngine Number
  | .resetAll => .fresh
  | .resetEye => { engine with eyes := .fresh }
  | .resetExpr => { engine with expressions := fun _ => .fresh }
  | .begin | .finish | .save => engine

/-! ### The worker -/

/-- A frame the worker consumes, with the counter value and the mode it reads, or a command of the
overlay. -/
inductive Event (Number : Type) where
  | frame (now : Int64) (continuousCalibMode : UInt8) (frame : Frame Number)
  | command (op : FaceCalibrationOp)

def workerStep (engine : CalibrationEngine Number) : Event Number → CalibrationEngine Number
  | .frame now mode frame => if 0 < mode then engine.ingestFrame qpcFreq now frame else engine
  | .command op => engine.reset op

/-- The engine after a stream. -/
def learned (stream : List (Event Number)) : CalibrationEngine Number :=
  stream.foldl (workerStep qpcFreq) .fresh

/-- What the worker makes of a frame that comes after a stream. -/
def output (before : List (Event Number)) (now : Int64) (mode : UInt8) (frame : Frame Number) :
    Frame Number :=
  if 0 < mode then ((learned qpcFreq before).ingestFrame qpcFreq now frame).normalize frame
  else frame

/-- Whether an event is one of a module: its frames, and the commands, which are for all. -/
def Event.concerns (uuidHash : UInt64) : Event Number → Bool
  | .frame _ _ given => given.sourceModuleUuidHash = uuidHash
  | .command _ => true

/-! ### Isolation -/

/-- The module whose frames the estimators of the eyes, and those of the expressions, have seen
since they were reset. -/
structure Owners where
  eyes : Option UInt64 := none
  expressions : Option UInt64 := none

def Owners.after (owners : Owners) : Event Number → Owners
  | .frame now mode frame =>
    if 0 < mode ∧ frame.current qpcFreq now = true then
      { eyes := if frame.eyeValid then some frame.sourceModuleUuidHash else owners.eyes
        expressions := if frame.expressionsValid then some frame.sourceModuleUuidHash
          else owners.expressions }
    else owners
  | .command .resetAll => {}
  | .command .resetEye => { owners with eyes := none }
  | .command .resetExpr => { owners with expressions := none }
  | .command _ => owners

/-- Estimators that belong to a module or to none. -/
def BelongsTo (uuidHash : UInt64) (owner : Option UInt64) : Prop :=
  owner = none ∨ owner = some uuidHash

instance (uuidHash : UInt64) (owner : Option UInt64) : Decidable (BelongsTo uuidHash owner) :=
  inferInstanceAs (Decidable (_ ∨ _))

/-- A frame that is calibrated comes from the owners of the estimators it meets. -/
def Owners.Accept (owners : Owners) : Event Number → Prop
  | .frame _ mode frame => 0 < mode →
    (frame.eyeValid = true → BelongsTo frame.sourceModuleUuidHash owners.eyes) ∧
    (frame.expressionsValid = true → BelongsTo frame.sourceModuleUuidHash owners.expressions)
  | .command _ => True

instance (owners : Owners) (event : Event Number) : Decidable (owners.Accept event) :=
  match event with
  | .frame _ _ _ => inferInstanceAs (Decidable (_ → (_ → BelongsTo _ _) ∧ (_ → BelongsTo _ _)))
  | .command _ => inferInstanceAs (Decidable True)

/-- A stream in which the estimators of a group never meet two modules between two resets. -/
def OneModule (owners : Owners) : List (Event Number) → Prop
  | [] => True
  | event :: rest => owners.Accept event ∧ OneModule (owners.after qpcFreq event) rest

instance decidableOneModule : ∀ (owners : Owners) (stream : List (Event Number)),
    Decidable (OneModule qpcFreq owners stream)
  | _, [] => inferInstanceAs (Decidable True)
  | owners, event :: rest =>
    have := decidableOneModule (owners.after qpcFreq event) rest
    inferInstanceAs (Decidable (owners.Accept event ∧ OneModule qpcFreq _ rest))

/-- Two engines agree on the estimators that belong to a module or to none. -/
structure Agree (uuidHash : UInt64) (owners : Owners) (all own : CalibrationEngine Number) :
    Prop where
  eyes : BelongsTo uuidHash owners.eyes → all.eyes = own.eyes
  expressions : BelongsTo uuidHash owners.expressions → all.expressions = own.expressions

theorem ingestFrame_agree {owners : Owners} {all own : CalibrationEngine Number} {now : Int64}
    {mode : UInt8} {frame : Frame Number}
    (agree : Agree frame.sourceModuleUuidHash owners all own)
    (accepted : owners.Accept (.frame now mode frame)) (calibrated : 0 < mode) :
    (frame.eyeValid = true → (all.ingestFrame qpcFreq now frame).eyes =
      (own.ingestFrame qpcFreq now frame).eyes) ∧
    (frame.expressionsValid = true → (all.ingestFrame qpcFreq now frame).expressions =
      (own.ingestFrame qpcFreq now frame).expressions) := by
  obtain ⟨eyes, expressions⟩ := accepted calibrated
  unfold CalibrationEngine.ingestFrame
  refine ⟨fun valid => ?_, fun valid => ?_⟩
  · have same : all.eyes = own.eyes := agree.eyes (eyes valid)
    split
    · exact same
    · dsimp only
      rw [same]
  · have same : all.expressions = own.expressions := agree.expressions (expressions valid)
    split
    · exact same
    · dsimp only
      rw [same]

/-- A frame of the module itself. -/
theorem own_frame_agree {owners : Owners} {all own : CalibrationEngine Number} {now : Int64}
    {mode : UInt8} {frame : Frame Number}
    (agree : Agree frame.sourceModuleUuidHash owners all own)
    (accepted : owners.Accept (.frame now mode frame)) :
    Agree frame.sourceModuleUuidHash (owners.after qpcFreq (.frame now mode frame))
      (workerStep qpcFreq all (.frame now mode frame))
      (workerStep qpcFreq own (.frame now mode frame)) := by
  dsimp only [Owners.after, workerStep]
  by_cases calibrated : 0 < mode
  · rw [if_pos calibrated, if_pos calibrated]
    obtain ⟨eyes, expressions⟩ := ingestFrame_agree qpcFreq agree accepted calibrated
    by_cases current : frame.current qpcFreq now = true
    · rw [if_pos ⟨calibrated, current⟩]
      refine ⟨fun owned => ?_, fun owned => ?_⟩
      · by_cases valid : frame.eyeValid = true
        · exact eyes valid
        · rw [if_neg valid] at owned
          simp only [CalibrationEngine.ingestFrame, current, Bool.not_true, Bool.false_eq_true,
            if_false, if_neg valid]
          exact agree.eyes owned
      · by_cases valid : frame.expressionsValid = true
        · exact expressions valid
        · rw [if_neg valid] at owned
          simp only [CalibrationEngine.ingestFrame, current, Bool.not_true, Bool.false_eq_true,
            if_false, if_neg valid]
          exact agree.expressions owned
    · rw [if_neg fun both => current both.2]
      simp only [CalibrationEngine.ingestFrame, current, Bool.not_false, if_true]
      exact agree
  · rw [if_neg calibrated, if_neg calibrated, if_neg fun both => calibrated both.1]
    exact agree

/-- A frame of another module: what it teaches belongs to that module. -/
theorem other_frame_agree {uuidHash : UInt64} {owners : Owners}
    {all own : CalibrationEngine Number} {now : Int64} {mode : UInt8} {frame : Frame Number}
    (agree : Agree uuidHash owners all own) (other : frame.sourceModuleUuidHash ≠ uuidHash) :
    Agree uuidHash (owners.after qpcFreq (.frame now mode frame))
      (workerStep qpcFreq all (.frame now mode frame)) own := by
  dsimp only [Owners.after, workerStep]
  by_cases calibrated : 0 < mode
  · rw [if_pos calibrated]
    by_cases current : frame.current qpcFreq now = true
    · rw [if_pos ⟨calibrated, current⟩]
      simp only [CalibrationEngine.ingestFrame, current, Bool.not_true, Bool.false_eq_true,
        if_false]
      refine ⟨fun owned => ?_, fun owned => ?_⟩
      · by_cases valid : frame.eyeValid = true
        · rw [if_pos valid] at owned
          exact absurd (owned.resolve_left nofun) fun same => other (Option.some.inj same)
        · rw [if_neg valid] at owned
          dsimp only
          rw [if_neg valid]
          exact agree.eyes owned
      · by_cases valid : frame.expressionsValid = true
        · rw [if_pos valid] at owned
          exact absurd (owned.resolve_left nofun) fun same => other (Option.some.inj same)
        · rw [if_neg valid] at owned
          dsimp only
          rw [if_neg valid]
          exact agree.expressions owned
    · rw [if_neg fun both => current both.2]
      simp only [CalibrationEngine.ingestFrame, current, Bool.not_false, if_true]
      exact agree
  · rw [if_neg calibrated, if_neg fun both => calibrated both.1]
    exact agree

theorem command_agree {uuidHash : UInt64} {owners : Owners} {all own : CalibrationEngine Number}
    (agree : Agree uuidHash owners all own) (op : FaceCalibrationOp) :
    Agree uuidHash (owners.after qpcFreq (.command op : Event Number)) (all.reset op)
      (own.reset op) := by
  cases op with
  | begin => exact agree
  | finish => exact agree
  | save => exact agree
  | resetAll => exact ⟨fun _ => rfl, fun _ => rfl⟩
  | resetEye => exact ⟨fun _ => rfl, agree.expressions⟩
  | resetExpr => exact ⟨agree.eyes, fun _ => rfl⟩

/-- Along a stream, the engine that sees all frames agrees with the one that sees the module's own,
and the owners at its end accept what comes next. -/
theorem stream_agree {uuidHash : UInt64} {owners : Owners} {all own : CalibrationEngine Number}
    {before after : List (Event Number)} (agree : Agree uuidHash owners all own)
    (oneModule : OneModule qpcFreq owners (before ++ after)) :
    ∃ later, OneModule qpcFreq later after ∧
      Agree uuidHash later (before.foldl (workerStep qpcFreq) all)
        ((before.filter (·.concerns uuidHash)).foldl (workerStep qpcFreq) own) := by
  induction before generalizing owners all own with
  | nil => exact ⟨owners, oneModule, agree⟩
  | cons event rest inductionHypothesis =>
    obtain ⟨accepted, following⟩ := oneModule
    cases event with
    | command op => exact inductionHypothesis (command_agree qpcFreq agree op) following
    | frame now mode frame =>
      by_cases owned : frame.sourceModuleUuidHash = uuidHash
      · subst owned
        rw [List.filter_cons_of_pos (by simp [Event.concerns])]
        exact inductionHypothesis (own_frame_agree qpcFreq agree accepted) following
      · rw [List.filter_cons_of_neg (by simpa [Event.concerns] using owned)]
        exact inductionHypothesis (other_frame_agree qpcFreq agree owned) following

theorem normalize_congr {frame : Frame Number} {first second : CalibrationEngine Number}
    (eyes : frame.eyeValid = true → first.eyes = second.eyes)
    (expressions : frame.expressionsValid = true → first.expressions = second.expressions) :
    first.normalize frame = second.normalize frame := by
  unfold CalibrationEngine.normalize
  by_cases eyeValid : frame.eyeValid = true
  · rw [eyes eyeValid]
    by_cases valid : frame.expressionsValid = true
    · rw [expressions valid]
    · rw [if_neg valid, if_neg valid]
  · rw [if_neg eyeValid, if_neg eyeValid]
    by_cases valid : frame.expressionsValid = true
    · rw [expressions valid]
    · rw [if_neg valid, if_neg valid]

/-- Along every stream in which the estimators of a group meet one module between two resets, the
output for a frame is what it would be if only the frames of its own module had come. -/
theorem output_of_own_frames (before : List (Event Number)) (now : Int64) (mode : UInt8)
    (frame : Frame Number)
    (oneModule : OneModule qpcFreq {} (before ++ [.frame now mode frame])) :
    output qpcFreq before now mode frame =
      output qpcFreq (before.filter (·.concerns frame.sourceModuleUuidHash)) now mode frame := by
  have start : Agree frame.sourceModuleUuidHash {} CalibrationEngine.fresh
      (CalibrationEngine.fresh : CalibrationEngine Number) := ⟨fun _ => rfl, fun _ => rfl⟩
  obtain ⟨later, ⟨accepted, -⟩, agree⟩ := stream_agree qpcFreq start oneModule
  unfold output
  split
  · rename_i calibrated
    obtain ⟨eyes, expressions⟩ := ingestFrame_agree qpcFreq agree accepted calibrated
    exact normalize_congr eyes expressions
  · rfl

end Calibration

/-! ### Hot-swapped modules -/

/-- Exact arithmetic, with a root rounded to six places. -/
instance : Arithmetic Rat where
  ofRat := id
  sqrt value := (Nat.sqrt (value * 10 ^ 12).floor.toNat : Rat) / 10 ^ 6
  abs value := |value|
  decidableLT := inferInstance
  decidableLE := inferInstance

/-- A frame with both eyes half open and no expressions. -/
def halfOpen (uuidHash : UInt64) : Frame Rat where
  qpcSampleTime := 0
  sourceModuleUuidHash := uuidHash
  eyes := ⟨1 / 2, 1 / 2, 1 / 2, 1 / 2⟩
  expressions := fun _ => 0
  flags := 1

def halfOpenAt (uuidHash : UInt64) : Event Rat := .frame 1 1 (halfOpen uuidHash)

/-- The eyes are reset between the frames of two modules. -/
theorem output_of_own_frames_after_reset :
    OneModule 10000000 {} ([halfOpenAt 1, .command .resetEye] ++ [.frame 1 1 (halfOpen 2)]) ∧
    output 10000000 [halfOpenAt 1, .command .resetEye] 1 1 (halfOpen 2) =
      output 10000000 ([halfOpenAt 1, .command .resetEye].filter
        (·.concerns (halfOpen 2).sourceModuleUuidHash)) 1 1 (halfOpen 2) := by
  have oneModule : OneModule 10000000 {}
      ([halfOpenAt 1, .command .resetEye] ++ [.frame 1 1 (halfOpen 2)]) := by
    decide +kernel
  exact ⟨oneModule, output_of_own_frames 10000000 [halfOpenAt 1, .command .resetEye] 1 1
    (halfOpen 2) oneModule⟩

/-- Two hundred frames of one module warm the estimators, and the first frame of another is
normalised with their ranges; alone it would pass as it is. -/
theorem ranges_leak_between_modules :
    (output 10000000 (List.replicate 200 (halfOpenAt 1)) 1 1 (halfOpen 2)).eyes.opennessL ≠
      (output 10000000 ((List.replicate 200 (halfOpenAt 1)).filter
        (·.concerns (halfOpen 2).sourceModuleUuidHash)) 1 1 (halfOpen 2)).eyes.opennessL := by
  decide +kernel

end PairDriver.FaceCalibration
