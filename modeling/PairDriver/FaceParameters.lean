/-
This file follows the data of a face module from its update packet to the OSC
parameters: the pull loop of the host, which fills an eye sink, the wire body the
frame writer publishes, the frame the driver translates it into, and the parameters
it sends out, with calibration, vergence lock and eyelid sync off.

Openness and shapes arrive. The pull loop never writes gaze or pupils into the
sink, so these parameters carry what the sink was created with, whatever the module
delivers.
-/

import PairDriver.FaceCalibration

namespace PairDriver.FaceParameters

open FaceCalibration (Arithmetic)
open FaceCalibration.Arithmetic (ofRat)

/-! ### The update packet and the eye sink -/

/-- Floats with a comparison in which nothing is below itself, and the test for a finite value. -/
class FloatNumber (Number : Type) extends Arithmetic Number where
  isFinite : Number → Bool
  lt_irrefl : ∀ value : Number, ¬value < value

open FloatNumber (isFinite lt_irrefl)

inductive Side where
  | left
  | right
deriving DecidableEq

/-- What a packet holds of an eye. -/
structure EyeData (Number : Type) where
  gazeX : Number
  gazeY : Number
  pupilDiameter : Number
  openness : Number

/-- `UpdateDataContiguous`, without the head; the shapes hold one more slot than there are
expressions. -/
structure UpdateData (Number : Type) where
  maxDilation : Number
  minDilation : Number
  eye : Side → EyeData Number
  shapes : Fin 89 → Number

structure EyeGaze (Number : Type) where
  originHmd : Fin 3 → Number
  dirHmd : Fin 3 → Number
  confidence : Number

structure EyeFrameSink (Number : Type) where
  gaze : Side → EyeGaze Number
  openness : Side → Number
  pupilDilation : Side → Number

section Host

variable {Number : Type} [FloatNumber Number] (kInvalid : Number)

/-- A new sink, in which everything is zero. -/
def EyeFrameSink.fresh : EyeFrameSink Number where
  gaze := fun _ => ⟨fun _ => ofRat 0, fun _ => ofRat 0, ofRat 0⟩
  openness := fun _ => ofRat 0
  pupilDilation := fun _ => ofRat 0

variable [DecidableEq Number]

/-- What the pull loop writes of an update into the sink. -/
def EyeFrameSink.read (update : UpdateData Number) (sink : EyeFrameSink Number) :
    EyeFrameSink Number :=
  { sink with
    openness := fun side =>
      if (update.eye side).openness = kInvalid then sink.openness side
      else (update.eye side).openness }

/-- The sink of a run after some updates. -/
def EyeFrameSink.afterUpdates (updates : List (UpdateData Number)) : EyeFrameSink Number :=
  updates.foldl (fun sink update => sink.read kInvalid update) .fresh

/-- The dense array the pull loop fills from an update. -/
def upstreamShapes (update : UpdateData Number) : Fin 88 → Number :=
  fun index => update.shapes index.castSucc

end Host

/-! ### Frames -/

/-- A frame with some number of expressions. -/
structure FrameBody (Number : Type) (count : Nat) where
  sourceModuleUuidHash : UInt64
  eyeOrigin : Side → Fin 3 → Number
  eyeGaze : Side → Fin 3 → Number
  eyeOpenness : Side → Number
  pupilDilation : Side → Number
  eyeConfidence : Side → Number
  expressions : Fin count → Number
  eyeValid : Bool
  expressionsValid : Bool

section Frames

variable {Number : Type} [FloatNumber Number]

/-- A value that is not finite becomes zero. -/
def finiteOrZero (value : Number) : Number :=
  if isFinite value then value else ofRat 0

def FrameBody.sanitizeNonFinite {count : Nat} (body : FrameBody Number count) :
    FrameBody Number count :=
  { body with
    eyeOrigin := fun side axis => finiteOrZero (body.eyeOrigin side axis)
    eyeGaze := fun side axis => finiteOrZero (body.eyeGaze side axis)
    eyeOpenness := fun side => finiteOrZero (body.eyeOpenness side)
    pupilDilation := fun side => finiteOrZero (body.pupilDilation side)
    eyeConfidence := fun side => finiteOrZero (body.eyeConfidence side)
    expressions := fun index => finiteOrZero (body.expressions index) }

/-- `PublishAsync`: the body that is written into the ring. -/
def publishAsync (eye : EyeFrameSink Number) (shapes : Fin 88 → Number)
    (eyeValid exprValid : Bool) (moduleUuidHash : UInt64) : FrameBody Number 88 :=
  FrameBody.sanitizeNonFinite
    { sourceModuleUuidHash := moduleUuidHash
      eyeOrigin := fun side => (eye.gaze side).originHmd
      eyeGaze := fun side => (eye.gaze side).dirHmd
      eyeOpenness := eye.openness
      pupilDilation := eye.pupilDilation
      eyeConfidence := fun side => (eye.gaze side).confidence
      expressions := shapes
      eyeValid := eyeValid
      expressionsValid := exprValid }

/-- The slot of each upstream shape, or `-1`. -/
def kUpstreamToOurs : List Int :=
  [11, 10, 9, 8, 19, 18, 13, 12, 15, 14, 17, 16, -1, -1, -1, -1, -1, -1, 21, 20, 23, 22, 26,
    29, 28, 27, -1, -1, -1, 40, 31, 30, 33, 32, -1, -1, 35, 34, 37, 36, 39, 38, -1, -1, -1, -1,
    -1, -1, 25, 24, -1, -1, 42, 41, 44, 43, 46, 45, -1, -1, 48, 47, 50, 49, 52, 51, 53, 54, 56,
    55, 58, 57, 59, 60, 61, -1, 62, -1, -1, -1, -1, -1, -1, -1, -1, -1, -1, -1]

/-- The slot an upstream shape is mapped to. -/
def slotOf (shape : Fin 88) : Option (Fin 63) :=
  let slot := kUpstreamToOurs.getD shape (-1)
  if inside : 0 ≤ slot ∧ slot < 63 then some ⟨slot.toNat, by omega⟩ else none

/-- `std::clamp` between zero and one. -/
def clamp (value : Number) : Number :=
  if value < ofRat 0 then ofRat 0 else if ofRat 1 < value then ofRat 1 else value

/-- One round of the remapping loop. -/
def remapShape (src : Fin 88 → Number) (dst : Fin 63 → Number) (shape : Fin 88) :
    Fin 63 → Number :=
  match slotOf shape with
  | none => dst
  | some slot =>
    if isFinite (src shape) then Function.update dst slot (clamp (src shape)) else dst

def remapUpstreamShapes (src : Fin 88 → Number) (dst : Fin 63 → Number) : Fin 63 → Number :=
  (List.finRange 88).foldl (remapShape src) dst

/-- `TranslateWireBody`. -/
def translateWireBody (wire : FrameBody Number 88) : FrameBody Number 63 :=
  { wire with expressions := remapUpstreamShapes wire.expressions fun _ => ofRat 0 }

/-! ### OSC parameters -/

/-- The parameters of a frame; some expressions have the name of their upstream shape too. -/
inductive Parameter where
  | eyeX (side : Side)
  | eyeY (side : Side)
  | eyeLid (side : Side)
  | pupil
  | expression (slot : Fin 63)
  | upstreamAlias (slot : Fin 63)
deriving DecidableEq

def kExprParamNames : List String :=
  ["EyeLookOutLeft", "EyeLookInLeft", "EyeLookUpLeft", "EyeLookDownLeft", "EyeLookOutRight",
    "EyeLookInRight", "EyeLookUpRight", "EyeLookDownRight", "EyeWideLeft", "EyeWideRight",
    "EyeSquintLeft", "EyeSquintRight", "BrowLowererLeft", "BrowLowererRight", "BrowInnerUpLeft",
    "BrowInnerUpRight", "BrowOuterUpLeft", "BrowOuterUpRight", "BrowPinchLeft",
    "BrowPinchRight", "CheekPuffLeft", "CheekPuffRight", "CheekSuckLeft", "CheekSuckRight",
    "NoseSneerLeft", "NoseSneerRight", "JawOpen", "JawForward", "JawLeft", "JawRight",
    "LipSuckUpperLeft", "LipSuckUpperRight", "LipSuckLowerLeft", "LipSuckLowerRight",
    "LipFunnelUpperLeft", "LipFunnelUpperRight", "LipFunnelLowerLeft", "LipFunnelLowerRight",
    "LipPuckerUpperLeft", "LipPuckerUpperRight", "MouthClose", "MouthUpperLeft",
    "MouthUpperRight", "MouthLowerLeft", "MouthLowerRight", "MouthSmileLeft", "MouthSmileRight",
    "MouthSadLeft", "MouthSadRight", "MouthStretchLeft", "MouthStretchRight", "MouthDimpleLeft",
    "MouthDimpleRight", "MouthRaiserUpper", "MouthRaiserLower", "MouthPressLeft",
    "MouthPressRight", "MouthTightenerLeft", "MouthTightenerRight", "TongueOut", "TongueUp",
    "TongueDown", "TongueLeft"]

def kExprParamUpstreamAliases (slot : Fin 63) : Option String :=
  match slot.val with
  | 40 => some "MouthClosed"
  | 45 => some "MouthCornerPullLeft"
  | 46 => some "MouthCornerPullRight"
  | 47 => some "MouthFrownLeft"
  | 48 => some "MouthFrownRight"
  | _ => none

/-- The name of a parameter, among the legacy or the second names. -/
def Parameter.name : Parameter → Bool → String
  | .eyeX .left, false => "LeftEyeX"
  | .eyeX .left, true => "EyeLeftX"
  | .eyeX .right, false => "RightEyeX"
  | .eyeX .right, true => "EyeRightX"
  | .eyeY .left, false => "LeftEyeY"
  | .eyeY .left, true => "EyeLeftY"
  | .eyeY .right, false => "RightEyeY"
  | .eyeY .right, true => "EyeRightY"
  | .eyeLid .left, false => "LeftEyeLid"
  | .eyeLid .left, true => "EyeOpenLeft"
  | .eyeLid .right, false => "RightEyeLid"
  | .eyeLid .right, true => "EyeOpenRight"
  | .pupil, false => "EyesDilation"
  | .pupil, true => "PupilDilation"
  | .expression slot, _ => kExprParamNames.getD slot ""
  | .upstreamAlias slot, _ => (kExprParamUpstreamAliases slot).getD ""

/-- The address of a parameter. -/
def Parameter.address (parameter : Parameter) (v2 : Bool) : String :=
  (if v2 then "/avatar/parameters/v2/" else "/avatar/parameters/") ++ parameter.name v2

/-- A call of `OscPublishFloat`; its address is that of the parameter. -/
structure Message (Number : Type) where
  parameter : Parameter
  v2 : Bool
  value : Number

def publishEye (frame : FrameBody Number 63) : List (Message Number) :=
  let pupil := (frame.pupilDilation .left + frame.pupilDilation .right) * ofRat (1 / 2)
  [false, true].flatMap fun v2 =>
    [⟨.eyeX .left, v2, frame.eyeGaze .left 0⟩, ⟨.eyeY .left, v2, frame.eyeGaze .left 1⟩,
      ⟨.eyeX .right, v2, frame.eyeGaze .right 0⟩, ⟨.eyeY .right, v2, frame.eyeGaze .right 1⟩,
      ⟨.eyeLid .left, v2, frame.eyeOpenness .left⟩, ⟨.eyeLid .right, v2, frame.eyeOpenness .right⟩,
      ⟨.pupil, v2, pupil⟩]

/-- `emitBoth`, which gives up where an address does not fit its buffer. -/
def emitBoth (parameter : Parameter) (value : Number) : List (Message Number) :=
  if (parameter.address false).length + 1 > 64 ∨ (parameter.address true).length + 1 > 64 then []
  else [⟨parameter, false, value⟩, ⟨parameter, true, value⟩]

def publishExpressions (frame : FrameBody Number 63) : List (Message Number) :=
  (List.finRange 63).flatMap fun slot =>
    emitBoth (.expression slot) (frame.expressions slot) ++
      if (kExprParamUpstreamAliases slot).isSome then
        emitBoth (.upstreamAlias slot) (frame.expressions slot)
      else []

def publishFaceFrameOsc (frame : FrameBody Number 63) : List (Message Number) :=
  (if frame.eyeValid then publishEye frame else []) ++
    if frame.expressionsValid then publishExpressions frame else []

/-! ### Remapping -/

/-- Each slot stands at most once in the table. -/
theorem idxOf_slotOf : ∀ shape : Fin 88, (slotOf shape).all (fun slot =>
    decide (kUpstreamToOurs.idxOf (slot.val : Int) = shape.val)) = true := by
  decide +kernel

theorem slotOf_injective {shape other : Fin 88} {slot : Fin 63} (mapped : slotOf shape = some slot)
    (otherMapped : slotOf other = some slot) : shape = other := by
  have place := idxOf_slotOf shape
  have otherPlace := idxOf_slotOf other
  rw [mapped] at place
  rw [otherMapped] at otherPlace
  exact Fin.ext ((of_decide_eq_true place).symm.trans (of_decide_eq_true otherPlace))

/-- The rounds of other shapes leave a slot alone. -/
theorem remap_apart (src : Fin 88 → Number) (slot : Fin 63) (shapes : List (Fin 88))
    (apart : ∀ shape ∈ shapes, slotOf shape ≠ some slot) (dst : Fin 63 → Number) :
    shapes.foldl (remapShape src) dst slot = dst slot := by
  induction shapes generalizing dst with
  | nil => rfl
  | cons shape rest inductionHypothesis =>
    have first : remapShape src dst shape slot = dst slot := by
      cases found : slotOf shape with
      | none => simp only [remapShape, found]
      | some other =>
        have different : slot ≠ other := fun same =>
          apart shape List.mem_cons_self (same ▸ found)
        simp only [remapShape, found]
        split
        · exact Function.update_of_ne different _ _
        · rfl
    rw [List.foldl_cons, inductionHypothesis (fun other member =>
      apart other (List.mem_cons_of_mem _ member)), first]

/-- A slot ends up with the clamped weight of the shape that is mapped to it. -/
theorem remap_at (src : Fin 88 → Number) (shape : Fin 88) (slot : Fin 63)
    (mapped : slotOf shape = some slot) (finite : isFinite (src shape) = true)
    (shapes : List (Fin 88)) (member : shape ∈ shapes) (dst : Fin 63 → Number) :
    shapes.foldl (remapShape src) dst slot = clamp (src shape) := by
  induction shapes generalizing dst with
  | nil => cases member
  | cons first rest inductionHypothesis =>
    rw [List.foldl_cons]
    by_cases later : shape ∈ rest
    · exact inductionHypothesis later _
    · obtain rfl : shape = first := (List.mem_cons.mp member).resolve_right later
      have apart : ∀ other ∈ rest, slotOf other ≠ some slot := by
        intro other otherMember same
        exact later (slotOf_injective mapped same ▸ otherMember)
      rw [remap_apart src slot rest apart]
      simp only [remapShape, mapped, finite, if_true, Function.update_self]

theorem remapUpstreamShapes_at (src dst) (shape : Fin 88) (slot : Fin 63)
    (mapped : slotOf shape = some slot) (finite : isFinite (src shape : Number) = true) :
    remapUpstreamShapes src dst slot = clamp (src shape) :=
  remap_at src shape slot mapped finite _ (List.mem_finRange shape) dst

/-- A weight passes the clamp unchanged if and only if it lies between zero and one. -/
theorem clamp_eq_self (value : Number) :
    clamp value = value ↔ ¬value < ofRat 0 ∧ ¬ofRat 1 < value := by
  unfold clamp
  by_cases below : value < ofRat 0
  · rw [if_pos below]
    refine ⟨fun same => ?_, fun inside => absurd below inside.1⟩
    exact absurd (same ▸ below) (lt_irrefl _)
  · rw [if_neg below]
    by_cases above : ofRat 1 < value
    · rw [if_pos above]
      refine ⟨fun same => ?_, fun inside => absurd above inside.2⟩
      exact absurd (same ▸ above) (lt_irrefl _)
    · rw [if_neg above]
      exact ⟨fun _ => ⟨below, above⟩, fun _ => rfl⟩

theorem finiteOrZero_zero : finiteOrZero (ofRat 0 : Number) = ofRat 0 := by
  unfold finiteOrZero
  split <;> rfl

end Frames

/-! ### What the module delivered -/

section Delivered

variable {Number : Type} [FloatNumber Number] [DecidableEq Number] (kInvalid : Number)

/-- All that is read of an update is finite and not the invalid value. -/
structure Delivered (update : UpdateData Number) : Prop where
  openness : ∀ side, isFinite (update.eye side).openness = true ∧
    (update.eye side).openness ≠ kInvalid
  gaze : ∀ side, (isFinite (update.eye side).gazeX = true ∧ (update.eye side).gazeX ≠ kInvalid) ∧
    isFinite (update.eye side).gazeY = true ∧ (update.eye side).gazeY ≠ kInvalid
  pupil : ∀ side, isFinite (update.eye side).pupilDiameter = true ∧
    (update.eye side).pupilDiameter ≠ kInvalid
  shapes : ∀ index, isFinite (update.shapes index) = true ∧ update.shapes index ≠ kInvalid

/-- The upstream shape a slot is mapped from. -/
def shapeOf (slot : Fin 63) : Option (Fin 88) :=
  (List.finRange 88).find? fun shape => slotOf shape = some slot

/-- What a parameter is to carry of an update: the weight of the shape an expression is mapped
from, if there is one, the openness, the gaze, and some function of the update for the pupils. -/
def expected (pupilOf : UpdateData Number → Number) (update : UpdateData Number) :
    Parameter → Option Number
  | .eyeX side => some (update.eye side).gazeX
  | .eyeY side => some (update.eye side).gazeY
  | .eyeLid side => some (update.eye side).openness
  | .pupil => some (pupilOf update)
  | .expression slot => (shapeOf slot).map (upstreamShapes update)
  | .upstreamAlias slot => (shapeOf slot).map (upstreamShapes update)

/-- The messages carry what the module delivered. -/
def Carries (pupilOf : UpdateData Number → Number) (update : UpdateData Number)
    (messages : List (Message Number)) : Prop :=
  ∀ message ∈ messages, ∀ value ∈ expected pupilOf update message.parameter, message.value = value

/-- The messages the driver publishes for an update, after the earlier updates of the run. -/
def publishedFor (earlier : List (UpdateData Number)) (update : UpdateData Number)
    (eyeSuccess expressionSuccess : Bool) (moduleUuidHash : UInt64) : List (Message Number) :=
  publishFaceFrameOsc (translateWireBody (publishAsync
    (EyeFrameSink.afterUpdates kInvalid (earlier ++ [update])) (upstreamShapes update)
    eyeSuccess expressionSuccess moduleUuidHash))

/-- The value of the pupil parameters, which no update changes. -/
def restingPupil : Number := (ofRat 0 + ofRat 0) * ofRat (1 / 2)

/-- What the code needs of an update to pass it on: it would have to deliver the values the sink
was created with. -/
structure PassesThrough (pupilOf : UpdateData Number → Number) (update : UpdateData Number)
    (eyeSuccess expressionSuccess : Bool) : Prop where
  gaze : eyeSuccess = true → ∀ side, (update.eye side).gazeX = ofRat 0 ∧
    (update.eye side).gazeY = ofRat 0
  pupil : eyeSuccess = true → pupilOf update = restingPupil
  weights : expressionSuccess = true → ∀ shape, (slotOf shape).isSome = true →
    ¬upstreamShapes update shape < ofRat 0 ∧ ¬ofRat 1 < upstreamShapes update shape

/-! ### The way of an update -/

/-- No update touches what the sink holds besides the openness. -/
theorem afterUpdates_rest (updates : List (UpdateData Number)) :
    (EyeFrameSink.afterUpdates kInvalid updates).gaze = EyeFrameSink.fresh.gaze ∧
      (EyeFrameSink.afterUpdates kInvalid updates).pupilDilation =
        EyeFrameSink.fresh.pupilDilation := by
  unfold EyeFrameSink.afterUpdates
  generalize start : (EyeFrameSink.fresh : EyeFrameSink Number) = sink
  have rest : sink.gaze = EyeFrameSink.fresh.gaze ∧
      sink.pupilDilation = EyeFrameSink.fresh.pupilDilation := by
    rw [← start]
    exact ⟨rfl, rfl⟩
  clear start
  induction updates generalizing sink with
  | nil => exact ⟨rfl, rfl⟩
  | cons update later inductionHypothesis => exact inductionHypothesis (sink.read kInvalid update) rest

theorem afterUpdates_openness {update : UpdateData Number} (delivered : Delivered kInvalid update)
    (earlier : List (UpdateData Number)) (side : Side) :
    (EyeFrameSink.afterUpdates kInvalid (earlier ++ [update])).openness side =
      (update.eye side).openness := by
  unfold EyeFrameSink.afterUpdates
  rw [List.foldl_append]
  exact if_neg (delivered.openness side).2

/-- The frame the driver publishes for an update. -/
structure FrameOf (update : UpdateData Number) (eyeSuccess expressionSuccess : Bool)
    (frame : FrameBody Number 63) : Prop where
  gaze : ∀ side axis, frame.eyeGaze side axis = ofRat 0
  pupil : ∀ side, frame.pupilDilation side = ofRat 0
  openness : ∀ side, frame.eyeOpenness side = (update.eye side).openness
  expressions : ∀ shape slot, slotOf shape = some slot →
    frame.expressions slot = clamp (upstreamShapes update shape)
  eyeValid : frame.eyeValid = eyeSuccess
  expressionsValid : frame.expressionsValid = expressionSuccess

theorem frameOf_translated {update : UpdateData Number} (delivered : Delivered kInvalid update)
    (earlier : List (UpdateData Number)) (eyeSuccess expressionSuccess : Bool)
    (moduleUuidHash : UInt64) :
    FrameOf update eyeSuccess expressionSuccess (translateWireBody (publishAsync
      (EyeFrameSink.afterUpdates kInvalid (earlier ++ [update])) (upstreamShapes update)
      eyeSuccess expressionSuccess moduleUuidHash)) := by
  obtain ⟨gaze, pupil⟩ := afterUpdates_rest kInvalid (earlier ++ [update])
  have finite : ∀ shape, finiteOrZero (upstreamShapes update shape) = upstreamShapes update shape :=
    fun shape => if_pos (delivered.shapes _).1
  refine ⟨fun side axis => ?_, fun side => ?_, fun side => ?_, fun shape slot mapped => ?_, rfl, rfl⟩
  · simp only [translateWireBody, publishAsync, FrameBody.sanitizeNonFinite, gaze]
    exact finiteOrZero_zero
  · simp only [translateWireBody, publishAsync, FrameBody.sanitizeNonFinite, pupil]
    exact finiteOrZero_zero
  · simp only [translateWireBody, publishAsync, FrameBody.sanitizeNonFinite,
      afterUpdates_openness kInvalid delivered]
    exact if_pos (delivered.openness side).1
  · simp only [translateWireBody, publishAsync, FrameBody.sanitizeNonFinite, finite]
    exact remapUpstreamShapes_at _ _ shape slot mapped (delivered.shapes _).1

/-! ### Eyes and expressions -/

omit [DecidableEq Number] in
theorem eyeX_sent (frame : FrameBody Number 63) (side : Side) :
    (⟨.eyeX side, false, frame.eyeGaze side 0⟩ : Message Number) ∈ publishEye frame := by
  cases side <;> simp [publishEye]

omit [DecidableEq Number] in
theorem publishEye_carries (pupilOf : UpdateData Number → Number) {update : UpdateData Number}
    {eyeSuccess expressionSuccess : Bool} {frame : FrameBody Number 63}
    (frameOf : FrameOf update eyeSuccess expressionSuccess frame) :
    Carries pupilOf update (publishEye frame) ↔
      (∀ side, (update.eye side).gazeX = ofRat 0 ∧ (update.eye side).gazeY = ofRat 0) ∧
        pupilOf update = restingPupil := by
  have pupil : (frame.pupilDilation .left + frame.pupilDilation .right) * ofRat (1 / 2) =
      restingPupil := by
    rw [frameOf.pupil, frameOf.pupil]
    rfl
  refine ⟨fun carries => ⟨fun side => ⟨?_, ?_⟩, ?_⟩, fun ⟨gaze, same⟩ message member value given => ?_⟩
  · rw [← frameOf.gaze side 0]
    exact (carries _ (eyeX_sent frame side) _ rfl).symm
  · rw [← frameOf.gaze side 1]
    have sent : (⟨.eyeY side, false, frame.eyeGaze side 1⟩ : Message Number) ∈ publishEye frame := by
      cases side <;> simp [publishEye]
    exact (carries _ sent _ rfl).symm
  · rw [← pupil]
    have sent : (⟨.pupil, false, (frame.pupilDilation .left + frame.pupilDilation .right) *
        ofRat (1 / 2)⟩ : Message Number) ∈ publishEye frame := by
      simp [publishEye]
    exact (carries _ sent _ rfl).symm
  · obtain ⟨v2, -, listed⟩ := List.mem_flatMap.mp member
    simp only [List.mem_cons, List.not_mem_nil, or_false] at listed
    rcases listed with rfl | rfl | rfl | rfl | rfl | rfl | rfl
    · exact (frameOf.gaze .left 0).trans ((gaze .left).1.symm.trans (Option.some.inj given))
    · exact (frameOf.gaze .left 1).trans ((gaze .left).2.symm.trans (Option.some.inj given))
    · exact (frameOf.gaze .right 0).trans ((gaze .right).1.symm.trans (Option.some.inj given))
    · exact (frameOf.gaze .right 1).trans ((gaze .right).2.symm.trans (Option.some.inj given))
    · exact (frameOf.openness .left).trans (Option.some.inj given)
    · exact (frameOf.openness .right).trans (Option.some.inj given)
    · exact pupil.trans (same.symm.trans (Option.some.inj given))

theorem kExprParamNames_short : ∀ name ∈ kExprParamNames, name.length ≤ 20 := by
  decide +kernel

theorem address_fits (slot : Fin 63) :
    ¬(((Parameter.expression slot).address false).length + 1 > 64 ∨
      ((Parameter.expression slot).address true).length + 1 > 64) := by
  have known : slot.val < kExprParamNames.length := slot.isLt
  have short : (kExprParamNames.getD slot "").length ≤ 20 := by
    rw [List.getD_eq_getElem _ _ known]
    exact kExprParamNames_short _ (List.getElem_mem known)
  have legacy : "/avatar/parameters/".length = 19 := by decide
  have second : "/avatar/parameters/v2/".length = 22 := by decide
  simp only [Parameter.address, Parameter.name, String.length_append, if_true, Bool.false_eq_true,
    if_false, legacy, second]
  omega

theorem shapeOf_eq_some (shape : Fin 88) (slot : Fin 63) :
    shapeOf slot = some shape ↔ slotOf shape = some slot := by
  constructor
  · intro found
    have mapped := List.find?_some found
    exact of_decide_eq_true mapped
  · intro mapped
    cases found : shapeOf slot with
    | none =>
      have apart := List.find?_eq_none.mp found shape (List.mem_finRange shape)
      exact absurd (decide_eq_true mapped) apart
    | some other =>
      have alike := List.find?_some found
      rw [slotOf_injective (of_decide_eq_true alike) mapped]

omit [FloatNumber Number] [DecidableEq Number] in
/-- Every message of the expressions carries the value of its slot. -/
theorem publishExpressions_slot {frame : FrameBody Number 63} {message : Message Number}
    (sent : message ∈ publishExpressions frame) :
    ∃ slot, message.value = frame.expressions slot ∧
      (message.parameter = .expression slot ∨ message.parameter = .upstreamAlias slot) := by
  have both : ∀ (parameter : Parameter) (value : Number), message ∈ emitBoth parameter value →
      message.value = value ∧ message.parameter = parameter := by
    intro parameter value emitted
    unfold emitBoth at emitted
    split at emitted
    · cases emitted
    · simp only [List.mem_cons, List.not_mem_nil, or_false] at emitted
      rcases emitted with rfl | rfl
      · exact ⟨rfl, rfl⟩
      · exact ⟨rfl, rfl⟩
  obtain ⟨slot, -, listed⟩ := List.mem_flatMap.mp sent
  refine ⟨slot, ?_⟩
  rcases List.mem_append.mp listed with own | aliased
  · obtain ⟨value, parameter⟩ := both _ _ own
    exact ⟨value, .inl parameter⟩
  · split at aliased
    · obtain ⟨value, parameter⟩ := both _ _ aliased
      exact ⟨value, .inr parameter⟩
    · cases aliased

omit [DecidableEq Number] in
theorem publishExpressions_carries (pupilOf : UpdateData Number → Number)
    {update : UpdateData Number} {eyeSuccess expressionSuccess : Bool} {frame : FrameBody Number 63}
    (frameOf : FrameOf update eyeSuccess expressionSuccess frame) :
    Carries pupilOf update (publishExpressions frame) ↔
      ∀ shape, (slotOf shape).isSome = true →
        ¬upstreamShapes update shape < ofRat 0 ∧ ¬ofRat 1 < upstreamShapes update shape := by
  refine ⟨fun carries shape isMapped => ?_, fun inside message sent value given => ?_⟩
  · obtain ⟨slot, mapped⟩ := Option.isSome_iff_exists.mp isMapped
    have sent : (⟨.expression slot, false, frame.expressions slot⟩ : Message Number) ∈
        publishExpressions frame := by
      refine List.mem_flatMap.mpr ⟨slot, List.mem_finRange slot, List.mem_append_left _ ?_⟩
      unfold emitBoth
      rw [if_neg (address_fits slot)]
      exact List.mem_cons_self
    have weight : frame.expressions slot = upstreamShapes update shape := by
      refine carries _ sent _ ?_
      simp only [expected, (shapeOf_eq_some shape slot).mpr mapped]
      rfl
    rw [frameOf.expressions shape slot mapped] at weight
    exact (clamp_eq_self _).mp weight
  · obtain ⟨slot, carried, named⟩ := publishExpressions_slot sent
    have weight : (shapeOf slot).map (upstreamShapes update) = some value := by
      rcases named with expression | aliased
      · rw [expression] at given
        exact given
      · rw [aliased] at given
        exact given
    obtain ⟨shape, found, rfl⟩ := Option.map_eq_some_iff.mp weight
    have mapped := (shapeOf_eq_some shape slot).mp found
    rw [carried, frameOf.expressions shape slot mapped]
    exact (clamp_eq_self _).mpr (inside shape (by rw [mapped]; rfl))

omit [DecidableEq Number] in
/-- A frame is published in two parts. -/
theorem publishFaceFrameOsc_carries (pupilOf : UpdateData Number → Number)
    (update : UpdateData Number) (frame : FrameBody Number 63) :
    Carries pupilOf update (publishFaceFrameOsc frame) ↔
      (frame.eyeValid = true → Carries pupilOf update (publishEye frame)) ∧
        (frame.expressionsValid = true → Carries pupilOf update (publishExpressions frame)) := by
  have part : ∀ (valid : Bool) (messages : List (Message Number)),
      Carries pupilOf update (if valid then messages else []) ↔
        (valid = true → Carries pupilOf update messages) := by
    intro valid messages
    cases valid with
    | true => exact ⟨fun carries _ => carries, fun carries => carries rfl⟩
    | false => exact ⟨fun _ => nofun, fun _ => nofun⟩
  unfold publishFaceFrameOsc
  rw [← part, ← part]
  exact List.forall_mem_append

/-- The parameters published for an update carry what the module delivered if and only if its gaze
and its pupils are what a new sink holds, where eyes are published, and the weights lie between
zero and one, where expressions are. -/
theorem published_carries_iff (pupilOf : UpdateData Number → Number)
    (earlier : List (UpdateData Number)) (update : UpdateData Number)
    (eyeSuccess expressionSuccess : Bool) (moduleUuidHash : UInt64)
    (delivered : Delivered kInvalid update) :
    Carries pupilOf update
        (publishedFor kInvalid earlier update eyeSuccess expressionSuccess moduleUuidHash) ↔
      PassesThrough pupilOf update eyeSuccess expressionSuccess := by
  have frameOf := frameOf_translated kInvalid delivered earlier eyeSuccess expressionSuccess
    moduleUuidHash
  unfold publishedFor
  rw [publishFaceFrameOsc_carries, frameOf.eyeValid, frameOf.expressionsValid,
    publishEye_carries pupilOf frameOf, publishExpressions_carries pupilOf frameOf]
  constructor
  · intro ⟨eyes, expressions⟩
    exact ⟨fun on => (eyes on).1, fun on => (eyes on).2, expressions⟩
  · intro passes
    exact ⟨fun on => ⟨passes.gaze on, passes.pupil on⟩, passes.weights⟩

end Delivered

/-! ### A gaze to the left -/

/-- Exact arithmetic, in which everything is finite. -/
instance : FloatNumber Rat where
  isFinite _ := true
  lt_irrefl := lt_irrefl

/-- Both eyes open, with a gaze to the side and some width of the pupils, and a jaw half open. -/
def looking (gaze diameter : Rat) : UpdateData Rat where
  maxDilation := 6
  minDilation := 2
  eye := fun _ => ⟨gaze, 0, diameter, 1⟩
  shapes := fun index => if index = 22 then 1 / 2 else 0

def invalidFloat : Rat := 4294967296

/-- The mean of the two pupils, as parts of the range the module reports. -/
def dilation (update : UpdateData Rat) : Rat :=
  ((update.eye .left).pupilDiameter + (update.eye .right).pupilDiameter - 2 * update.minDilation) /
    (2 * (update.maxDilation - update.minDilation))

theorem looking_delivered {gaze diameter : Rat} (gazeValid : gaze ≠ invalidFloat)
    (diameterValid : diameter ≠ invalidFloat) : Delivered invalidFloat (looking gaze diameter) := by
  have one : (1 : Rat) ≠ invalidFloat := by decide +kernel
  have zero : (0 : Rat) ≠ invalidFloat := by decide +kernel
  refine ⟨fun side => ⟨rfl, one⟩, fun side => ⟨⟨rfl, gazeValid⟩, rfl, zero⟩,
    fun side => ⟨rfl, diameterValid⟩, fun index => ⟨rfl, ?_⟩⟩
  simp only [looking]
  split
  · decide +kernel
  · exact zero

/-- A module that looks straight ahead with the pupils as narrow as they get is passed on. -/
theorem published_carries_ahead :
    Carries dilation (looking 0 2) (publishedFor invalidFloat [] (looking 0 2) true true 7) := by
  have delivered : Delivered invalidFloat (looking 0 2) :=
    looking_delivered (by decide +kernel) (by decide +kernel)
  refine (published_carries_iff invalidFloat dilation [] (looking 0 2) true true 7 delivered).mpr
    ⟨fun _ side => ⟨rfl, rfl⟩, fun _ => ?_, fun _ shape _ => ?_⟩
  · decide +kernel
  · revert shape
    decide +kernel

/-- A gaze to the side is lost, whatever the pupils are to carry: the parameters say straight
ahead. -/
theorem gaze_is_lost :
    Delivered invalidFloat (looking (1 / 2) 3) ∧
      (⟨.eyeX .left, false, 0⟩ : Message Rat) ∈
        publishedFor invalidFloat [] (looking (1 / 2) 3) true true 7 ∧
      ∀ pupilOf, ¬Carries pupilOf (looking (1 / 2) 3)
        (publishedFor invalidFloat [] (looking (1 / 2) 3) true true 7) := by
  have delivered : Delivered invalidFloat (looking (1 / 2) 3) :=
    looking_delivered (by decide +kernel) (by decide +kernel)
  have sent : (⟨.eyeX .left, false, 0⟩ : Message Rat) ∈
      publishedFor invalidFloat [] (looking (1 / 2) 3) true true 7 := by
    have frameOf := frameOf_translated invalidFloat delivered [] true true 7
    unfold publishedFor publishFaceFrameOsc
    rw [if_pos frameOf.eyeValid]
    have first := eyeX_sent (translateWireBody (publishAsync
      (EyeFrameSink.afterUpdates invalidFloat ([] ++ [looking (1 / 2) 3]))
      (upstreamShapes (looking (1 / 2) 3)) true true 7)) .left
    rw [frameOf.gaze .left 0] at first
    exact List.mem_append_left _ first
  refine ⟨delivered, sent, fun pupilOf carries => ?_⟩
  have lost : (0 : Rat) = 1 / 2 := carries _ sent _ rfl
  exact absurd lost (by decide +kernel)

end PairDriver.FaceParameters
