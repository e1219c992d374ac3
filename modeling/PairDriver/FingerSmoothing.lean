/-
This file models the finger smoothing of the skeletal hook. The buffer a frame is
blended with is kept for each hand, while a driver sends two streams for each hand,
one for each motion range.

A stream on its own is a small filter over its own frames. The hook simulates it as
long as no frame of the stream is blended after one of the other motion range has
been written into the buffer of the hand.
-/

import PairDriver.FaceCalibration

namespace PairDriver.Skeletal

open FaceCalibration (Arithmetic)
open FaceCalibration.Arithmetic (ofRat sqrt)

/-! ### Blending bones -/

/-- The further operations on floats that `SlerpQuat` uses. -/
class Trigonometry (Number : Type) extends Arithmetic Number, Neg Number where
  sin : Number → Number
  cos : Number → Number
  acos : Number → Number

open Trigonometry (sin cos acos)

structure Quaternion (Number : Type) where
  w : Number
  x : Number
  y : Number
  z : Number
deriving DecidableEq

/-- `VRBoneTransform_t`. -/
structure BoneTransform (Number : Type) where
  position : Fin 4 → Number
  orientation : Quaternion Number
deriving DecidableEq

/-- The transforms of the 31 bones of a hand. -/
abbrev Bones (Number : Type) := Fin 31 → BoneTransform Number

section Blend

variable {Number : Type} [Trigonometry Number]

def lerpf (a b t : Number) : Number :=
  a + (b - a) * t

def slerpQuat (a b : Quaternion Number) (t : Number) : Quaternion Number :=
  let raw := a.x * b.x + a.y * b.y + a.z * b.z + a.w * b.w
  let (b, dot) : Quaternion Number × Number :=
    if raw < ofRat 0 then (⟨-b.w, -b.x, -b.y, -b.z⟩, -raw) else (b, raw)
  if ofRat (9995 / 10000) < dot then
    let r : Quaternion Number :=
      ⟨lerpf a.w b.w t, lerpf a.x b.x t, lerpf a.y b.y t, lerpf a.z b.z t⟩
    let len := sqrt (r.w * r.w + r.x * r.x + r.y * r.y + r.z * r.z)
    if ofRat 0 < len then
      let inv := ofRat 1 / len
      ⟨r.w * inv, r.x * inv, r.y * inv, r.z * inv⟩
    else r
  else
    let theta0 := acos dot
    let sinTheta0 := sin theta0
    let theta := theta0 * t
    let sinTheta := sin theta
    let s1 := cos theta - dot * sinTheta / sinTheta0
    let s2 := sinTheta / sinTheta0
    ⟨s1 * a.w + s2 * b.w, s1 * a.x + s2 * b.x, s1 * a.y + s2 * b.y, s1 * a.z + s2 * b.z⟩

/-- The finger of a bone, from thumb to pinky; none for the root, the wrist and the markers. -/
def fingerIndexForBone (bone : Nat) : Option (Fin 5) :=
  if 2 ≤ bone ∧ bone ≤ 5 then some 0
  else if 6 ≤ bone ∧ bone ≤ 10 then some 1
  else if 11 ≤ bone ∧ bone ≤ 15 then some 2
  else if 16 ≤ bone ∧ bone ≤ 20 then some 3
  else if 21 ≤ bone ∧ bone ≤ 25 then some 4
  else none

def smoothnessToAlpha (smoothness : UInt8) : Number :=
  let s : Number := ofRat smoothness.toNat
  let s := if s < ofRat 0 then ofRat 0 else s
  let s := if ofRat 100 < s then ofRat 100 else s
  ofRat 1 - s / ofRat 100 * ofRat (95 / 100)

inductive Hand where
  | left
  | right
deriving DecidableEq

/-- The place of a finger among the ten of both hands. -/
def Hand.finger : Hand → Fin 5 → Fin 10
  | .left, finger => finger.castAdd 5
  | .right, finger => finger.natAdd 5

/-- The part of `FingerSmoothingConfig` that the hook reads; it never asks for the master
switch. -/
structure FingerSmoothingConfig where
  smoothness : UInt8
  fingerMask : UInt16
  perFingerSmoothness : Fin 10 → UInt8

/-- The smoothness of a finger, which is the global one where it has none of its own. -/
def FingerSmoothingConfig.effective (cfg : FingerSmoothingConfig) (hand : Hand) (finger : Fin 5) :
    UInt8 :=
  let own := cfg.perFingerSmoothness (hand.finger finger)
  if own = 0 then cfg.smoothness else own

def FingerSmoothingConfig.anySmoothing (cfg : FingerSmoothingConfig) (hand : Hand) : Bool :=
  decide (∃ finger, cfg.effective hand finger ≠ 0)

def FingerSmoothingConfig.inMask (cfg : FingerSmoothingConfig) (hand : Hand) (finger : Fin 5) :
    Bool :=
  cfg.fingerMask.toNat.testBit (hand.finger finger)

/-- One bone of the blend of a frame with the previous one. -/
def blendBone (cfg : FingerSmoothingConfig) (hand : Hand) (bone : Nat)
    (previous incoming : BoneTransform Number) : BoneTransform Number :=
  match fingerIndexForBone bone with
  | none => incoming
  | some finger =>
    let alpha : Number := smoothnessToAlpha (cfg.effective hand finger)
    if cfg.inMask hand finger = false ∨ ofRat 1 ≤ alpha then incoming
    else
      { position := ![lerpf (previous.position 0) (incoming.position 0) alpha,
          lerpf (previous.position 1) (incoming.position 1) alpha,
          lerpf (previous.position 2) (incoming.position 2) alpha, incoming.position 3]
        orientation := slerpQuat previous.orientation incoming.orientation alpha }

def blendBones (cfg : FingerSmoothingConfig) (hand : Hand) (previous incoming : Bones Number) :
    Bones Number :=
  fun bone => blendBone cfg hand bone (previous bone) (incoming bone)

end Blend

/-! ### The hook -/

inductive MotionRange where
  | withController
  | withoutController
deriving DecidableEq

/-- The transforms of a call: those of a hand, or anything else, which the hook only forwards. -/
inductive Transforms (Number : Type) where
  | null (count : Nat)
  | hand (bones : Bones Number)
  | other (bones : List (BoneTransform Number)) (count : bones.length ≠ 31)

/-- A call of `UpdateSkeletonComponent`. -/
structure Call (Number : Type) where
  component : UInt64
  motionRange : MotionRange
  transforms : Transforms Number

/-- The buffer of a hand: the frame that was written out last. -/
structure HandState (Number : Type) where
  initialized : Bool
  previous : Bones Number

/-- The state of the subsystem: the driver pointer, the learned handles and the buffers. -/
structure Subsystem (Number : Type) where
  driver : Bool
  handleToHandedness : UInt64 → Option Hand
  handState : Hand → HandState Number

/-- The hand of a skeleton path. -/
def handOfPath (path : String) : Option Hand :=
  if "/left".toList <:+: path.toList then some .left
  else if "/right".toList <:+: path.toList then some .right
  else none

/-- What happens to the subsystem. A component that was created has a valid handle and a path; a
call comes with the configuration it reads. -/
inductive Event (Number : Type) where
  | init
  | shutdown
  | createSkeleton (created : Option (UInt64 × String))
  | updateSkeleton (cfg : FingerSmoothingConfig) (call : Call Number)

section Hook

variable {Number : Type} [Trigonometry Number]

/-- The blend of a frame into the buffer of a hand; the first frame only fills the buffer. -/
def HandState.blend (cfg : FingerSmoothingConfig) (hand : Hand) (bones : Bones Number)
    (state : HandState Number) : Bones Number × HandState Number :=
  if state.initialized then
    let smoothed := blendBones cfg hand state.previous bones
    (smoothed, { state with previous := smoothed })
  else (bones, { initialized := true, previous := bones })

def HandState.uninitialized (state : HandState Number) : HandState Number :=
  { state with initialized := false }

/-- `Init`, which also zeroes the buffers. -/
def Subsystem.init (subsystem : Subsystem Number) : Subsystem Number where
  driver := true
  handleToHandedness := fun _ => none
  handState := fun hand =>
    { (subsystem.handState hand).uninitialized with
      previous := fun _ => ⟨fun _ => ofRat 0, ⟨ofRat 0, ofRat 0, ofRat 0, ofRat 0⟩⟩ }

/-- `Shutdown`, which keeps the driver pointer. -/
def Subsystem.shutdown (subsystem : Subsystem Number) : Subsystem Number where
  driver := subsystem.driver
  handleToHandedness := fun _ => none
  handState := fun hand => (subsystem.handState hand).uninitialized

/-- `DetourPublicCreateSkeletonComponent`. -/
def createSkeleton (subsystem : Subsystem Number) : Option (UInt64 × String) → Subsystem Number
  | none => subsystem
  | some (handle, path) =>
    match handOfPath path with
    | none => subsystem
    | some hand =>
      { subsystem with
        handleToHandedness := Function.update subsystem.handleToHandedness handle (some hand)
        handState := Function.update subsystem.handState hand
          (subsystem.handState hand).uninitialized }

/-- The bones and the hand of a call that is blended; none for a call that is forwarded as it is. -/
def blended (subsystem : Subsystem Number) (cfg : FingerSmoothingConfig) (call : Call Number) :
    Option (Hand × Bones Number) :=
  match subsystem.driver, call.transforms, subsystem.handleToHandedness call.component with
  | true, .hand bones, some hand => if cfg.anySmoothing hand then some (hand, bones) else none
  | _, _, _ => none

/-- `DetourPublicUpdateSkeletonComponent`: the subsystem after the call, and the call that is
forwarded. -/
def updateSkeleton (subsystem : Subsystem Number) (cfg : FingerSmoothingConfig)
    (call : Call Number) : Subsystem Number × Call Number :=
  match blended subsystem cfg call with
  | none => (subsystem, call)
  | some (hand, bones) =>
    let (smoothed, state) := (subsystem.handState hand).blend cfg hand bones
    ({ subsystem with handState := Function.update subsystem.handState hand state },
      { call with transforms := .hand smoothed })

def step (subsystem : Subsystem Number) : Event Number → Subsystem Number
  | .init => subsystem.init
  | .shutdown => subsystem.shutdown
  | .createSkeleton created => createSkeleton subsystem created
  | .updateSkeleton cfg call => (updateSkeleton subsystem cfg call).1

end Hook

/-! ### Streams -/

structure Stream where
  hand : Hand
  motionRange : MotionRange
deriving DecidableEq

def MotionRange.other : MotionRange → MotionRange
  | .withController => .withoutController
  | .withoutController => .withController

/-- The stream of the same hand with the other motion range. -/
def Stream.sibling (stream : Stream) : Stream :=
  { stream with motionRange := stream.motionRange.other }

/-- What a stream on its own sees: that its hand starts over, and its calls. -/
inductive StreamInput (Number : Type) where
  | reseed
  | call (driver : Bool) (cfg : FingerSmoothingConfig) (call : Call Number)

section Streams

variable {Number : Type} [Trigonometry Number]

/-- A call belongs to a stream by the hand its component has been learned for. -/
def Stream.Takes (stream : Stream) (subsystem : Subsystem Number) (call : Call Number) : Prop :=
  subsystem.handleToHandedness call.component = some stream.hand ∧
    call.motionRange = stream.motionRange

instance (stream : Stream) (subsystem : Subsystem Number) (call : Call Number) :
    Decidable (stream.Takes subsystem call) :=
  inferInstanceAs (Decidable (_ ∧ _))

/-- An event makes a hand start over with its next frame. -/
def Event.Reseeds (hand : Hand) : Event Number → Prop
  | .init => True
  | .shutdown => True
  | .createSkeleton created => (created.bind fun component => handOfPath component.2) = some hand
  | .updateSkeleton _ _ => False

instance (hand : Hand) (event : Event Number) : Decidable (event.Reseeds hand) :=
  match event with
  | .init => isTrue trivial
  | .shutdown => isTrue trivial
  | .createSkeleton _ => inferInstanceAs (Decidable (_ = _))
  | .updateSkeleton _ _ => isFalse id

/-- The calls of a stream that are forwarded in a run. -/
def forwardedFor (stream : Stream) : Subsystem Number → List (Event Number) → List (Call Number)
  | _, [] => []
  | subsystem, event :: rest =>
    let later := forwardedFor stream (step subsystem event) rest
    match event with
    | .updateSkeleton cfg call =>
      if stream.Takes subsystem call then (updateSkeleton subsystem cfg call).2 :: later else later
    | _ => later

/-- What a stream sees of a run. -/
def inputsFor (stream : Stream) :
    Subsystem Number → List (Event Number) → List (StreamInput Number)
  | _, [] => []
  | subsystem, event :: rest =>
    let later := inputsFor stream (step subsystem event) rest
    match event with
    | .updateSkeleton cfg call =>
      if stream.Takes subsystem call then .call subsystem.driver cfg call :: later else later
    | event => if event.Reseeds stream.hand then .reseed :: later else later

/-- A call of a stream on its own: the frame written out last, and the call that is forwarded. -/
def filterCall (hand : Hand) (last : Option (Bones Number)) (driver : Bool)
    (cfg : FingerSmoothingConfig) (call : Call Number) : Option (Bones Number) × Call Number :=
  match driver, call.transforms with
  | true, .hand bones =>
    if cfg.anySmoothing hand then
      let smoothed := last.elim bones fun previous => blendBones cfg hand previous bones
      (some smoothed, { call with transforms := .hand smoothed })
    else (last, call)
  | _, _ => (last, call)

/-- The calls a stream on its own forwards. -/
def filterRun (hand : Hand) : Option (Bones Number) → List (StreamInput Number) →
    List (Call Number)
  | _, [] => []
  | _, .reseed :: rest => filterRun hand none rest
  | last, .call driver cfg call :: rest =>
    let (after, forwarded) := filterCall hand last driver cfg call
    forwarded :: filterRun hand after rest

/-! ### Unmixed runs -/

/-- A call of a stream is blended, and so written into the buffer of the hand. -/
def Stream.Blends (stream : Stream) (subsystem : Subsystem Number) : Event Number → Prop
  | .updateSkeleton cfg call =>
    stream.Takes subsystem call ∧ (blended subsystem cfg call).isSome = true
  | _ => False

instance (stream : Stream) (subsystem : Subsystem Number) (event : Event Number) :
    Decidable (stream.Blends subsystem event) :=
  match event with
  | .init => isFalse id
  | .shutdown => isFalse id
  | .createSkeleton _ => isFalse id
  | .updateSkeleton _ _ => inferInstanceAs (Decidable (_ ∧ _))

/-- The other motion range has written into the buffer of the hand since it last started over. -/
def Stream.mixedAfter (stream : Stream) (mixed : Bool) (subsystem : Subsystem Number)
    (event : Event Number) : Bool :=
  if event.Reseeds stream.hand then false
  else mixed || decide (stream.sibling.Blends subsystem event)

/-- A run that never blends a frame of the stream with a buffer the other motion range has
written into. -/
def Stream.Unmixed (stream : Stream) : Bool → Subsystem Number → List (Event Number) → Prop
  | _, _, [] => True
  | mixed, subsystem, event :: rest =>
    (stream.Blends subsystem event → mixed = false) ∧
      stream.Unmixed (stream.mixedAfter mixed subsystem event) (step subsystem event) rest

instance decidableUnmixed (stream : Stream) : ∀ (mixed : Bool) (subsystem : Subsystem Number)
    (events : List (Event Number)), Decidable (stream.Unmixed mixed subsystem events)
  | _, _, [] => isTrue trivial
  | mixed, subsystem, event :: rest =>
    have := decidableUnmixed stream (stream.mixedAfter mixed subsystem event)
      (step subsystem event) rest
    inferInstanceAs (Decidable (_ ∧ _))

/-- The frame a buffer holds. -/
def HandState.last (state : HandState Number) : Option (Bones Number) :=
  if state.initialized then some state.previous else none

/-! ### One call -/

theorem blend_eq (cfg : FingerSmoothingConfig) (hand : Hand) (bones : Bones Number)
    (state : HandState Number) :
    let smoothed := state.last.elim bones fun previous => blendBones cfg hand previous bones
    (state.blend cfg hand bones).1 = smoothed ∧
      (state.blend cfg hand bones).2.last = some smoothed := by
  unfold HandState.blend HandState.last
  cases initialized : state.initialized with
  | true => exact ⟨rfl, rfl⟩
  | false => exact ⟨rfl, rfl⟩

omit [Trigonometry Number] in
/-- What is blended is a whole hand of a learned component, under a configuration that smooths it. -/
theorem blended_eq_some {subsystem : Subsystem Number} {cfg : FingerSmoothingConfig}
    {call : Call Number} {hand : Hand} {bones : Bones Number}
    (some_eq : blended subsystem cfg call = some (hand, bones)) :
    subsystem.driver = true ∧ call.transforms = .hand bones ∧
      subsystem.handleToHandedness call.component = some hand ∧ cfg.anySmoothing hand = true := by
  unfold blended at some_eq
  split at some_eq
  · rename_i found driver transforms handedness
    split at some_eq
    · rename_i smoothing
      obtain ⟨rfl, rfl⟩ := Prod.mk.inj (Option.some.inj some_eq)
      exact ⟨driver, transforms, handedness, smoothing⟩
    · cases some_eq
  · cases some_eq

/-- A call that is not blended is forwarded as it is by the stream alone too. -/
theorem filterCall_not_blended {subsystem : Subsystem Number} {cfg : FingerSmoothingConfig}
    {call : Call Number} {hand : Hand} (last : Option (Bones Number))
    (none_eq : blended subsystem cfg call = none)
    (handedness : subsystem.handleToHandedness call.component = some hand) :
    filterCall hand last subsystem.driver cfg call = (last, call) := by
  unfold blended at none_eq
  unfold filterCall
  split
  · rename_i bones driver transforms
    rw [driver, transforms, handedness] at none_eq
    split
    · rename_i smoothing
      have blends : some (hand, bones) = none := (if_pos smoothing).symm.trans none_eq
      cases blends
    · rfl
  · rfl

/-- A call of a stream does what the stream alone does, if the buffer holds its last frame. -/
theorem updateSkeleton_taken {stream : Stream} {subsystem : Subsystem Number}
    {cfg : FingerSmoothingConfig} {call : Call Number} (last : Option (Bones Number))
    (takes : stream.Takes subsystem call)
    (agrees : (blended subsystem cfg call).isSome = true →
      (subsystem.handState stream.hand).last = last) :
    (updateSkeleton subsystem cfg call).2 =
        (filterCall stream.hand last subsystem.driver cfg call).2 ∧
      ((subsystem.handState stream.hand).last = last →
        ((updateSkeleton subsystem cfg call).1.handState stream.hand).last =
          (filterCall stream.hand last subsystem.driver cfg call).1) := by
  cases found : blended subsystem cfg call with
  | none =>
    have kept : updateSkeleton subsystem cfg call = (subsystem, call) := by
      unfold updateSkeleton
      rw [found]
    rw [kept, filterCall_not_blended last found takes.1]
    exact ⟨rfl, id⟩
  | some target =>
    obtain ⟨hand, bones⟩ := target
    obtain ⟨driver, transforms, handedness, smoothing⟩ := blended_eq_some found
    obtain rfl : stream.hand = hand := Option.some.inj (takes.1.symm.trans handedness)
    rw [found] at agrees
    obtain ⟨frame, buffer⟩ := blend_eq cfg stream.hand bones (subsystem.handState stream.hand)
    rw [agrees rfl] at frame buffer
    unfold updateSkeleton filterCall
    rw [found, driver, transforms]
    simp only [smoothing, if_true, Function.update_self]
    exact ⟨by rw [frame], fun _ => buffer⟩

/-- A call of another hand, or one that is not blended, leaves the buffer of a hand alone. -/
theorem updateSkeleton_handState {subsystem : Subsystem Number} {cfg : FingerSmoothingConfig}
    {call : Call Number} {hand : Hand}
    (apart : ∀ bones, blended subsystem cfg call ≠ some (hand, bones)) :
    (updateSkeleton subsystem cfg call).1.handState hand = subsystem.handState hand := by
  unfold updateSkeleton
  cases found : blended subsystem cfg call with
  | none => rfl
  | some target =>
    obtain ⟨other, bones⟩ := target
    have different : hand ≠ other := fun same => apart bones (same ▸ found)
    exact Function.update_of_ne different _ _

/-! ### Runs -/

theorem step_reseeds {hand : Hand} {subsystem : Subsystem Number} {event : Event Number}
    (reseeds : event.Reseeds hand) : ((step subsystem event).handState hand).last = none := by
  cases event with
  | init => rfl
  | shutdown => rfl
  | updateSkeleton cfg call => exact reseeds.elim
  | createSkeleton created =>
    obtain ⟨⟨handle, path⟩, rfl, handed⟩ := Option.bind_eq_some_iff.mp reseeds
    have path_eq : handOfPath path = some hand := handed
    simp only [step, createSkeleton, path_eq, Function.update_self]
    rfl

omit [Trigonometry Number] in
theorem createSkeleton_handState {hand : Hand} (subsystem : Subsystem Number)
    (created : Option (UInt64 × String))
    (apart : ¬(Event.createSkeleton created : Event Number).Reseeds hand) :
    (createSkeleton subsystem created).handState hand = subsystem.handState hand := by
  cases created with
  | none => rfl
  | some component =>
    obtain ⟨handle, path⟩ := component
    have path_ne : handOfPath path ≠ some hand := apart
    simp only [createSkeleton]
    cases found : handOfPath path with
    | none => rfl
    | some other =>
      have different : hand ≠ other := fun same => path_ne (same ▸ found)
      exact Function.update_of_ne different _ _

omit [Trigonometry Number] in
/-- A blended call of the hand belongs to the stream or to its sibling. -/
theorem blended_sibling {stream : Stream} {subsystem : Subsystem Number}
    {cfg : FingerSmoothingConfig} {call : Call Number} {bones : Bones Number}
    (found : blended subsystem cfg call = some (stream.hand, bones))
    (apart : ¬stream.Takes subsystem call) :
    stream.sibling.Blends subsystem (.updateSkeleton cfg call) := by
  obtain ⟨-, -, handedness, -⟩ := blended_eq_some found
  have range : call.motionRange = stream.motionRange.other := by
    have different : call.motionRange ≠ stream.motionRange := fun same => apart ⟨handedness, same⟩
    revert different
    cases call.motionRange <;> cases stream.motionRange <;> decide
  exact ⟨⟨handedness, range⟩, by rw [found]; rfl⟩

omit [Trigonometry Number] in
theorem mixedAfter_eq_false {stream : Stream} {mixed : Bool} {subsystem : Subsystem Number}
    {event : Event Number} (goesOn : ¬event.Reseeds stream.hand)
    (unmixed : stream.mixedAfter mixed subsystem event = false) :
    mixed = false ∧ ¬stream.sibling.Blends subsystem event := by
  unfold Stream.mixedAfter at unmixed
  rw [if_neg goesOn, Bool.or_eq_false_iff, decide_eq_false_iff_not] at unmixed
  exact unmixed

/-- In an unmixed run a stream is forwarded as it would be on its own. -/
theorem forwardedFor_eq_filterRun (stream : Stream) (events : List (Event Number)) (mixed : Bool)
    (subsystem : Subsystem Number) (last : Option (Bones Number))
    (agrees : mixed = false → (subsystem.handState stream.hand).last = last)
    (unmixed : stream.Unmixed mixed subsystem events) :
    forwardedFor stream subsystem events =
      filterRun stream.hand last (inputsFor stream subsystem events) := by
  induction events generalizing mixed subsystem last with
  | nil => rfl
  | cons event rest inductionHypothesis =>
    obtain ⟨clean, later⟩ := unmixed
    cases event with
    | init => exact inductionHypothesis _ _ none (fun _ => step_reseeds trivial) later
    | shutdown => exact inductionHypothesis _ _ none (fun _ => step_reseeds trivial) later
    | createSkeleton created =>
      by_cases reseeds : (Event.createSkeleton created : Event Number).Reseeds stream.hand
      · simp only [forwardedFor, inputsFor, if_pos reseeds, filterRun]
        exact inductionHypothesis _ _ none (fun _ => step_reseeds reseeds) later
      · simp only [forwardedFor, inputsFor, if_neg reseeds]
        refine inductionHypothesis _ _ last (fun unmixed => ?_) later
        simp only [step]
        rw [createSkeleton_handState subsystem created reseeds,
          agrees (mixedAfter_eq_false reseeds unmixed).1]
    | updateSkeleton cfg call =>
      by_cases takes : stream.Takes subsystem call
      · obtain ⟨forwarded, buffer⟩ := updateSkeleton_taken last takes
          fun blends => agrees (clean ⟨takes, blends⟩)
        simp only [forwardedFor, inputsFor, if_pos takes, filterRun]
        rw [forwarded]
        refine congrArg (List.cons _) (inductionHypothesis _ _ _ (fun unmixed => ?_) later)
        exact buffer (agrees (mixedAfter_eq_false id unmixed).1)
      · simp only [forwardedFor, inputsFor, if_neg takes]
        refine inductionHypothesis _ _ last (fun unmixed => ?_) later
        obtain ⟨before, apart⟩ := mixedAfter_eq_false id unmixed
        simp only [step]
        rw [updateSkeleton_handState, agrees before]
        exact fun bones found => apart (blended_sibling found takes)

/-- Streams are isolated: in two unmixed runs in which a stream sees the same, the same frames are
forwarded for it, whatever else happens. -/
theorem finger_streams_isolated (stream : Stream) (start : Subsystem Number)
    (first second : List (Event Number)) (firstUnmixed : stream.Unmixed false start first)
    (secondUnmixed : stream.Unmixed false start second)
    (same : inputsFor stream start first = inputsFor stream start second) :
    forwardedFor stream start first = forwardedFor stream start second := by
  rw [forwardedFor_eq_filterRun stream first false start _ (fun _ => rfl) firstUnmixed,
    forwardedFor_eq_filterRun stream second false start _ (fun _ => rfl) secondUnmixed, same]

end Streams

/-! ### Two motion ranges of one hand -/

/-- Exact arithmetic; the trigonometry is that of an angle of zero. -/
instance : Trigonometry Rat where
  sin _ := 0
  cos _ := 1
  acos _ := 0

/-- All bones at one place, without rotation. -/
def bonesAt (place : Rat) : Bones Rat :=
  fun _ => ⟨![place, 0, 0, 1], ⟨1, 0, 0, 0⟩⟩

/-- A smoothness of forty for all fingers. -/
def smoothAll : FingerSmoothingConfig where
  smoothness := 40
  fingerMask := 0x03FF
  perFingerSmoothness := fun _ => 0

def smoothNone : FingerSmoothingConfig where
  smoothness := 0
  fingerMask := 0x03FF
  perFingerSmoothness := fun _ => 0

/-- A subsystem before `Init`. -/
def unloaded : Subsystem Rat where
  driver := false
  handleToHandedness := fun _ => none
  handState := fun _ => ⟨false, bonesAt 0⟩

/-- A subsystem that has learned the component of each hand. -/
def learned : List (Event Rat) :=
  [.init, .createSkeleton (some (1, "/skeleton/hand/left")),
    .createSkeleton (some (2, "/skeleton/hand/right"))]

def frame (component : UInt64) (motionRange : MotionRange) (place : Rat) : Call Rat :=
  ⟨component, motionRange, .hand (bonesAt place)⟩

def leftWithController : Stream := ⟨.left, .withController⟩

/-- Frames of the other hand, and unsmoothed ones of the other motion range, make no difference. -/
theorem finger_streams_isolated_otherHand :
    forwardedFor leftWithController unloaded (learned ++
        [.updateSkeleton smoothAll (frame 1 .withController 0),
          .updateSkeleton smoothAll (frame 2 .withController 7),
          .updateSkeleton smoothNone (frame 1 .withoutController 9),
          .updateSkeleton smoothAll (frame 1 .withController 1)]) =
      forwardedFor leftWithController unloaded (learned ++
        [.updateSkeleton smoothAll (frame 1 .withController 0),
          .updateSkeleton smoothAll (frame 1 .withController 1)]) :=
  finger_streams_isolated leftWithController unloaded _ _ (by decide +kernel) (by decide +kernel)
    rfl

/-- The place of the first index finger bone in the last frame that is forwarded. -/
def lastPlace (calls : List (Call Rat)) : Option Rat :=
  calls.getLast?.bind fun call =>
    match call.transforms with
    | .hand bones => some ((bones 6).position 0)
    | _ => none

/-- A frame of the other motion range in between pulls the next frame of the stream towards it. -/
theorem finger_streams_mix :
    inputsFor leftWithController unloaded (learned ++
        [.updateSkeleton smoothAll (frame 1 .withController 0),
          .updateSkeleton smoothAll (frame 1 .withoutController 9),
          .updateSkeleton smoothAll (frame 1 .withController 1)]) =
      inputsFor leftWithController unloaded (learned ++
        [.updateSkeleton smoothAll (frame 1 .withController 0),
          .updateSkeleton smoothAll (frame 1 .withController 1)]) ∧
    forwardedFor leftWithController unloaded (learned ++
        [.updateSkeleton smoothAll (frame 1 .withController 0),
          .updateSkeleton smoothAll (frame 1 .withoutController 9),
          .updateSkeleton smoothAll (frame 1 .withController 1)]) ≠
      forwardedFor leftWithController unloaded (learned ++
        [.updateSkeleton smoothAll (frame 1 .withController 0),
          .updateSkeleton smoothAll (frame 1 .withController 1)]) := by
  refine ⟨rfl, fun same => ?_⟩
  exact absurd (congrArg lastPlace same) (by decide +kernel)

end PairDriver.Skeletal
