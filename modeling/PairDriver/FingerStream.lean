/-
This file follows what the skeletal hook shows for one stream of frames, while the configuration
changes and skeletons are created: the two packed words the configuration travels in, the detour
that loads them, and the frame that was forwarded last.

A frame is to be blended with what was shown last, and not at all with the master switch off. The
detour never reads the switch, and its buffer is what it shows only as long as it blends: a frame
it passes through is shown without being kept. So a frame is right exactly if, for every bone that
is smoothed, the buffer has the position it is to be blended with.
-/

import PairDriver.FingerSmoothing
import PairDriver.Machine

namespace PairDriver.Skeletal

open FaceCalibration.Arithmetic (ofRat)

/-! ### The packed words -/

/-- The bytes of an atomic word. -/
abbrev Word := Fin 8 → UInt8

/-- `FingerSmoothingConfig` with its master switch. -/
structure PushedConfig extends FingerSmoothingConfig where
  masterEnabled : Bool

def packFingerHeader (cfg : PushedConfig) : Word :=
  ![if cfg.masterEnabled then 1 else 0, cfg.smoothness, (cfg.fingerMask &&& 0xFF).toUInt8,
    ((cfg.fingerMask >>> 8) &&& 0xFF).toUInt8, 0, cfg.perFingerSmoothness 8,
    cfg.perFingerSmoothness 9, 0]

def packFingerLow (cfg : PushedConfig) : Word :=
  fun finger => cfg.perFingerSmoothness (finger.castLE (by decide))

def unpackFingerSmoothing (header low : Word) : PushedConfig where
  masterEnabled := header 0 ≠ 0
  smoothness := header 1
  fingerMask := (header 2).toUInt16 ||| ((header 3).toUInt16 <<< 8)
  perFingerSmoothness := Fin.snoc (Fin.snoc low (header 5) : Fin 9 → UInt8) (header 6)

/-- The two bytes of the mask make the mask. -/
theorem fingerMask_bytes (mask : UInt16) :
    (mask &&& 0xFF).toUInt8.toUInt16 ||| (((mask >>> 8) &&& 0xFF).toUInt8.toUInt16 <<< 8) =
      mask := by
  have small : mask.toNat < 65536 := mask.toNat_lt
  have low : (mask &&& 0xFF).toUInt8.toUInt16.toNat = mask.toNat % 256 := by
    show (mask.toNat &&& (2 ^ 8 - 1)) % 256 = _
    rw [Nat.and_two_pow_sub_one_eq_mod, Nat.mod_mod]
  have high : (((mask >>> 8) &&& 0xFF).toUInt8.toUInt16 <<< 8).toNat =
      (mask.toNat / 256) <<< 8 := by
    show ((mask.toNat >>> 8 &&& (2 ^ 8 - 1)) % 256) <<< 8 % 65536 = _
    rw [Nat.and_two_pow_sub_one_eq_mod, Nat.shiftRight_eq_div_pow, Nat.shiftLeft_eq,
      Nat.shiftLeft_eq]
    omega
  refine UInt16.toNat_inj.mp ?_
  rw [UInt16.toNat_or, low, high, Nat.or_comm,
    ← Nat.shiftLeft_add_eq_or_of_lt (Nat.mod_lt _ (by decide)), Nat.shiftLeft_eq]
  exact Nat.div_add_mod' mask.toNat 256

/-- A configuration comes out of its words as it went in. -/
theorem unpackFingerSmoothing_pack (cfg : PushedConfig) :
    unpackFingerSmoothing (packFingerHeader cfg) (packFingerLow cfg) = cfg := by
  obtain ⟨⟨smoothness, fingerMask, perFingerSmoothness⟩, masterEnabled⟩ := cfg
  unfold unpackFingerSmoothing
  congr 1
  · congr 1
    · exact fingerMask_bytes fingerMask
    · funext finger
      refine Fin.lastCases ?_ (fun finger => Fin.lastCases ?_ (fun finger => ?_) finger) finger
      · exact Fin.snoc_last _ _
      · exact (Fin.snoc_castSucc _ _ _).trans (Fin.snoc_last _ _)
      · exact (Fin.snoc_castSucc _ _ _).trans (Fin.snoc_castSucc _ _ _)
  · cases masterEnabled with
    | true => rfl
    | false => rfl

/-! ### The stream -/

/-- A frame that was forwarded: the configuration the detour read, what was shown before, the frame
that came in and the one that went out. -/
structure ShownFrame where
  cfg : PushedConfig
  last : Option (Bones Rat)
  bones : Bones Rat
  out : Bones Rat

/-- The words, the header a call of the detour has loaded, and the subsystem. `shown` is the frame
that was forwarded last since the hand started over, and `frames` lists all; these are recorded for
the specification only. -/
structure HandStream where
  header : Word := fun _ => 0
  low : Word := fun _ => 0
  loaded : Option Word := none
  subsystem : Subsystem Rat
  shown : Option (Bones Rat) := none
  frames : List ShownFrame := []

/-- After `Init`. -/
def HandStream.start : HandStream where
  subsystem := unloaded.init

/-- `SetFingerSmoothingConfig` exchanges its two words one after the other, and a call of the detour
loads them one after the other. -/
inductive HandEvent where
  | exchangeHeader (cfg : PushedConfig)
  | exchangeLow (cfg : PushedConfig)
  | createSkeleton (created : Option (UInt64 × String))
  | load
  | frame (component : UInt64) (bones : Bones Rat)

def Transforms.handBones {Number : Type} : Transforms Number → Option (Bones Number)
  | .hand bones => some bones
  | .null _ | .other _ _ => none

/-- A frame of the stream, with the configuration it reads. -/
def HandStream.forward (stream : Stream) (state : HandStream) (cfg : PushedConfig)
    (component : UInt64) (bones : Bones Rat) : HandStream :=
  let updated := updateSkeleton state.subsystem cfg.toFingerSmoothingConfig
    ⟨component, stream.motionRange, .hand bones⟩
  let out := updated.2.transforms.handBones
  { state with
    loaded := none
    subsystem := updated.1
    shown := out
    frames := state.frames ++ (out.map fun out => ⟨cfg, state.shown, bones, out⟩).toList }

/-- The steps of the stream of a hand and a motion range; a new skeleton of the hand starts it
over. -/
def handStep (stream : Stream) (state : HandStream) : HandEvent → Option HandStream
  | .exchangeHeader cfg => some { state with header := packFingerHeader cfg }
  | .exchangeLow cfg => some { state with low := packFingerLow cfg }
  | .createSkeleton created =>
    some { state with
      subsystem := createSkeleton state.subsystem created
      shown := if (created.bind fun component => handOfPath component.2) = some stream.hand
        then none else state.shown }
  | .load => some { state with loaded := some state.header }
  | .frame component bones =>
    match state.loaded with
    | none => none
    | some header =>
      if state.subsystem.handleToHandedness component = some stream.hand then
        some (state.forward stream (unpackFingerSmoothing header state.low) component bones)
      else none

/-! ### What is to be shown -/

/-- The share of the frame in a bone that is smoothed; all of it for a bone outside of the mask, or
without strength. -/
def FingerSmoothingConfig.share (cfg : FingerSmoothingConfig) (hand : Hand) (bone : Fin 31) :
    Rat :=
  match fingerIndexForBone bone with
  | none => 1
  | some finger =>
    if cfg.inMask hand finger = false ∨ cfg.effective hand finger = 0 then 1
    else smoothnessToAlpha (cfg.effective hand finger)

/-- The share a bone is to have: also all of it for the first frame, and with the switch off. -/
def PushedConfig.alpha (cfg : PushedConfig) (hand : Hand) (first : Bool) (bone : Fin 31) : Rat :=
  if first = true ∨ cfg.masterEnabled = false then 1
  else cfg.toFingerSmoothingConfig.share hand bone

/-- Each position is blended of the frame and what was shown last, and lies between them. -/
def ShownFrame.Follows (hand : Hand) (frame : ShownFrame) : Prop :=
  ∀ (bone : Fin 31) (axis : Fin 3),
    let alpha := frame.cfg.alpha hand frame.last.isNone bone
    let input := (frame.bones bone).position axis.castSucc
    let last := (frame.last.getD frame.bones bone).position axis.castSucc
    let output := (frame.out bone).position axis.castSucc
    output = alpha * input + (1 - alpha) * last ∧ min input last ≤ output ∧ output ≤ max input last

instance (hand : Hand) (frame : ShownFrame) : Decidable (frame.Follows hand) :=
  inferInstanceAs (Decidable (∀ _ _, _ ∧ _ ∧ _))

/-- For every bone that is smoothed, the buffer has the position that was shown last; or, with the
switch off, the position of the frame. Without a buffer, or without a frame that was shown, it is
the position of the frame as well. -/
def BufferShown (cfg : PushedConfig) (hand : Hand) (buffer shown : Option (Bones Rat))
    (bones : Bones Rat) : Prop :=
  ∀ bone : Fin 31, cfg.toFingerSmoothingConfig.share hand bone ≠ 1 → ∀ axis : Fin 3,
    (buffer.getD bones bone).position axis.castSucc =
      ((if cfg.masterEnabled then shown else none).getD bones bone).position axis.castSucc

instance (cfg : PushedConfig) (hand : Hand) (buffer shown : Option (Bones Rat))
    (bones : Bones Rat) : Decidable (BufferShown cfg hand buffer shown bones) :=
  inferInstanceAs (Decidable (∀ _, _ → ∀ _, _))

/-- A frame is blended with what was shown last. -/
def BlendsShown (stream : Stream) (state : HandStream) : HandEvent → Prop
  | .frame _ bones => ∀ header ∈ state.loaded,
    BufferShown (unpackFingerSmoothing header state.low) stream.hand
      (state.subsystem.handState stream.hand).last state.shown bones
  | .exchangeHeader _ | .exchangeLow _ | .createSkeleton _ | .load => True

instance (stream : Stream) (state : HandStream) (event : HandEvent) :
    Decidable (BlendsShown stream state event) :=
  match state, event with
  | { loaded := some header, .. }, .frame _ _ =>
    decidable_of_iff (BufferShown (unpackFingerSmoothing header _) stream.hand _ _ _)
      ⟨fun shown _ same => Option.some.inj same ▸ shown, fun all => all header rfl⟩
  | { loaded := none, .. }, .frame _ _ => isTrue nofun
  | _, .exchangeHeader _ | _, .exchangeLow _ | _, .createSkeleton _ | _, .load => isTrue trivial

/-! ### Positions -/

theorem smoothnessToAlpha_eq (smoothness : UInt8) :
    (smoothnessToAlpha smoothness : Rat) =
      1 - min (smoothness.toNat : Rat) 100 / 100 * (95 / 100) := by
  unfold smoothnessToAlpha
  have nonneg : ¬(smoothness.toNat : Rat) < 0 := not_lt.mpr (Nat.cast_nonneg _)
  have clamped : (if (smoothness.toNat : Rat) < 0 then 0 else (smoothness.toNat : Rat)) =
      smoothness.toNat := if_neg nonneg
  show (1 : Rat) - (if (100 : Rat) < (if (smoothness.toNat : Rat) < 0 then 0 else
    (smoothness.toNat : Rat)) then 100 else (if (smoothness.toNat : Rat) < 0 then 0 else
      (smoothness.toNat : Rat))) / 100 * (95 / 100) = _
  rw [clamped, min_def]
  by_cases above : (100 : Rat) < smoothness.toNat
  · rw [if_pos above, if_neg (not_le.mpr above)]
  · rw [if_neg above, if_pos (not_lt.mp above)]

/-- The share is at least a twentieth, and all exactly without strength. -/
theorem smoothnessToAlpha_bounds (smoothness : UInt8) :
    0 ≤ (smoothnessToAlpha smoothness : Rat) ∧ (smoothnessToAlpha smoothness : Rat) ≤ 1 ∧
      ((ofRat 1 : Rat) ≤ smoothnessToAlpha smoothness ↔ smoothness = 0) := by
  have nonneg : (0 : Rat) ≤ smoothness.toNat := Nat.cast_nonneg _
  have least : (0 : Rat) ≤ min (smoothness.toNat : Rat) 100 := le_min nonneg (by norm_num)
  have most : min (smoothness.toNat : Rat) 100 ≤ 100 := min_le_right _ _
  rw [smoothnessToAlpha_eq, show (ofRat 1 : Rat) = 1 from rfl]
  refine ⟨by linarith, by linarith, ?_⟩
  constructor
  · intro whole
    have none : min (smoothness.toNat : Rat) 100 ≤ 0 := by linarith
    have zero : (smoothness.toNat : Rat) ≤ 0 := by
      rcases min_le_iff.mp none with small | absurdity
      · exact small
      · norm_num at absurdity
    have number : smoothness.toNat = 0 := by exact_mod_cast le_antisymm zero nonneg
    exact UInt8.toNat_inj.mp number
  · rintro rfl
    norm_num

section Positions

variable (cfg : FingerSmoothingConfig) (hand : Hand)

theorem share_bounds (bone : Fin 31) : 0 ≤ cfg.share hand bone ∧ cfg.share hand bone ≤ 1 := by
  unfold FingerSmoothingConfig.share
  split
  · exact ⟨zero_le_one, le_rfl⟩
  · rename_i finger _
    split
    · exact ⟨zero_le_one, le_rfl⟩
    · have bounds := smoothnessToAlpha_bounds (cfg.effective hand finger)
      exact ⟨bounds.1, bounds.2.1⟩

theorem lerpf_eq (a b t : Rat) : lerpf a b t = t * b + (1 - t) * a := by
  show a + (b - a) * t = _
  ring

/-- A position of a bone is blended by the share. -/
theorem position_blendBone (bone : Fin 31) (previous incoming : BoneTransform Rat) (axis : Fin 3) :
    (blendBone cfg hand bone previous incoming).position axis.castSucc =
      cfg.share hand bone * incoming.position axis.castSucc +
        (1 - cfg.share hand bone) * previous.position axis.castSucc := by
  unfold blendBone FingerSmoothingConfig.share
  cases fingerIndexForBone bone with
  | none =>
    dsimp only
    ring
  | some finger =>
    have whole := (smoothnessToAlpha_bounds (cfg.effective hand finger)).2.2
    dsimp only
    by_cases passes : cfg.inMask hand finger = false ∨ cfg.effective hand finger = 0
    · rw [if_pos passes, if_pos (passes.imp_right whole.mpr)]
      ring
    · rw [if_neg passes, if_neg fun other => passes (other.imp_right whole.mp), ← lerpf_eq]
      fin_cases axis
      · rfl
      · rfl
      · rfl

/-- Without any strength all bones are passed through. -/
theorem share_of_not_anySmoothing (off : cfg.anySmoothing hand = false) (bone : Fin 31) :
    cfg.share hand bone = 1 := by
  have none := not_exists.mp (of_decide_eq_false off)
  unfold FingerSmoothingConfig.share
  split
  · rfl
  · rename_i finger _
    exact if_pos (Or.inr (not_not.mp (none finger)))

end Positions

/-! ### A frame -/

section Frame

variable {stream : Stream} {state : HandStream} {cfg : PushedConfig} {component : UInt64}
variable {bones : Bones Rat}

/-- A frame is shown blended with the buffer, which it becomes if some finger is smoothed. -/
theorem forward_out (cfg : PushedConfig) (bones : Bones Rat)
    (driver : state.subsystem.driver = true)
    (handed : state.subsystem.handleToHandedness component = some stream.hand) :
    ∃ out, (state.forward stream cfg component bones).shown = some out ∧
      (state.forward stream cfg component bones).frames =
        state.frames ++ [⟨cfg, state.shown, bones, out⟩] ∧
      (cfg.anySmoothing stream.hand = true →
        ((state.forward stream cfg component bones).subsystem.handState stream.hand).last =
          some out) ∧
      ∀ (bone : Fin 31) (axis : Fin 3), (out bone).position axis.castSucc =
        cfg.share stream.hand bone * (bones bone).position axis.castSucc +
          (1 - cfg.share stream.hand bone) *
            ((state.subsystem.handState stream.hand).last.getD bones bone).position
              axis.castSucc := by
  let call : Call Rat := ⟨component, stream.motionRange, .hand bones⟩
  have takes : stream.Takes state.subsystem call := ⟨handed, rfl⟩
  have agrees : (blended state.subsystem cfg.toFingerSmoothingConfig call).isSome = true →
      (state.subsystem.handState stream.hand).last =
        (state.subsystem.handState stream.hand).last := fun _ => rfl
  obtain ⟨forwarded, kept⟩ := updateSkeleton_taken _ takes agrees
  have buffer := kept rfl
  unfold filterCall at forwarded buffer
  rw [driver] at forwarded buffer
  dsimp only [call] at forwarded buffer
  unfold HandStream.forward
  dsimp only
  cases smoothing : cfg.anySmoothing stream.hand with
  | false =>
    rw [smoothing, if_neg Bool.false_ne_true] at forwarded
    rw [forwarded]
    refine ⟨bones, rfl, rfl, nofun, fun bone axis => ?_⟩
    rw [share_of_not_anySmoothing _ _ smoothing]
    ring
  | true =>
    rw [smoothing, if_pos rfl] at forwarded buffer
    rw [forwarded]
    refine ⟨_, rfl, rfl, fun _ => buffer, fun bone axis => ?_⟩
    cases (state.subsystem.handState stream.hand).last with
    | none =>
      show (bones bone).position axis.castSucc = _ * _ + _ * (bones bone).position axis.castSucc
      ring
    | some previous => exact position_blendBone _ _ bone (previous bone) (bones bone) axis

/-- A value blended of two others by a share of one lies between them. -/
theorem blended_between {share input last : Rat} (bounds : 0 ≤ share ∧ share ≤ 1) :
    min input last ≤ share * input + (1 - share) * last ∧
      share * input + (1 - share) * last ≤ max input last := by
  obtain ⟨nonneg, most⟩ := bounds
  have rest : 0 ≤ 1 - share := sub_nonneg.mpr most
  have whole : ∀ value : Rat, share * value + (1 - share) * value = value := fun value => by ring
  constructor
  · rw [← whole (min input last)]
    exact add_le_add (mul_le_mul_of_nonneg_left (min_le_left _ _) nonneg)
      (mul_le_mul_of_nonneg_left (min_le_right _ _) rest)
  · rw [← whole (max input last)]
    exact add_le_add (mul_le_mul_of_nonneg_left (le_max_left _ _) nonneg)
      (mul_le_mul_of_nonneg_left (le_max_right _ _) rest)

/-- What a bone is to be blended of: without a frame that was shown, and with the switch off, the
frame itself. -/
theorem alpha_blend (hand : Hand) (bone : Fin 31) (axis : Fin 3) (last : Option (Bones Rat)) :
    cfg.alpha hand last.isNone bone * (bones bone).position axis.castSucc +
        (1 - cfg.alpha hand last.isNone bone) * (last.getD bones bone).position axis.castSucc =
      cfg.share hand bone * (bones bone).position axis.castSucc + (1 - cfg.share hand bone) *
        ((if cfg.masterEnabled then last else none).getD bones bone).position axis.castSucc := by
  unfold PushedConfig.alpha
  cases cfg.masterEnabled with
  | false =>
    rw [if_pos (Or.inr rfl), if_neg Bool.false_ne_true]
    show _ = _ * _ + _ * (bones bone).position axis.castSucc
    ring
  | true =>
    rw [if_pos rfl]
    cases last with
    | none =>
      rw [if_pos (Or.inl Option.isNone_none)]
      show _ = _ * _ + _ * (bones bone).position axis.castSucc
      ring
    | some shown => rw [if_neg (not_or.mpr ⟨nofun, nofun⟩)]

theorem alpha_bounds (hand : Hand) (first : Bool) (bone : Fin 31) :
    0 ≤ cfg.alpha hand first bone ∧ cfg.alpha hand first bone ≤ 1 := by
  unfold PushedConfig.alpha
  split
  · exact ⟨zero_le_one, le_rfl⟩
  · exact share_bounds _ _ _

/-- A frame that is blended with a buffer follows what was shown exactly under the condition. -/
theorem follows_iff {hand : Hand} {buffer : Option (Bones Rat)} (last : Option (Bones Rat))
    {out : Bones Rat}
    (blended : ∀ (bone : Fin 31) (axis : Fin 3), (out bone).position axis.castSucc =
      cfg.share hand bone * (bones bone).position axis.castSucc +
        (1 - cfg.share hand bone) * (buffer.getD bones bone).position axis.castSucc) :
    (ShownFrame.mk cfg last bones out).Follows hand ↔ BufferShown cfg hand buffer last bones := by
  constructor
  · intro follows bone smoothed axis
    have equal := (follows bone axis).1
    dsimp only at equal
    rw [blended, alpha_blend] at equal
    exact mul_left_cancel₀ (sub_ne_zero.mpr smoothed.symm) (add_left_cancel equal)
  · intro shown bone axis
    have equal : (out bone).position axis.castSucc =
        cfg.alpha hand last.isNone bone * (bones bone).position axis.castSucc +
          (1 - cfg.alpha hand last.isNone bone) *
            (last.getD bones bone).position axis.castSucc := by
      rw [blended, alpha_blend]
      by_cases passes : cfg.share hand bone = 1
      · rw [passes]
        ring
      · rw [shown bone passes axis]
    refine ⟨equal, ?_⟩
    dsimp only
    rw [equal]
    exact blended_between (alpha_bounds hand _ bone)

/-- A frame is one of a learned component, with the header that was loaded. -/
theorem handStep_frame {before after : HandStream}
    (stepped : handStep stream before (.frame component bones) = some after) :
    ∃ header, before.loaded = some header ∧
      before.subsystem.handleToHandedness component = some stream.hand ∧
      after = before.forward stream (unpackFingerSmoothing header before.low) component bones := by
  dsimp only [handStep] at stepped
  split at stepped
  · cases stepped
  · rename_i header loaded
    split at stepped
    · rename_i handed
      exact ⟨header, loaded, handed, (Option.some.inj stepped).symm⟩
    · cases stepped

end Frame

/-! ### Runs -/

/-- The frames forwarded so far follow what was shown. -/
def HandStream.Followed (stream : Stream) (state : HandStream) : Prop :=
  ∀ frame ∈ state.frames, frame.Follows stream.hand

instance (stream : Stream) (state : HandStream) : Decidable (state.Followed stream) :=
  inferInstanceAs (Decidable (∀ _ ∈ _, _))

/-- A step keeps the driver, and keeps the frames following exactly under the condition. -/
theorem handStep_spec {stream : Stream} {before after : HandStream} {event : HandEvent}
    (driver : before.subsystem.driver = true) (followed : before.Followed stream)
    (stepped : handStep stream before event = some after) :
    after.subsystem.driver = true ∧
      (after.Followed stream ↔ BlendsShown stream before event) := by
  cases event with
  | exchangeHeader cfg =>
    obtain rfl := Option.some.inj stepped
    exact ⟨driver, iff_of_true followed trivial⟩
  | exchangeLow cfg =>
    obtain rfl := Option.some.inj stepped
    exact ⟨driver, iff_of_true followed trivial⟩
  | createSkeleton created =>
    obtain rfl := Option.some.inj stepped
    refine ⟨?_, iff_of_true followed trivial⟩
    show (createSkeleton before.subsystem created).driver = true
    unfold createSkeleton
    split
    · exact driver
    · split
      · exact driver
      · exact driver
  | load =>
    obtain rfl := Option.some.inj stepped
    exact ⟨driver, iff_of_true followed trivial⟩
  | frame component bones =>
    obtain ⟨header, loaded, handed, rfl⟩ := handStep_frame stepped
    obtain ⟨out, _, frames, _, blended⟩ :=
      forward_out (unpackFingerSmoothing header before.low) bones driver handed
    have last := follows_iff before.shown blended
    refine ⟨?_, ?_⟩
    · show (updateSkeleton before.subsystem _ _).1.driver = true
      unfold updateSkeleton
      split
      · exact driver
      · exact driver
    · unfold HandStream.Followed BlendsShown
      rw [frames, loaded]
      constructor
      · intro all other same
        obtain rfl := Option.some.inj same
        exact last.mp (all _ (List.mem_append_right _ List.mem_cons_self))
      · intro shown frame member
        rcases List.mem_append.mp member with earlier | latest
        · exact followed frame earlier
        · rw [List.mem_singleton.mp latest]
          exact last.mpr (shown header rfl)

/-- Along every run whose frames are blended with what was shown last, every forwarded frame follows
what was shown before it; a frame that is not does not. -/
theorem frames_follow {stream : Stream} {state : HandStream}
    (reached : Reaches (handStep stream) (BlendsShown stream) .start state) :
    state.Followed stream ∧ ∀ event after, handStep stream state event = some after →
      (after.Followed stream ↔ BlendsShown stream state event) := by
  have kept : state.subsystem.driver = true ∧ state.Followed stream := by
    induction reached with
    | start => exact ⟨rfl, List.forall_mem_nil _⟩
    | next event _ blends stepped inductionHypothesis =>
      obtain ⟨driver, followed⟩ :=
        handStep_spec inductionHypothesis.1 inductionHypothesis.2 stepped
      exact ⟨driver, followed.mpr blends⟩
  exact ⟨kept.2, fun event after stepped => (handStep_spec kept.1 kept.2 stepped).2⟩

/-- A frame is read with the switch on, and some finger of the hand smoothed. -/
def StaysOn (stream : Stream) (state : HandStream) : HandEvent → Prop
  | .frame _ _ => ∀ header ∈ state.loaded,
    (unpackFingerSmoothing header state.low).masterEnabled = true ∧
      (unpackFingerSmoothing header state.low).anySmoothing stream.hand = true
  | .exchangeHeader _ | .exchangeLow _ | .createSkeleton _ | .load => True

instance (stream : Stream) (state : HandStream) (event : HandEvent) :
    Decidable (StaysOn stream state event) :=
  match state, event with
  | { loaded := some header, .. }, .frame _ _ =>
    decidable_of_iff ((unpackFingerSmoothing header _).masterEnabled = true ∧
        (unpackFingerSmoothing header _).anySmoothing stream.hand = true)
      ⟨fun smooths _ same => Option.some.inj same ▸ smooths, fun all => all header rfl⟩
  | { loaded := none, .. }, .frame _ _ => isTrue nofun
  | _, .exchangeHeader _ | _, .exchangeLow _ | _, .createSkeleton _ | _, .load => isTrue trivial

/-- The overlay pushes a configuration. -/
def pushed (cfg : FingerSmoothingConfig) (masterEnabled : Bool) : List HandEvent :=
  [.exchangeHeader ⟨cfg, masterEnabled⟩, .exchangeLow ⟨cfg, masterEnabled⟩]

/-- A frame of the left hand. -/
def framed (place : Rat) : List HandEvent :=
  [.load, .frame 1 (bonesAt place)]

/-- A smoothed hand, and its first frame. -/
def framedFirst : List HandEvent :=
  pushed smoothAll true ++ [.createSkeleton (some (1, "/skeleton/hand/left"))] ++ framed 0

theorem frames_follow_twice : ∃ state : HandStream,
    Reaches (handStep leftWithController) (BlendsShown leftWithController) .start state ∧
    state.shown.map (fun bones => (bones 6).position 0) = some (31 / 50) ∧
    state.Followed leftWithController := by
  obtain ⟨state, reached, shown⟩ : ∃ state : HandStream,
      Reaches (handStep leftWithController) (BlendsShown leftWithController) .start state ∧
      state.shown.map (fun bones => (bones 6).position 0) = some (31 / 50) :=
    reaches_evaluates (framedFirst ++ framed 1) (by decide +kernel)
  exact ⟨state, reached, shown, (frames_follow reached).1⟩

/-- The strength goes to zero for a frame at ten and back: the hand, which is shown at ten, jumps
back towards zero. And with the master switch off frames are smoothed as before. -/
theorem frame_jumps_back :
    (∃ state, run (handStep leftWithController) .start (framedFirst ++ pushed smoothNone true ++
        framed 10 ++ pushed smoothAll true ++ framed 10) = some state ∧
      state.shown.map (fun bones => (bones 6).position 0) = some (31 / 5) ∧
      ¬state.Followed leftWithController) ∧
    ∃ state, run (handStep leftWithController) .start (framedFirst ++ pushed smoothAll false ++
        framed 1) = some state ∧
      state.shown.map (fun bones => (bones 6).position 0) = some (31 / 50) ∧
      ¬state.Followed leftWithController :=
  ⟨run_evaluates (by decide +kernel), run_evaluates (by decide +kernel)⟩

end PairDriver.Skeletal
