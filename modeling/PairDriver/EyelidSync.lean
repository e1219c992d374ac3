/-
This file models the eyelid sync of the face tracking driver in exact arithmetic: the wink
detector with its dwell timer, the weighted target, the blend and the smoother, in the worker
loop that calls them while sync is enabled.

What is written is the smoother, which averages over time. It stays among the lids since sync
was switched on if what goes into it does: the blend of a frame, in which the confidences must
outweigh the constant in their divisor, and the value the smoother had when the first frame
after the switch was written. Nothing resets the smoother when sync is off.
-/

import PairDriver.FaceParameters
import PairDriver.Machine

namespace PairDriver.EyelidSync

open FaceParameters

/-! ### The filter -/

def kWinkThreshold : Rat := 0.45
def kWinkConfMin : Rat := 0.6
def kWinkDwellMs : Rat := 120.0
def kSmoothAlpha : Rat := 0.10

structure Filter where
  wink_start_qpc : UInt64 := 0
  wink_stable : Bool := false
  smooth : Side → Rat := fun _ => 0.5
  smooth_init : Bool := false

/-- One step of the smoother. -/
def smoothed (smooth value : Rat) : Rat := smooth + kSmoothAlpha * (value - smooth)

def clamp01 (value : Rat) : Rat :=
  let below := if value < 1 then value else 1
  if 0 < below then below else 0

section Apply

variable {count : Nat} (qpcFreq : Nat)

/-- The smoother starts from the lids of the first frame it sees. -/
def Filter.seed (filter : Filter) (frame : FrameBody Rat count) : Filter :=
  if filter.smooth_init then filter
  else { filter with smooth := frame.eyeOpenness, smooth_init := true }

/-- The asymmetry of a wink that both eyes report with confidence. -/
def asymmetric (frame : FrameBody Rat count) : Bool :=
  decide (kWinkThreshold < |frame.eyeOpenness .left - frame.eyeOpenness .right|) &&
    decide (kWinkConfMin < frame.eyeConfidence .left) &&
    decide (kWinkConfMin < frame.eyeConfidence .right)

def elapsedMs (start now : UInt64) : Rat := ((now - start).toNat : Rat) * 1000.0 / qpcFreq

/-- The dwell timer, and whether the frame is an intentional wink. -/
def Filter.detectWink (filter : Filter) (frame : FrameBody Rat count) (preserve_winks : Bool)
    (now : UInt64) : Filter × Bool :=
  if preserve_winks then
    if asymmetric frame then
      let filter :=
        if filter.wink_start_qpc = 0 then
          { filter with wink_start_qpc := now, wink_stable := false }
        else if !filter.wink_stable then
          if kWinkDwellMs ≤ elapsedMs qpcFreq filter.wink_start_qpc now then
            { filter with wink_stable := true }
          else filter
        else filter
      (filter, filter.wink_stable)
    else ({ filter with wink_start_qpc := 0, wink_stable := false }, false)
  else (filter, false)

/-- The confidence-weighted target. -/
def target (frame : FrameBody Rat count) : Rat :=
  (frame.eyeConfidence .left * frame.eyeOpenness .left +
      frame.eyeConfidence .right * frame.eyeOpenness .right) /
    (frame.eyeConfidence .left + frame.eyeConfidence .right + 1e-6)

def factor (strength : UInt8) : Rat := strength.toNat / 100.0

def blended (frame : FrameBody Rat count) (strength : UInt8) (side : Side) : Rat :=
  frame.eyeOpenness side + factor strength * (target frame - frame.eyeOpenness side)

/-- `EyelidSync::Apply`: the filter afterwards and the lids it writes into the frame. -/
def Filter.apply (filter : Filter) (frame : FrameBody Rat count) (strength : UInt8)
    (preserve_winks : Bool) (now : UInt64) : Filter × Option (Side → Rat) :=
  if !frame.eyeValid then (filter, none)
  else if strength = 0 then (filter, none)
  else
    let (filter, intentional_wink) :=
      (filter.seed frame).detectWink qpcFreq frame preserve_winks now
    if intentional_wink then
      let smooth := fun side => smoothed (filter.smooth side) (frame.eyeOpenness side)
      ({ filter with smooth := smooth }, none)
    else
      let smooth := fun side => smoothed (filter.smooth side) (blended frame strength side)
      ({ filter with smooth := smooth }, some fun side => clamp01 (smooth side))

end Apply

/-! ### The worker loop -/

instance decidableBothSides (property : Side → Prop) [DecidablePred property] :
    Decidable (∀ side, property side) :=
  decidable_of_iff (property .left ∧ property .right)
    ⟨fun both side => match side with
      | .left => both.1
      | .right => both.2, fun each => ⟨each .left, each .right⟩⟩

/-- A frame on its way through the filters, with the settings and the clock at that time. -/
structure Tick where
  enabled : Bool
  strength : UInt8
  preserveWinks : Bool
  frame : FrameBody Rat 63
  now : UInt64

/-- A frame that passed, and the lids that sync wrote into it. -/
structure Entry where
  tick : Tick
  written : Option (Side → Rat)

/-- The filter, and the frames that passed so far, the latest one first. -/
structure Worker where
  filter : Filter
  log : List Entry

def Worker.fresh : Worker := ⟨{}, []⟩

def step (qpcFreq : Nat) (worker : Worker) (tick : Tick) : Option Worker :=
  if tick.enabled then
    let (filter, written) :=
      worker.filter.apply qpcFreq tick.frame tick.strength tick.preserveWinks tick.now
    some ⟨filter, ⟨tick, written⟩ :: worker.log⟩
  else some ⟨worker.filter, ⟨tick, none⟩ :: worker.log⟩

/-! ### The lids since sync was switched on -/

/-- The frames since sync was last switched on. -/
def since (log : List Entry) : List Entry := log.takeWhile fun entry => entry.tick.enabled

/-- The lids of both eyes in some frames. -/
def lidsOf : List Entry → List Rat
  | [] => []
  | entry :: rest =>
    entry.tick.frame.eyeOpenness .left :: entry.tick.frame.eyeOpenness .right :: lidsOf rest

/-- The value is between the smallest and the largest of the lids, up to 0.01. -/
def Among (lids : List Rat) (value : Rat) : Prop :=
  (∃ low ∈ lids, low - 0.01 ≤ value) ∧ ∃ high ∈ lids, value ≤ high + 0.01

instance (lids : List Rat) (value : Rat) : Decidable (Among lids value) :=
  inferInstanceAs (Decidable (_ ∧ _))

/-- What sync wrote into the latest frame is among the lids since it was switched on. -/
def StaysAmong (log : List Entry) : Prop :=
  ∀ lids ∈ log.head?.bind Entry.written, ∀ side, Among (lidsOf (since log)) (lids side)

instance (log : List Entry) : Decidable (StaysAmong log) :=
  inferInstanceAs (Decidable (∀ lids ∈ log.head?.bind Entry.written, _))

/-- Sync has written into a frame since it was switched on. -/
def hasWritten (log : List Entry) : Bool :=
  (since log).any fun entry => entry.written.isSome

/-! ### Frames that sync treats with care -/

/-- Valid eyes, with lids and confidences from zero to one. -/
structure WellFormed (frame : FrameBody Rat 63) : Prop where
  valid : frame.eyeValid = true
  lids : ∀ side, 0 ≤ frame.eyeOpenness side ∧ frame.eyeOpenness side ≤ 1
  confidences : ∀ side, 0 ≤ frame.eyeConfidence side ∧ frame.eyeConfidence side ≤ 1

instance (frame : FrameBody Rat 63) : Decidable (WellFormed frame) :=
  decidable_of_iff (frame.eyeValid = true ∧
      (∀ side, 0 ≤ frame.eyeOpenness side ∧ frame.eyeOpenness side ≤ 1) ∧
      ∀ side, 0 ≤ frame.eyeConfidence side ∧ frame.eyeConfidence side ≤ 1)
    ⟨fun formed => ⟨formed.1, formed.2.1, formed.2.2⟩,
      fun formed => ⟨formed.valid, formed.lids, formed.confidences⟩⟩

/-- The weights of a frame and the constant in their divisor. -/
def divisor (frame : FrameBody Rat 63) : Rat :=
  frame.eyeConfidence .left + frame.eyeConfidence .right + 1e-6

/-- The lids of a frame times their weights. -/
def weighed (frame : FrameBody Rat 63) : Rat :=
  frame.eyeConfidence .left * frame.eyeOpenness .left +
    frame.eyeConfidence .right * frame.eyeOpenness .right

/-- At its strength the confidences of the frame outweigh the constant in their divisor. -/
def Outweighs (lids : List Rat) (frame : FrameBody Rat 63) (strength : UInt8) : Prop :=
  ∀ side,
    (∃ low ∈ lids, (low - 0.01) * divisor frame ≤
      (1 - factor strength) * frame.eyeOpenness side * divisor frame +
        factor strength * weighed frame) ∧
    ∃ high ∈ lids, (1 - factor strength) * frame.eyeOpenness side * divisor frame +
      factor strength * weighed frame ≤ (high + 0.01) * divisor frame

instance (lids : List Rat) (frame : FrameBody Rat 63) (strength : UInt8) :
    Decidable (Outweighs lids frame strength) :=
  inferInstanceAs (Decidable (∀ _, _ ∧ _))

/-- The frame is neither off, nor skipped at strength zero, nor an intentional wink. -/
def Engages (qpcFreq : Nat) (filter : Filter) (tick : Tick) : Prop :=
  tick.enabled = true ∧ tick.strength ≠ 0 ∧
    ((filter.seed tick.frame).detectWink qpcFreq tick.frame tick.preserveWinks tick.now).2 = false

instance (qpcFreq : Nat) (filter : Filter) (tick : Tick) :
    Decidable (Engages qpcFreq filter tick) :=
  inferInstanceAs (Decidable (_ ∧ _ ∧ _))

/-- The lids since sync was switched on, with those of the next frame. -/
def lidsWith (tick : Tick) (log : List Entry) : List Rat :=
  tick.frame.eyeOpenness .left :: tick.frame.eyeOpenness .right :: lidsOf (since log)

/-- If sync engages, the confidences outweigh the constant, and the smoother that the first
frame since the switch finds is new or among the lids. -/
structure Careful (qpcFreq : Nat) (worker : Worker) (tick : Tick) : Prop where
  outweighs : Engages qpcFreq worker.filter tick →
    Outweighs (lidsWith tick worker.log) tick.frame tick.strength
  carried : Engages qpcFreq worker.filter tick → hasWritten worker.log = false →
    worker.filter.smooth_init = true →
      ∀ side, Among (lidsWith tick worker.log) (worker.filter.smooth side)

instance (qpcFreq : Nat) (worker : Worker) (tick : Tick) :
    Decidable (Careful qpcFreq worker tick) :=
  decidable_of_iff
    ((Engages qpcFreq worker.filter tick →
        Outweighs (lidsWith tick worker.log) tick.frame tick.strength) ∧
      (Engages qpcFreq worker.filter tick → hasWritten worker.log = false →
        worker.filter.smooth_init = true →
          ∀ side, Among (lidsWith tick worker.log) (worker.filter.smooth side)))
    ⟨fun careful => ⟨careful.1, careful.2⟩, fun careful => ⟨careful.outweighs, careful.carried⟩⟩

/-! ### Averages -/

theorem Among.of_mem {lids : List Rat} {value : Rat} (member : value ∈ lids) :
    Among lids value := by
  refine ⟨⟨value, member, ?_⟩, value, member, ?_⟩
  · norm_num
  · norm_num

theorem Among.mono {lids more : List Rat} {value : Rat} (among : Among lids value)
    (subset : ∀ lid ∈ lids, lid ∈ more) : Among more value := by
  obtain ⟨⟨low, lowMem, lowLe⟩, high, highMem, highLe⟩ := among
  exact ⟨⟨low, subset low lowMem, lowLe⟩, high, subset high highMem, highLe⟩

/-- A step of the smoother from a value among the lids to another one stays among them. -/
theorem Among.smoothed {lids : List Rat} {smooth value : Rat} (before : Among lids smooth)
    (input : Among lids value) : Among lids (smoothed smooth value) := by
  obtain ⟨⟨low, lowMem, lowLe⟩, high, highMem, highLe⟩ := before
  obtain ⟨⟨low', lowMem', lowLe'⟩, high', highMem', highLe'⟩ := input
  unfold EyelidSync.smoothed kSmoothAlpha
  constructor
  · rcases le_total low low' with smaller | smaller
    · exact ⟨low, lowMem, by linarith⟩
    · exact ⟨low', lowMem', by linarith⟩
  · rcases le_total high high' with smaller | smaller
    · exact ⟨high', highMem', by linarith⟩
    · exact ⟨high, highMem, by linarith⟩

/-- Cutting a value to the range of the lids leaves it among them. -/
theorem Among.clamp01 {lids : List Rat} {value : Rat} (among : Among lids value)
    (bounds : ∀ lid ∈ lids, 0 ≤ lid ∧ lid ≤ 1) : Among lids (clamp01 value) := by
  obtain ⟨⟨low, lowMem, lowLe⟩, high, highMem, highLe⟩ := among
  have lowOne := (bounds low lowMem).2
  have highZero := (bounds high highMem).1
  unfold EyelidSync.clamp01
  refine ⟨⟨low, lowMem, ?_⟩, high, highMem, ?_⟩
  · dsimp only
    split_ifs <;> linarith
  · dsimp only
    split_ifs <;> linarith

theorem divisor_pos {frame : FrameBody Rat 63} (formed : WellFormed frame) :
    0 < divisor frame := by
  have left := (formed.confidences .left).1
  have right := (formed.confidences .right).1
  unfold divisor
  linarith

/-- The blend of a frame whose confidences outweigh the constant is among the lids. -/
theorem Outweighs.blended {lids : List Rat} {frame : FrameBody Rat 63} {strength : UInt8}
    (outweighs : Outweighs lids frame strength) (formed : WellFormed frame) (side : Side) :
    Among lids (EyelidSync.blended frame strength side) := by
  have positive := divisor_pos formed
  have scaled : EyelidSync.blended frame strength side * divisor frame =
      (1 - factor strength) * frame.eyeOpenness side * divisor frame +
        factor strength * weighed frame := by
    have quotient : target frame = weighed frame / divisor frame := rfl
    have product : target frame * divisor frame = weighed frame := by
      rw [quotient, div_mul_cancel₀ _ positive.ne']
    unfold EyelidSync.blended
    rw [← product]
    ring
  obtain ⟨⟨low, lowMem, lowLe⟩, high, highMem, highLe⟩ := outweighs side
  rw [← scaled] at lowLe highLe
  exact ⟨⟨low, lowMem, le_of_mul_le_mul_right lowLe positive⟩,
    high, highMem, le_of_mul_le_mul_right highLe positive⟩

/-! ### What a frame does to the filter -/

theorem detectWink_smooth (qpcFreq : Nat) (filter : Filter) (frame : FrameBody Rat 63)
    (preserve_winks : Bool) (now : UInt64) :
    (filter.detectWink qpcFreq frame preserve_winks now).1.smooth = filter.smooth ∧
      (filter.detectWink qpcFreq frame preserve_winks now).1.smooth_init =
        filter.smooth_init := by
  unfold Filter.detectWink
  dsimp only
  split_ifs <;> exact ⟨rfl, rfl⟩

theorem seed_init (filter : Filter) (frame : FrameBody Rat 63) :
    (filter.seed frame).smooth_init = true := by
  unfold Filter.seed
  split_ifs with seeded
  · exact seeded
  · rfl

theorem seed_smooth (filter : Filter) (frame : FrameBody Rat 63) :
    (filter.seed frame).smooth =
      if filter.smooth_init then filter.smooth else frame.eyeOpenness := by
  unfold Filter.seed
  split_ifs <;> rfl

/-- The three ways in which a frame passes the filter while sync is enabled. -/
theorem apply_cases (qpcFreq : Nat) (filter : Filter) {tick : Tick}
    (enabled : tick.enabled = true) (valid : tick.frame.eyeValid = true) :
    (tick.strength = 0 ∧ filter.apply qpcFreq tick.frame tick.strength tick.preserveWinks
        tick.now = (filter, none)) ∨
      (∃ filter' : Filter, filter.apply qpcFreq tick.frame tick.strength tick.preserveWinks
          tick.now = (filter', none) ∧ filter'.smooth_init = true ∧
        ∀ side, filter'.smooth side =
          smoothed ((filter.seed tick.frame).smooth side) (tick.frame.eyeOpenness side)) ∨
      (Engages qpcFreq filter tick ∧ ∃ filter' : Filter,
        filter.apply qpcFreq tick.frame tick.strength tick.preserveWinks tick.now =
          (filter', some fun side => clamp01 (filter'.smooth side)) ∧
        filter'.smooth_init = true ∧ ∀ side, filter'.smooth side =
          smoothed ((filter.seed tick.frame).smooth side)
            (blended tick.frame tick.strength side)) := by
  obtain ⟨smooth, init⟩ := detectWink_smooth qpcFreq (filter.seed tick.frame) tick.frame
    tick.preserveWinks tick.now
  unfold Filter.apply Engages
  rw [valid, if_neg (by decide)]
  by_cases zero : tick.strength = 0
  · rw [if_pos zero]
    exact Or.inl ⟨zero, rfl⟩
  · rw [if_neg zero]
    rcases detected : (filter.seed tick.frame).detectWink qpcFreq tick.frame tick.preserveWinks
      tick.now with ⟨filter', wink⟩
    rw [detected] at smooth init
    have seeded : filter'.smooth_init = true := init.trans (seed_init filter tick.frame)
    rw [← smooth]
    cases wink with
    | true => exact Or.inr (Or.inl ⟨_, rfl, seeded, fun side => rfl⟩)
    | false => exact Or.inr (Or.inr ⟨⟨enabled, zero, rfl⟩, _, rfl, seeded, fun side => rfl⟩)

/-! ### The invariant of the worker loop -/

/-- The lids since the switch are from zero to one, and once sync has written since then, the
smoother is among them. -/
structure Settled (worker : Worker) : Prop where
  bounds : ∀ lid ∈ lidsOf (since worker.log), 0 ≤ lid ∧ lid ≤ 1
  seeded : hasWritten worker.log = true → worker.filter.smooth_init = true
  among : hasWritten worker.log = true →
    ∀ side, Among (lidsOf (since worker.log)) (worker.filter.smooth side)

theorem since_enabled {tick : Tick} (enabled : tick.enabled = true)
    (written : Option (Side → Rat)) (log : List Entry) :
    since (⟨tick, written⟩ :: log) = ⟨tick, written⟩ :: since log :=
  List.takeWhile_cons_of_pos enabled

theorem since_disabled {tick : Tick} (disabled : tick.enabled = false)
    (written : Option (Side → Rat)) (log : List Entry) : since (⟨tick, written⟩ :: log) = [] :=
  List.takeWhile_cons_of_neg (by simp [disabled])

theorem lidsOf_enabled {tick : Tick} (enabled : tick.enabled = true)
    (written : Option (Side → Rat)) (log : List Entry) :
    lidsOf (since (⟨tick, written⟩ :: log)) = lidsWith tick log := by
  rw [since_enabled enabled]
  rfl

theorem hasWritten_enabled {tick : Tick} (enabled : tick.enabled = true)
    (written : Option (Side → Rat)) (log : List Entry) :
    hasWritten (⟨tick, written⟩ :: log) = (written.isSome || hasWritten log) := by
  unfold hasWritten
  rw [since_enabled enabled, List.any_cons]

theorem mem_lidsWith (tick : Tick) (log : List Entry) (side : Side) :
    tick.frame.eyeOpenness side ∈ lidsWith tick log := by
  cases side with
  | left => exact List.mem_cons_self
  | right => exact List.mem_cons_of_mem _ List.mem_cons_self

theorem lidsOf_subset (tick : Tick) (log : List Entry) :
    ∀ lid ∈ lidsOf (since log), lid ∈ lidsWith tick log :=
  fun _ member => List.mem_cons_of_mem _ (List.mem_cons_of_mem _ member)

theorem bounds_lidsWith {tick : Tick} {log : List Entry} (formed : WellFormed tick.frame)
    (bounds : ∀ lid ∈ lidsOf (since log), 0 ≤ lid ∧ lid ≤ 1) :
    ∀ lid ∈ lidsWith tick log, 0 ≤ lid ∧ lid ≤ 1 := by
  intro lid member
  rcases List.mem_cons.mp member with rfl | member
  · exact formed.lids .left
  · rcases List.mem_cons.mp member with rfl | member
    · exact formed.lids .right
    · exact bounds lid member

/-- The smoother before the step is among the lids, if sync has written before or engages. -/
theorem seed_among {qpcFreq : Nat} {worker : Worker} {tick : Tick} (settled : Settled worker)
    (careful : Careful qpcFreq worker tick)
    (acts : hasWritten worker.log = true ∨ Engages qpcFreq worker.filter tick) (side : Side) :
    Among (lidsWith tick worker.log) ((worker.filter.seed tick.frame).smooth side) := by
  rw [seed_smooth]
  split_ifs with seeded
  · cases wrote : hasWritten worker.log with
    | true => exact (settled.among wrote side).mono (lidsOf_subset tick worker.log)
    | false =>
      have engages := acts.resolve_left (by simp [wrote])
      exact careful.carried engages wrote seeded side
  · exact Among.of_mem (mem_lidsWith tick worker.log side)

theorem step_settled {qpcFreq : Nat} {worker after : Worker} {tick : Tick}
    (settled : Settled worker) (formed : WellFormed tick.frame)
    (careful : Careful qpcFreq worker tick) (stepped : step qpcFreq worker tick = some after) :
    Settled after ∧ StaysAmong after.log := by
  unfold step at stepped
  cases enabled : tick.enabled with
  | false =>
    rw [enabled, if_neg (by decide)] at stepped
    obtain rfl := Option.some.inj stepped
    have nothing := since_disabled enabled none worker.log
    refine ⟨⟨?_, ?_, ?_⟩, ?_⟩
    · rw [nothing]
      exact fun lid member => absurd member List.not_mem_nil
    · unfold hasWritten
      rw [nothing]
      exact fun wrote => absurd wrote (by decide)
    · unfold hasWritten
      rw [nothing]
      exact fun wrote => absurd wrote (by decide)
    · exact fun lids written => absurd written (by simp)
  | true =>
    rw [enabled, if_pos rfl] at stepped
    have bounds := bounds_lidsWith formed settled.bounds
    rcases apply_cases qpcFreq worker.filter enabled formed.valid with
      ⟨-, applied⟩ | ⟨filter', applied, init, moved⟩ | ⟨engages, filter', applied, init, moved⟩
    · rw [applied] at stepped
      obtain rfl := Option.some.inj stepped
      refine ⟨⟨?_, ?_, ?_⟩, fun lids written => absurd written (by simp)⟩
      · rw [lidsOf_enabled enabled]
        exact bounds
      · rw [hasWritten_enabled enabled]
        exact settled.seeded
      · rw [hasWritten_enabled enabled, lidsOf_enabled enabled]
        exact fun wrote side => (settled.among wrote side).mono (lidsOf_subset tick worker.log)
    · rw [applied] at stepped
      obtain rfl := Option.some.inj stepped
      refine ⟨⟨?_, fun _ => init, ?_⟩, fun lids written => absurd written (by simp)⟩
      · rw [lidsOf_enabled enabled]
        exact bounds
      · rw [hasWritten_enabled enabled, lidsOf_enabled enabled]
        intro wrote side
        rw [moved side]
        exact (seed_among settled careful (Or.inl wrote) side).smoothed
          (Among.of_mem (mem_lidsWith tick worker.log side))
    · rw [applied] at stepped
      obtain rfl := Option.some.inj stepped
      have among : ∀ side, Among (lidsWith tick worker.log) (filter'.smooth side) := by
        intro side
        rw [moved side]
        exact (seed_among settled careful (Or.inr engages) side).smoothed
          ((careful.outweighs engages).blended formed side)
      refine ⟨⟨?_, fun _ => init, ?_⟩, ?_⟩
      · rw [lidsOf_enabled enabled]
        exact bounds
      · rw [lidsOf_enabled enabled]
        exact fun _ => among
      · unfold StaysAmong
        rw [lidsOf_enabled enabled]
        intro lids written side
        obtain rfl := Option.some.inj written
        exact (among side).clamp01 bounds

theorem settled_fresh : Settled Worker.fresh where
  bounds := fun lid member => absurd member List.not_mem_nil
  seeded := fun wrote => absurd wrote (by decide)
  among := fun wrote => absurd wrote (by decide)

/-- In every run whose frames sync treats with care, what it writes is among the lids since it
was switched on. -/
theorem lids_stay_among (qpcFreq : Nat) {worker : Worker}
    (reached : Reaches (step qpcFreq)
      (fun before tick => WellFormed tick.frame ∧ Careful qpcFreq before tick)
      Worker.fresh worker) :
    StaysAmong worker.log := by
  have both : Settled worker ∧ StaysAmong worker.log := by
    refine @Reaches.invariant _ _ _ _ _ _ (fun worker => Settled worker ∧ StaysAmong worker.log)
      reached ⟨settled_fresh, fun lids written => absurd written (by simp [Worker.fresh])⟩ ?_
    intro before tick after holds allowed stepped
    exact step_settled holds.1 allowed.1 allowed.2 stepped
  exact both.2

/-! ### Doubted eyes, and sync switched on again -/

/-- Both eyes alike. -/
def eyes (openness confidence : Rat) : FrameBody Rat 63 where
  sourceModuleUuidHash := 0
  eyeOrigin := fun _ _ => 0
  eyeGaze := fun _ _ => 0
  eyeOpenness := fun _ => openness
  pupilDilation := fun _ => 0
  eyeConfidence := fun _ => confidence
  expressions := fun _ => 0
  eyeValid := true
  expressionsValid := false

/-- A frame at full strength. -/
def fullTick (enabled : Bool) (openness confidence : Rat) : Tick :=
  ⟨enabled, 100, true, eyes openness confidence, 1⟩

/-- Sync is switched off and on while the eyes stay open. -/
theorem lids_stay_among_switched : ∃ worker,
    (Reaches (step 10000000) (fun before tick =>
        WellFormed tick.frame ∧ Careful 10000000 before tick) Worker.fresh worker ∧
      hasWritten worker.log = true) ∧ StaysAmong worker.log := by
  obtain ⟨worker, reached, wrote⟩ : ∃ worker, Reaches (step 10000000) (fun before tick =>
      WellFormed tick.frame ∧ Careful 10000000 before tick) Worker.fresh worker ∧
      hasWritten worker.log = true :=
    reaches_evaluates [fullTick true 1 1, fullTick false 0.5 1, fullTick true 1 0.5]
      (by decide +kernel)
  exact ⟨worker, ⟨reached, wrote⟩, lids_stay_among 10000000 reached⟩

/-- Open eyes without confidence are drawn closed, and eyes that open while sync is off are
drawn closed when it is switched on again. -/
theorem open_eyes_droop :
    (∃ worker, Reaches (step 10000000) (fun _ tick => WellFormed tick.frame) Worker.fresh worker ∧
        ¬StaysAmong worker.log) ∧
      ∃ worker, Reaches (step 10000000)
          (fun _ tick => WellFormed tick.frame ∧ tick.frame.eyeConfidence .left = 1)
          Worker.fresh worker ∧
        ¬StaysAmong worker.log :=
  ⟨reaches_evaluates [fullTick true 1 0] (by decide +kernel),
    reaches_evaluates [fullTick true 0 1, fullTick false 1 1, fullTick true 1 1]
      (by decide +kernel)⟩

end PairDriver.EyelidSync
