/-
This file models the pose ring of `DriverPoseShmem`: the driver's `SetPose`, the
overlay's `ReadNewPoses`, and runs that interleave the two as atomic steps.

The writer keeps `index` at the last pose it wrote and writes the next one at
`index + 1`; the reader delivers the slots from `cursor` up to but not including
`index`. Over whole runs the reader is therefore one pose behind: what it has
delivered is the slot that was never written, followed by all poses but the last.
`delivered_eq_take_history` is that statement, and `deliversExactly_iff` says
that only a reader that has nothing to read is exact.
-/

import Mathlib

namespace PairDriver.PoseShmem

/-- OpenVR's bound on device indices. -/
def kUnMaxTrackedDeviceCount : Nat := 64

def bufferedSamples : Nat := 64 * 1024

/-- A pose in the ring, with the device it is about and its time stamp. -/
structure AugmentedPose (Pose : Type) where
  deviceId : Nat
  pose : Pose
  sampleTime : Nat
deriving DecidableEq

/-- The mapped segment. A slot of a fresh segment is zero bytes that no writer put there; it is
`none` here, so that it cannot be mistaken for a pose. -/
structure Segment (Pose : Type) where
  index : Nat := 0
  poses : Nat → Option (AugmentedPose Pose) := fun _ => none

variable {Pose : Type}

/-! ### The two operations -/

/-- The device index `SetPose` accepts: the comparison with the unsigned bound also turns
negative indices away. -/
def acceptedId (index : Int) : Option Nat :=
  if 0 ≤ index ∧ index < kUnMaxTrackedDeviceCount then some index.toNat else none

/-- `SetPose`, at the time the performance counter shows. -/
def setPose (segment : Segment Pose) (time : Nat) (index : Int) (pose : Pose) : Segment Pose :=
  match acceptedId index with
  | none => segment
  | some deviceId =>
    let curIndex := (segment.index + 1) % 2 ^ 64
    { index := curIndex
      poses := Function.update segment.poses (curIndex % bufferedSamples)
        (some ⟨deviceId, pose, time⟩) }

/-- Where `ReadNewPoses` starts: at the cursor, unless the writer has fallen behind it or is more
than half a ring ahead. -/
def resync (curIndex cursor : Nat) : Nat :=
  if curIndex < cursor ∨ curIndex - cursor > bufferedSamples / 2 then
    if curIndex < bufferedSamples / 2 then curIndex else curIndex - bufferedSamples / 2
  else cursor

/-- The delivery loop of `ReadNewPoses`, with the slots that remain. -/
def deliver (segment : Segment Pose) (cursor : Nat) : Nat → List (Option (AugmentedPose Pose))
  | 0 => []
  | remaining + 1 =>
    segment.poses (cursor % bufferedSamples) :: deliver segment (cursor + 1) remaining

/-- `ReadNewPoses`: the slots handed to the callback, and the cursor it leaves. -/
def readNewPoses (segment : Segment Pose) (cursor : Nat) :
    List (Option (AugmentedPose Pose)) × Nat :=
  let first := resync segment.index cursor
  (deliver segment first (segment.index - first), max first segment.index)

/-! ### Runs -/

/-- One atomic step of the writer or of the reader. -/
inductive RingOp (Pose : Type) where
  | setPose (time : Nat) (index : Int) (pose : Pose)
  | readNewPoses

/-- Both ends: the segment, the reader's cursor and everything its callback has received. -/
structure Ring (Pose : Type) where
  segment : Segment Pose := {}
  cursor : Nat := 0
  delivered : List (Option (AugmentedPose Pose)) := []

def ringStep (ring : Ring Pose) : RingOp Pose → Ring Pose
  | .setPose time index pose => { ring with segment := setPose ring.segment time index pose }
  | .readNewPoses =>
    let result := readNewPoses ring.segment ring.cursor
    { ring with cursor := result.2, delivered := ring.delivered ++ result.1 }

/-- A run from a fresh segment and a freshly opened reader. -/
def ringRun (ops : List (RingOp Pose)) : Ring Pose :=
  ops.foldl ringStep {}

/-- The pose an operation puts into the ring, if any. -/
def passedPose : RingOp Pose → Option (AugmentedPose Pose)
  | .setPose time index pose => (acceptedId index).map fun deviceId => ⟨deviceId, pose, time⟩
  | .readNewPoses => none

/-- The poses passed to `SetPose` in a run. -/
def passedPoses (ops : List (RingOp Pose)) : List (AugmentedPose Pose) :=
  ops.filterMap passedPose

theorem ringRun_snoc (ops : List (RingOp Pose)) (op : RingOp Pose) :
    ringRun (ops ++ [op]) = ringStep (ringRun ops) op := by
  unfold ringRun
  rw [List.foldl_append, List.foldl_cons, List.foldl_nil]

theorem passedPoses_snoc (ops : List (RingOp Pose)) (op : RingOp Pose) :
    passedPoses (ops ++ [op]) = passedPoses ops ++ (passedPose op).toList := by
  unfold passedPoses
  rw [List.filterMap_append]
  cases passed : passedPose op with
  | none => simp [passed]
  | some pose => simp [passed]

/-! ### What the ring holds -/

/-- The slots in the order of their indices: the one no writer fills, then every pose. -/
def history (ops : List (RingOp Pose)) : List (Option (AugmentedPose Pose)) :=
  none :: (passedPoses ops).map some

theorem history_length (ops : List (RingOp Pose)) :
    (history ops).length = (passedPoses ops).length + 1 := by
  simp [history]

theorem history_snoc (ops : List (RingOp Pose)) (op : RingOp Pose) :
    history (ops ++ [op]) = history ops ++ (passedPose op).toList.map some := by
  rw [history, passedPoses_snoc, List.map_append, ← List.cons_append]
  rfl

/-- The writer's part of the run: `index` counts the poses, and each of the last ring's worth of
indices still finds its own slot. -/
structure Holds (segment : Segment Pose) (slots : List (Option (AugmentedPose Pose))) : Prop where
  index : segment.index + 1 = slots.length
  content : ∀ position, position ≤ segment.index → segment.index < position + bufferedSamples →
    slots[position]? = some (segment.poses (position % bufferedSamples))

theorem Holds.setPose {segment : Segment Pose} {slots : List (Option (AugmentedPose Pose))}
    (holds : Holds segment slots) (small : slots.length < 2 ^ 64) (time : Nat) (index : Int)
    (pose : Pose) :
    Holds (setPose segment time index pose)
      (slots ++ (passedPose (.setPose time index pose)).toList.map some) := by
  cases accepted : acceptedId index with
  | none => simpa [PoseShmem.setPose, passedPose, accepted] using holds
  | some deviceId =>
    have counted := holds.index
    have fits : (segment.index + 1) % 2 ^ 64 = segment.index + 1 := Nat.mod_eq_of_lt (by omega)
    simp only [PoseShmem.setPose, passedPose, accepted, Option.map_some, Option.toList_some,
      List.map_cons, List.map_nil, fits]
    refine ⟨?_, ?_⟩
    · simp only [List.length_append, List.length_cons, List.length_nil]
      omega
    · intro position bound recent
      simp only at bound recent ⊢
      by_cases newest : position = segment.index + 1
      · subst newest
        rw [Function.update_self, counted, List.getElem?_concat_length]
      · have elsewhere : position % bufferedSamples ≠
            (segment.index + 1) % bufferedSamples := by
          unfold bufferedSamples at recent ⊢
          omega
        rw [Function.update_of_ne elsewhere, List.getElem?_append_left (by omega)]
        exact holds.content position (by omega) (by omega)

/-- After a run the ring holds the history of the run. -/
theorem holds_ringRun (ops : List (RingOp Pose)) (small : (passedPoses ops).length + 1 < 2 ^ 64) :
    Holds (ringRun ops).segment (history ops) := by
  induction ops using List.reverseRecOn with
  | nil =>
    refine ⟨rfl, fun position bound _ => ?_⟩
    obtain rfl : position = 0 := Nat.le_zero.mp bound
    rfl
  | append_singleton ops op inductionHypothesis =>
    rw [passedPoses_snoc, List.length_append] at small
    have before := inductionHypothesis (by omega)
    rw [ringRun_snoc, history_snoc]
    cases op with
    | setPose time index pose =>
      exact before.setPose (by rw [history_length]; omega) time index pose
    | readNewPoses => simpa [ringStep, passedPose] using before

/-! ### What the reader delivers -/

/-- The delivery loop hands out a stretch of the history. -/
theorem deliver_eq (segment : Segment Pose) (slots : List (Option (AugmentedPose Pose)))
    (holds : Holds segment slots) (cursor remaining : Nat)
    (bound : cursor + remaining ≤ segment.index)
    (recent : segment.index < cursor + bufferedSamples) :
    deliver segment cursor remaining = (slots.drop cursor).take remaining := by
  induction remaining generalizing cursor with
  | zero => simp [deliver]
  | succ remaining inductionHypothesis =>
    have counted := holds.index
    have inside : cursor < slots.length := by omega
    have head := holds.content cursor (by omega) recent
    rw [List.getElem?_eq_getElem inside, Option.some.injEq] at head
    rw [deliver, inductionHypothesis (cursor + 1) (by omega) (by omega),
      List.drop_eq_getElem_cons inside, List.take_succ_cons, head]

/-- A read from a cursor at most half a ring behind delivers the history from the cursor up to
but not including the last pose. -/
theorem readNewPoses_eq (segment : Segment Pose) (slots : List (Option (AugmentedPose Pose)))
    (holds : Holds segment slots) (cursor : Nat) (behind : cursor ≤ segment.index)
    (close : segment.index - cursor ≤ bufferedSamples / 2) :
    readNewPoses segment cursor =
      ((slots.drop cursor).take (segment.index - cursor), segment.index) := by
  have stays : resync segment.index cursor = cursor := by
    unfold resync
    rw [if_neg (by omega)]
  have recent : segment.index < cursor + bufferedSamples := by
    unfold bufferedSamples at close ⊢
    omega
  simp only [readNewPoses, stays]
  rw [deliver_eq segment slots holds cursor _ (by omega) recent, Nat.max_eq_right behind]

/-- Every read of a run happens at most half a ring behind the writer. -/
def ReadsClose (ops : List (RingOp Pose)) : Prop :=
  ∀ before, before ++ [RingOp.readNewPoses] <+: ops →
    (passedPoses before).length - (ringRun before).cursor ≤ bufferedSamples / 2

theorem prefix_snoc_cases {Value : Type} {before ops : List Value} {last op : Value}
    (isPrefix : before ++ [last] <+: ops ++ [op]) :
    (before = ops ∧ last = op) ∨ before ++ [last] <+: ops := by
  rcases List.prefix_concat_iff.mp isPrefix with whole | shorter
  · obtain ⟨same, single⟩ := List.append_inj' whole rfl
    exact Or.inl ⟨same, List.singleton_inj.mp single⟩
  · exact Or.inr shorter

/-- The reader's run invariant: what has been delivered is the history up to the cursor. In a run
whose reads all come soon enough, the reader has after each read delivered the unwritten slot and
every pose but the last. -/
theorem delivered_eq_take_history (ops : List (RingOp Pose))
    (small : (passedPoses ops).length + 1 < 2 ^ 64) (close : ReadsClose ops) :
    (ringRun ops).cursor ≤ (passedPoses ops).length ∧
      (ringRun ops).delivered = (history ops).take (ringRun ops).cursor := by
  induction ops using List.reverseRecOn with
  | nil => exact ⟨Nat.le_refl 0, rfl⟩
  | append_singleton ops op inductionHypothesis =>
    have smaller : (passedPoses ops).length + 1 < 2 ^ 64 := by
      rw [passedPoses_snoc, List.length_append] at small
      omega
    obtain ⟨bound, delivered⟩ := inductionHypothesis smaller
      fun before isPrefix => close before (isPrefix.trans (List.prefix_append _ _))
    have holds := holds_ringRun ops smaller
    have counted : (ringRun ops).segment.index = (passedPoses ops).length := by
      have length := holds.index
      rw [history_length] at length
      omega
    rw [ringRun_snoc, history_snoc, passedPoses_snoc]
    cases op with
    | setPose time index pose =>
      refine ⟨?_, ?_⟩
      · rw [List.length_append]
        exact Nat.le_trans bound (Nat.le_add_right _ _)
      · have known : (ringRun ops).cursor ≤ (history ops).length := by
          rw [history_length]
          exact Nat.le_succ_of_le bound
        show (ringRun ops).delivered = List.take (ringRun ops).cursor _
        rw [delivered, List.take_append_of_le_length known]
    | readNewPoses =>
      have near := close ops (List.prefix_refl _)
      have read := readNewPoses_eq _ _ holds (ringRun ops).cursor (by omega) (by omega)
      simp only [ringStep, passedPose, Option.toList_none, List.map_nil, List.append_nil, read]
      refine ⟨by omega, ?_⟩
      rw [delivered, ← List.take_add, Nat.add_sub_cancel' (by omega)]

/-! ### Exact delivery -/

/-- The contract of the ring: when a read returns, the callback has received exactly the poses
passed to `SetPose` so far, each once and in order, and no slot that was never written. -/
def DeliversExactly (ops : List (RingOp Pose)) : Prop :=
  ∀ before, before ++ [RingOp.readNewPoses] <+: ops →
    (ringRun (before ++ [RingOp.readNewPoses])).delivered = (passedPoses before).map some

/-- The reader never falls more than the ring's size behind the writer. -/
def NeverBehind (ops : List (RingOp Pose)) : Prop :=
  ∀ before, before <+: ops → (passedPoses before).length - (ringRun before).cursor ≤ bufferedSamples

/-- Every read of the run comes before the first accepted `SetPose`. -/
def ReadsComeFirst (ops : List (RingOp Pose)) : Prop :=
  ∀ before, before ++ [RingOp.readNewPoses] <+: ops → passedPoses before = []

theorem ReadsComeFirst.readsClose {ops : List (RingOp Pose)} (first : ReadsComeFirst ops) :
    ReadsClose ops := by
  intro before isPrefix
  rw [first before isPrefix, List.length_nil, Nat.zero_sub]
  exact Nat.zero_le _

/-- Until a pose has been read for the first time, the cursor has not moved. -/
theorem ReadsComeFirst.cursor {ops : List (RingOp Pose)} (first : ReadsComeFirst ops) :
    (ringRun ops).cursor = 0 := by
  induction ops using List.reverseRecOn with
  | nil => rfl
  | append_singleton ops op inductionHypothesis =>
    have unmoved := inductionHypothesis
      fun before isPrefix => first before (isPrefix.trans (List.prefix_append _ _))
    rw [ringRun_snoc]
    cases op with
    | setPose time index pose => exact unmoved
    | readNewPoses =>
      have nothing := first ops (List.prefix_refl _)
      have index := (holds_ringRun ops (by rw [nothing, List.length_nil]; decide)).index
      rw [history_length, nothing, List.length_nil] at index
      have zero : (ringRun ops).segment.index = 0 := by omega
      simp only [ringStep, readNewPoses, resync, zero, unmoved]
      decide

/-- The first read that finds something in the ring is not exact: within half a ring it starts
with the slot that was never written, and beyond it hands out half a ring only. -/
theorem first_late_read (ops : List (RingOp Pose)) (first : ReadsComeFirst ops)
    (passed : passedPoses ops ≠ []) (behind : (passedPoses ops).length ≤ bufferedSamples) :
    (ringRun (ops ++ [RingOp.readNewPoses])).delivered ≠ (passedPoses ops).map some := by
  have small : (passedPoses ops).length + 1 < 2 ^ 64 := by
    unfold bufferedSamples at behind
    omega
  obtain ⟨-, delivered⟩ := delivered_eq_take_history ops small first.readsClose
  have holds := holds_ringRun ops small
  have index : (ringRun ops).segment.index = (passedPoses ops).length := by
    have length := holds.index
    rw [history_length] at length
    omega
  rw [first.cursor, List.take_zero] at delivered
  have positive : 0 < (passedPoses ops).length := List.length_pos_of_ne_nil passed
  rw [ringRun_snoc]
  simp only [ringStep, delivered, List.nil_append, first.cursor]
  by_cases close : (passedPoses ops).length ≤ bufferedSamples / 2
  · rw [readNewPoses_eq _ _ holds 0 (Nat.zero_le _) (by omega), index, List.drop_zero, Nat.sub_zero]
    obtain ⟨rest, more⟩ := Nat.exists_eq_succ_of_ne_zero (Nat.pos_iff_ne_zero.mp positive)
    obtain ⟨pose, poses, split⟩ := List.exists_cons_of_ne_nil passed
    rw [more, history, List.take_succ_cons, split, List.map_cons]
    intro equal
    exact absurd (List.cons.inj equal).1 (by simp)
  · have jumps : resync (passedPoses ops).length 0 =
        (passedPoses ops).length - bufferedSamples / 2 := by
      unfold resync
      rw [if_pos (by omega), if_neg (by omega)]
    have halfRing : 0 < bufferedSamples / 2 := by decide
    simp only [readNewPoses, index, jumps]
    rw [deliver_eq _ _ holds _ _ (by omega) (by omega)]
    intro equal
    have lengths := congrArg List.length equal
    rw [List.length_take, List.length_drop, history_length, List.length_map] at lengths
    omega

/-- The ring delivers exactly what was passed to it in just those runs whose reads all come
before the first pose. -/
theorem deliversExactly_iff (ops : List (RingOp Pose)) (never : NeverBehind ops) :
    DeliversExactly ops ↔ ReadsComeFirst ops := by
  constructor
  · intro exactly
    induction ops using List.reverseRecOn with
    | nil =>
      intro before isPrefix
      exact absurd (List.prefix_nil.mp isPrefix) (by simp)
    | append_singleton ops op inductionHypothesis =>
      have first := inductionHypothesis
        (fun before isPrefix => never before (isPrefix.trans (List.prefix_append _ _)))
        (fun before isPrefix => exactly before (isPrefix.trans (List.prefix_append _ _)))
      intro before isPrefix
      rcases prefix_snoc_cases isPrefix with ⟨rfl, rfl⟩ | earlier
      · by_contra passed
        have behind := never before (List.prefix_append _ _)
        rw [first.cursor, Nat.sub_zero] at behind
        exact first_late_read before first passed behind (exactly before (List.prefix_refl _))
      · exact first before earlier
  · intro first before isPrefix
    have nothing := first before isPrefix
    have prefixFirst : ReadsComeFirst (before ++ [RingOp.readNewPoses]) :=
      fun earlier shorter => first earlier (shorter.trans isPrefix)
    have same : passedPoses (before ++ [RingOp.readNewPoses]) = [] := by
      rw [passedPoses_snoc, nothing]
      rfl
    obtain ⟨-, delivered⟩ := delivered_eq_take_history (before ++ [RingOp.readNewPoses])
      (by rw [same, List.length_nil]; decide) prefixFirst.readsClose
    rw [delivered, prefixFirst.cursor, nothing]
    rfl

/-- A reader that polls before the driver has set its first pose. -/
theorem deliversExactly_iff_poll :
    NeverBehind [.readNewPoses, .setPose 7 3 (0 : Nat)] ∧
      (DeliversExactly [.readNewPoses, .setPose 7 3 (0 : Nat)] ↔
        ReadsComeFirst [.readNewPoses, .setPose 7 3 (0 : Nat)]) := by
  have never : NeverBehind [.readNewPoses, .setPose 7 3 (0 : Nat)] := by
    intro before isPrefix
    have few : (passedPoses before).length ≤ 2 :=
      Nat.le_trans (List.length_filterMap_le _ _) isPrefix.length_le
    exact Nat.le_trans (Nat.sub_le _ _) (Nat.le_trans few (by decide))
  exact ⟨never, deliversExactly_iff _ never⟩

/-- One pose and one read: the callback receives the slot that was never written. -/
theorem setPose_then_read_not_exact :
    ¬ DeliversExactly [.setPose 7 3 (0 : Nat), .readNewPoses] := by
  intro exactly
  exact absurd (exactly [.setPose 7 3 0] (List.prefix_refl _)) (by decide)

end PairDriver.PoseShmem
