/-
This file models the chi-square detector for re-anchors: a history of poses, the prediction
of the next translation from the velocity of the last two tenths of a second, the residual
against the observed pose, its score against the running variances, and the freeze window.

A tick that fires leaves the variances as they are. Once the head moves uniformly, the
residual is the same on every tick: the translation is predicted, but the rotation is
predicted to stand still. So the detector either never fires again or fires on every tick,
depending on the variances it has learned before.
-/

import PairDriver.InnovationGate
import PairDriver.Machine
import PairDriver.OverwritingHistory

namespace PairDriver.ReanchorChi

open InnovationGate

local instance neZeroThree : NeZero 3 := ⟨by decide⟩

section Detector

variable {Number : Type} [Field Number] [LinearOrder Number]

/-! ### The detector -/

def kChiSquare6DoF_p1e4 : Number := 27.8563
def kVelocityWindowSec : Number := 0.20
def kVarianceWindowSec : Number := 5.0
def kFreezeWindowSec : Number := 0.50
def kHistoryCapacity : Nat := 32
def kVarianceFloor : Number := 1e-8

structure PoseSample (Number : Type) [Zero Number] [One Number] [Neg Number] where
  trans : Fin 3 → Number
  rot : Quaternion Number
  timestamp : Number

structure DetectorState (Number : Type) [Zero Number] [One Number] [Neg Number] where
  history : History (PoseSample Number) kHistoryCapacity
  residualVariance : Fin 6 → Number
  varianceCount : Nat
  freezeUntil : Number
  lastFireTime : Number
  lastChiSquared : Number

def DetectorState.fresh : DetectorState Number where
  history := ⟨fun _ => ⟨0, 1, 0⟩, 0⟩
  residualVariance := fun _ => kVarianceFloor
  varianceCount := 0
  freezeUntil := -1e9
  lastFireTime := -1e9
  lastChiSquared := 0

/-- The sample with the latest timestamp, as all the loops of the detector find it. -/
def latest (s : DetectorState Number) : PoseSample Number :=
  largest PoseSample.timestamp ⟨0, 1, -1e9⟩ s.history.items

/-- The oldest sample within the window. -/
def earliest (s : DetectorState Number) (now : Number) : Option (PoseSample Number) :=
  smallest PoseSample.timestamp (fun p => now - p.timestamp ≤ kVelocityWindowSec) s.history.items

def estimateLinearVelocity (s : DetectorState Number) (now : Number) : Fin 3 → Number :=
  if s.history.live < 2 then 0
  else
    match earliest s now with
    | none => 0
    | some first =>
      let dt := (latest s).timestamp - first.timestamp
      if dt ≤ 1e-6 then 0 else fun axis => ((latest s).trans axis - first.trans axis) / dt

def predictTranslation (s : DetectorState Number) (now : Number) : Fin 3 → Number :=
  if s.history.live = 0 then 0
  else
    let v := estimateLinearVelocity s (latest s).timestamp
    let dt := max 0 (now - (latest s).timestamp)
    fun axis => (latest s).trans axis + v axis * dt

/-- How far the variances move towards the squares of a residual. -/
def varianceRate (dt : Number) : Number :=
  if 0 < dt ∧ dt < kVarianceWindowSec then dt / kVarianceWindowSec else 0.05

def updateResidualVariance (s : DetectorState Number) (resid : Fin 6 → Number) (dt : Number) :
    DetectorState Number :=
  { s with
    residualVariance := settle (varianceRate dt) kVarianceFloor resid s.residualVariance
    varianceCount := s.varianceCount + 1 }

def mahalanobisSquared (resid variance : Fin 6 → Number) : Number :=
  score kVarianceFloor resid variance

/-- The difference between the observed pose and the predicted one. -/
def residual (s : DetectorState Number) (observed : PoseSample Number) : Fin 6 → Number :=
  let predictedTrans := predictTranslation s observed.timestamp
  let rotDelta := observed.rot * star (latest s).rot
  ![observed.trans 0 - predictedTrans 0, observed.trans 1 - predictedTrans 1,
    observed.trans 2 - predictedTrans 2, rotDelta.imI, rotDelta.imJ, rotDelta.imK]

/-- `TickAndCheckCandidate`. -/
def tickAndCheckCandidate (s : DetectorState Number) (observed : PoseSample Number)
    (dt : Number) : DetectorState Number × Bool :=
  if s.history.live < 4 then ({ s with history := s.history.push observed }, false)
  else
    let resid := residual s observed
    let mahalanobisSq := mahalanobisSquared resid s.residualVariance
    let fired := decide (20 ≤ s.varianceCount) && decide (kChiSquare6DoF_p1e4 < mahalanobisSq)
    let scored := { s with lastChiSquared := mahalanobisSq }
    let frozen :=
      if fired then
        { scored with
          freezeUntil := observed.timestamp + kFreezeWindowSec
          lastFireTime := observed.timestamp }
      else scored
    let pushed := { frozen with history := frozen.history.push observed }
    (if fired then pushed else updateResidualVariance pushed resid dt, fired)

def isFrozen (s : DetectorState Number) (now : Number) : Prop := now < s.freezeUntil

/-- A pose and the time since the tick before it. -/
structure Tick (Number : Type) [Zero Number] [One Number] [Neg Number] where
  observed : PoseSample Number
  dt : Number

def step (s : DetectorState Number) (tick : Tick Number) : Option (DetectorState Number) :=
  some (tickAndCheckCandidate s tick.observed tick.dt).1

/-! ### Uniform motion -/

/-- A motion with constant velocities from a pose on, seen at a fixed interval. -/
structure Motion (Number : Type) [Zero Number] [One Number] [Neg Number] where
  start : PoseSample Number
  velocity : Fin 3 → Number
  turn : Quaternion Number
  interval : Number

def Motion.pose (motion : Motion Number) (k : Nat) : PoseSample Number where
  trans := fun axis => motion.start.trans axis + k * motion.interval * motion.velocity axis
  rot := motion.turn ^ k * motion.start.rot
  timestamp := motion.start.timestamp + k * motion.interval

/-- The detector after some ticks of the motion; at first it has just seen its start. -/
def during (s : DetectorState Number) (motion : Motion Number) : Nat → DetectorState Number
  | 0 => s
  | k + 1 => (tickAndCheckCandidate (during s motion k) (motion.pose (k + 1)) motion.interval).1

/-- Whether a tick of the motion fires. -/
def fires (s : DetectorState Number) (motion : Motion Number) (k : Nat) : Bool :=
  (tickAndCheckCandidate (during s motion k) (motion.pose (k + 1)) motion.interval).2

/-- The number of ticks that the velocity is estimated over. -/
def lead (interval : Number) : Nat :=
  Nat.findGreatest (fun j => (j : Number) * interval ≤ kVelocityWindowSec) 31

/-- The residual of the motion: nothing for the translation, unless its velocity is not seen, and
the turn of one tick. -/
def Motion.residual (motion : Motion Number) : Fin 6 → Number :=
  let unseen := if lead motion.interval * motion.interval ≤ 1e-6 then motion.interval else 0
  ![unseen * motion.velocity 0, unseen * motion.velocity 1, unseen * motion.velocity 2,
    motion.turn.imI, motion.turn.imJ, motion.turn.imK]

/-! ### What a tick does -/

/-- The detector is warm, and the score exceeds the threshold. -/
def Suspects (s : DetectorState Number) (resid : Fin 6 → Number) : Prop :=
  20 ≤ s.varianceCount ∧
    kChiSquare6DoF_p1e4 < mahalanobisSquared resid s.residualVariance

theorem tick_history (s : DetectorState Number) (observed : PoseSample Number) (dt : Number) :
    (tickAndCheckCandidate s observed dt).1.history = s.history.push observed := by
  unfold tickAndCheckCandidate updateResidualVariance
  dsimp only
  split_ifs <;> rfl

theorem tick_short {s : DetectorState Number} (short : s.history.live < 4)
    (observed : PoseSample Number) (dt : Number) :
    (tickAndCheckCandidate s observed dt).2 = false ∧
      (tickAndCheckCandidate s observed dt).1.residualVariance = s.residualVariance ∧
      (tickAndCheckCandidate s observed dt).1.varianceCount = s.varianceCount := by
  unfold tickAndCheckCandidate
  rw [if_pos short]
  exact ⟨rfl, rfl, rfl⟩

theorem tick_fires {s : DetectorState Number} (long : 4 ≤ s.history.live)
    {observed : PoseSample Number} (suspects : Suspects s (residual s observed)) (dt : Number) :
    (tickAndCheckCandidate s observed dt).2 = true ∧
      (tickAndCheckCandidate s observed dt).1.residualVariance = s.residualVariance ∧
      (tickAndCheckCandidate s observed dt).1.varianceCount = s.varianceCount ∧
      (tickAndCheckCandidate s observed dt).1.freezeUntil =
        observed.timestamp + kFreezeWindowSec := by
  have fired : (decide (20 ≤ s.varianceCount) && decide (kChiSquare6DoF_p1e4 <
      mahalanobisSquared (residual s observed) s.residualVariance)) = true := by
    rw [decide_eq_true suspects.1, decide_eq_true suspects.2]
    rfl
  unfold tickAndCheckCandidate
  rw [if_neg (not_lt.mpr long)]
  dsimp only
  rw [fired]
  exact ⟨rfl, rfl, rfl, rfl⟩

theorem tick_learns {s : DetectorState Number} (long : 4 ≤ s.history.live)
    {observed : PoseSample Number} (quiet : ¬Suspects s (residual s observed)) (dt : Number) :
    (tickAndCheckCandidate s observed dt).2 = false ∧
      (tickAndCheckCandidate s observed dt).1.residualVariance =
        settle (varianceRate dt) kVarianceFloor (residual s observed) s.residualVariance ∧
      (tickAndCheckCandidate s observed dt).1.varianceCount = s.varianceCount + 1 := by
  have fired : (decide (20 ≤ s.varianceCount) && decide (kChiSquare6DoF_p1e4 <
      mahalanobisSquared (residual s observed) s.residualVariance)) = false := by
    rw [Bool.and_eq_false_iff, decide_eq_false_iff_not, decide_eq_false_iff_not]
    exact not_and_or.mp quiet
  unfold tickAndCheckCandidate
  rw [if_neg (not_lt.mpr long)]
  dsimp only
  rw [fired]
  exact ⟨rfl, rfl, rfl⟩

/-- The history holds a sequence of samples no later than some time, and the variances are at
least the floor. -/
structure Sound (time : Number) (sequence : Nat → PoseSample Number)
    (s : DetectorState Number) : Prop where
  records : s.history.Records sequence
  past : ∀ index < s.history.count, (sequence index).timestamp ≤ time
  above : ∀ index, kVarianceFloor ≤ s.residualVariance index

theorem tick_above {s : DetectorState Number}
    (above : ∀ index, kVarianceFloor ≤ s.residualVariance index)
    (observed : PoseSample Number) (dt : Number) (index : Fin 6) :
    kVarianceFloor ≤ (tickAndCheckCandidate s observed dt).1.residualVariance index := by
  rcases lt_or_ge s.history.live 4 with short | long
  · rw [(tick_short short observed dt).2.1]
    exact above index
  · by_cases suspects : Suspects s (residual s observed)
    · rw [(tick_fires long suspects dt).2.1]
      exact above index
    · rw [(tick_learns long suspects dt).2.1]
      exact floor_le_settle _ _ _ _ index

theorem sound_tick {time : Number} {sequence : Nat → PoseSample Number}
    {s : DetectorState Number} (sound : Sound time sequence s) {observed : PoseSample Number}
    (next : sequence s.history.count = observed) (past : observed.timestamp ≤ time)
    (dt : Number) : Sound time sequence (tickAndCheckCandidate s observed dt).1 where
  records := by
    rw [tick_history]
    exact sound.records.push next
  past := by
    intro index before
    rw [tick_history, History.push_count] at before
    rcases Nat.lt_succ_iff_lt_or_eq.mp before with earlier | last
    · exact sound.past index earlier
    · rw [last, next]
      exact past
  above := tick_above sound.above observed dt

/-- The states that ticks up to some time reach from a new detector. -/
def Reachable (time : Number) (s : DetectorState Number) : Prop :=
  Reaches step (fun _ tick => tick.observed.timestamp ≤ time) DetectorState.fresh s

theorem sound_of_reachable {time : Number} {s : DetectorState Number}
    (reachable : Reachable time s) : ∃ sequence, Sound time sequence s := by
  refine @Reaches.invariant _ _ _ _ _ _ (fun s => ∃ sequence, Sound time sequence s) reachable
    ⟨fun _ => ⟨0, 1, 0⟩, ?_, ?_, fun _ => le_rfl⟩ ?_
  · exact fun index before => absurd before (Nat.not_lt_zero index)
  · exact fun index before => absurd before (Nat.not_lt_zero index)
  · rintro before tick after ⟨sequence, sound⟩ past stepped
    obtain rfl := Option.some.inj stepped
    refine ⟨Function.update sequence before.history.count tick.observed, ?_⟩
    have same : ∀ index < before.history.count, Function.update sequence before.history.count
        tick.observed index = sequence index :=
      fun index earlier => Function.update_of_ne (Nat.ne_of_lt earlier) _ _
    have kept : Sound time (Function.update sequence before.history.count tick.observed) before :=
      { records := fun index earlier recent =>
          (sound.records index earlier recent).trans (same index earlier).symm
        past := fun index earlier => by
          rw [same index earlier]
          exact sound.past index earlier
        above := sound.above }
    exact sound_tick kept (Function.update_self _ _ _) past tick.dt

/-! ### The residual of uniform motion -/

/-- A clock that does not run backwards from zero, an interval, and unit quaternions. -/
structure Motion.Valid (motion : Motion Number) : Prop where
  clock : 0 ≤ motion.start.timestamp
  interval : 0 < motion.interval
  unitStart : Quaternion.normSq motion.start.rot = 1
  unitTurn : Quaternion.normSq motion.turn = 1

/-- The samples before the motion, and then its poses. -/
def recorded (sequence : Nat → PoseSample Number) (count : Nat) (motion : Motion Number)
    (index : Nat) : PoseSample Number :=
  if index < count then sequence index else motion.pose (index - count)

/-- The state after some ticks of a motion that began after some samples. -/
structure Follows (sequence : Nat → PoseSample Number) (count : Nat) (motion : Motion Number)
    (k : Nat) (s : DetectorState Number) : Prop where
  total : s.history.count = count + 1 + k
  records : s.history.Records (recorded sequence count motion)
  past : ∀ index < count, (sequence index).timestamp ≤ motion.start.timestamp
  above : ∀ index, kVarianceFloor ≤ s.residualVariance index

omit [LinearOrder Number] in
theorem pose_zero (motion : Motion Number) : motion.pose 0 = motion.start := by
  have trans : (fun axis => motion.start.trans axis +
      ((0 : Nat) : Number) * motion.interval * motion.velocity axis) = motion.start.trans := by
    funext axis
    rw [Nat.cast_zero, zero_mul, zero_mul, add_zero]
  unfold Motion.pose
  rw [trans, pow_zero, one_mul, Nat.cast_zero, zero_mul, add_zero]

omit [LinearOrder Number] in
theorem recorded_pose (sequence : Nat → PoseSample Number) (count : Nat)
    (motion : Motion Number) (k : Nat) :
    recorded sequence count motion (count + k) = motion.pose k := by
  unfold recorded
  rw [if_neg (by omega), Nat.add_sub_cancel_left]

omit [LinearOrder Number] in
/-- The turn between two poses is that of one tick. -/
theorem turn_eq {motion : Motion Number} (unitStart : Quaternion.normSq motion.start.rot = 1)
    (unitTurn : Quaternion.normSq motion.turn = 1) (k : Nat) :
    (motion.pose (k + 1)).rot * star (motion.pose k).rot = motion.turn := by
  have unit : Quaternion.normSq (motion.pose k).rot = 1 := by
    show Quaternion.normSq (motion.turn ^ k * motion.start.rot) = 1
    rw [map_mul, map_pow, unitTurn, unitStart, one_pow, one_mul]
  have next : (motion.pose (k + 1)).rot = motion.turn * (motion.pose k).rot := by
    show motion.turn ^ (k + 1) * motion.start.rot = motion.turn * (motion.turn ^ k * _)
    rw [pow_succ', mul_assoc]
  rw [next, mul_assoc, Quaternion.self_mul_star, unit]
  exact mul_one motion.turn

theorem follows_during {sequence : Nat → PoseSample Number} {before : DetectorState Number}
    {motion : Motion Number} (sound : Sound motion.start.timestamp sequence before) (dt : Number)
    (k : Nat) :
    Follows sequence before.history.count motion k
      (during (tickAndCheckCandidate before motion.start dt).1 motion k) := by
  induction k with
  | zero =>
    have samples : before.history.Records (recorded sequence before.history.count motion) :=
      fun index earlier recent =>
        (sound.records index earlier recent).trans (if_pos earlier).symm
    have next : recorded sequence before.history.count motion before.history.count =
        motion.start := by
      rw [← pose_zero]
      exact recorded_pose sequence before.history.count motion 0
    refine ⟨?_, ?_, sound.past, tick_above sound.above _ _⟩
    · unfold during
      rw [tick_history]
      rfl
    · unfold during
      rw [tick_history]
      exact samples.push next
  | succ k inductionHypothesis =>
    obtain ⟨count, records, past, above⟩ := inductionHypothesis
    refine ⟨?_, ?_, past, tick_above above _ _⟩
    · unfold during
      rw [tick_history, History.push_count, count, Nat.add_assoc]
    · unfold during
      rw [tick_history]
      refine records.push ?_
      rw [count, Nat.add_assoc, Nat.add_comm 1 k]
      exact recorded_pose sequence before.history.count motion (k + 1)

section Steady

variable {sequence : Nat → PoseSample Number} {count : Nat} {motion : Motion Number} {k : Nat}
  {s : DetectorState Number}

/-- The samples of the history are those before the motion and the poses of the motion. -/
theorem mem_items_cases (follows : Follows sequence count motion k s)
    {item : PoseSample Number} (member : item ∈ s.history.items) :
    item.timestamp ≤ motion.start.timestamp ∨
      ∃ j, j ≤ k ∧ k ≤ j + 31 ∧ item = motion.pose j := by
  obtain ⟨index, before, recent, same⟩ :=
    (History.mem_items_iff follows.records item).mp member
  rw [follows.total] at before recent
  by_cases earlier : index < count
  · left
    rw [← same]
    unfold recorded
    rw [if_pos earlier]
    exact follows.past index earlier
  · obtain ⟨j, rfl⟩ := Nat.exists_eq_add_of_le (not_lt.mp earlier)
    have capacity : kHistoryCapacity = 32 := rfl
    refine Or.inr ⟨j, by omega, by omega, ?_⟩
    rw [← same, recorded_pose]

theorem pose_mem_items (follows : Follows sequence count motion k s) {j : Nat} (below : j ≤ k)
    (recent : k ≤ j + 31) : motion.pose j ∈ s.history.items := by
  have capacity : kHistoryCapacity = 32 := rfl
  have total := follows.total
  exact (History.mem_items_iff follows.records _).mpr
    ⟨count + j, by omega, by omega, recorded_pose sequence count motion j⟩

variable [IsStrictOrderedRing Number]

theorem timestamp_lt (valid : motion.Valid) {j k : Nat} (less : j < k) :
    (motion.pose j).timestamp < (motion.pose k).timestamp := by
  have cast : (j : Number) < k := Nat.cast_lt.mpr less
  have product := mul_lt_mul_of_pos_right cast valid.interval
  show motion.start.timestamp + _ < motion.start.timestamp + _
  linarith

theorem latest_eq (valid : motion.Valid) (follows : Follows sequence count motion k s)
    (positive : 0 < k) : latest s = motion.pose k := by
  have first : (motion.pose 0).timestamp = motion.start.timestamp := by rw [pose_zero]
  have after := timestamp_lt valid positive
  refine largest_eq (pose_mem_items follows le_rfl (by omega)) ?_ fun item member => ?_
  · have clock := valid.clock
    rw [first] at after
    norm_num
    linarith
  · rcases mem_items_cases follows member with earlier | ⟨j, below, -, rfl⟩
    · rw [first] at after
      exact Or.inr (earlier.trans_lt after)
    · rcases Nat.eq_or_lt_of_le below with same | less
      · exact Or.inl (by rw [same])
      · exact Or.inr (timestamp_lt valid less)

theorem lead_spec (interval : Number) :
    (lead interval : Number) * interval ≤ kVelocityWindowSec ∧ lead interval ≤ 31 := by
  refine ⟨?_, Nat.findGreatest_le 31⟩
  have zero : ((0 : Nat) : Number) * interval ≤ kVelocityWindowSec := by
    unfold kVelocityWindowSec
    rw [Nat.cast_zero, zero_mul]
    norm_num
  exact @Nat.findGreatest_spec 0 (fun j => (j : Number) * interval ≤ kVelocityWindowSec) _ 31
    (by omega) zero

theorem lead_lt (valid : motion.Valid)
    (steady : kVelocityWindowSec < (k : Number) * motion.interval) :
    lead motion.interval < k := by
  have inside := (lead_spec motion.interval).1
  have less := lt_of_mul_lt_mul_right (inside.trans_lt steady) valid.interval.le
  exact Nat.cast_lt.mp less

theorem earliest_eq (valid : motion.Valid) (follows : Follows sequence count motion k s)
    (steady : kVelocityWindowSec < (k : Number) * motion.interval) :
    earliest s (motion.pose k).timestamp = some (motion.pose (k - lead motion.interval)) := by
  obtain ⟨inside, bounded⟩ := lead_spec motion.interval
  have less := lead_lt valid steady
  have gap : ∀ j ≤ k, (motion.pose k).timestamp - (motion.pose j).timestamp =
      ((k - j : Nat) : Number) * motion.interval := by
    intro j below
    rw [Nat.cast_sub below]
    show motion.start.timestamp + _ - (motion.start.timestamp + _) = _
    ring
  refine smallest_eq (pose_mem_items follows (Nat.sub_le _ _) (by omega)) ?_
    fun item member admitted => ?_
  · rw [decide_eq_true_eq, gap _ (Nat.sub_le _ _), Nat.sub_sub_self less.le]
    exact inside
  · have recent := of_decide_eq_true admitted
    rcases mem_items_cases follows member with earlier | ⟨j, below, near, rfl⟩
    · have now : (motion.pose k).timestamp =
          motion.start.timestamp + (k : Number) * motion.interval := rfl
      rw [now] at recent
      linarith
    · rw [gap j below] at recent
      have window : k - j ≤ lead motion.interval :=
        Nat.le_findGreatest (by omega) recent
      rcases Nat.eq_or_lt_of_le (show k - lead motion.interval ≤ j by omega) with same | later
      · exact Or.inl (by rw [same])
      · exact Or.inr (timestamp_lt valid later)

theorem estimateLinearVelocity_eq (valid : motion.Valid)
    (follows : Follows sequence count motion k s)
    (steady : kVelocityWindowSec < (k : Number) * motion.interval) :
    estimateLinearVelocity s (motion.pose k).timestamp =
      if (lead motion.interval : Number) * motion.interval ≤ 1e-6 then 0 else motion.velocity := by
  have less := lead_lt valid steady
  have total := follows.total
  have enough : ¬s.history.live < 2 := by
    have capacity : kHistoryCapacity = 32 := rfl
    unfold History.live
    omega
  have back : ((k - lead motion.interval : Nat) : Number) =
      (k : Number) - (lead motion.interval : Number) := Nat.cast_sub less.le
  unfold estimateLinearVelocity
  rw [if_neg enough, earliest_eq valid follows steady, latest_eq valid follows (by omega)]
  dsimp only
  have gap : (motion.pose k).timestamp - (motion.pose (k - lead motion.interval)).timestamp =
      (lead motion.interval : Number) * motion.interval := by
    unfold Motion.pose
    dsimp only
    rw [back]
    ring
  rw [gap]
  split_ifs with short
  · rfl
  · funext axis
    have nonzero : (lead motion.interval : Number) * motion.interval ≠ 0 := by
      have long := not_le.mp short
      have positive : (0 : Number) < 1e-6 := by norm_num
      exact (positive.trans long).ne'
    have moved : (motion.pose k).trans axis -
        (motion.pose (k - lead motion.interval)).trans axis =
          (lead motion.interval : Number) * motion.interval * motion.velocity axis := by
      unfold Motion.pose
      dsimp only
      rw [back]
      ring
    rw [moved, mul_div_cancel_left₀ _ nonzero]

theorem predictTranslation_eq (valid : motion.Valid)
    (follows : Follows sequence count motion k s)
    (steady : kVelocityWindowSec < (k : Number) * motion.interval) (axis : Fin 3) :
    (motion.pose (k + 1)).trans axis -
        predictTranslation s (motion.pose (k + 1)).timestamp axis =
      (if (lead motion.interval : Number) * motion.interval ≤ 1e-6 then motion.interval else 0) *
        motion.velocity axis := by
  have less := lead_lt valid steady
  have total := follows.total
  have enough : ¬s.history.live = 0 := by
    have capacity : kHistoryCapacity = 32 := rfl
    unfold History.live
    omega
  have ahead : (motion.pose (k + 1)).timestamp - (motion.pose k).timestamp =
      motion.interval := by
    unfold Motion.pose
    dsimp only
    rw [Nat.cast_succ]
    ring
  unfold predictTranslation
  rw [if_neg enough, latest_eq valid follows (by omega),
    estimateLinearVelocity_eq valid follows steady]
  rw [ahead, max_eq_right valid.interval.le]
  unfold Motion.pose
  dsimp only
  rw [Nat.cast_succ]
  split_ifs
  · rw [Pi.zero_apply]
    ring
  · ring

/-- Once nothing but the motion is in the window, its residual is the same on every tick. -/
theorem residual_eq (valid : motion.Valid) (follows : Follows sequence count motion k s)
    (steady : kVelocityWindowSec < (k : Number) * motion.interval) :
    residual s (motion.pose (k + 1)) = motion.residual := by
  have less := lead_lt valid steady
  unfold residual Motion.residual
  dsimp only
  rw [latest_eq valid follows (by omega), turn_eq valid.unitStart valid.unitTurn,
    predictTranslation_eq valid follows steady, predictTranslation_eq valid follows steady,
    predictTranslation_eq valid follows steady]

end Steady

/-! ### Fire or calm -/

/-- Once the detector is warm, with the residual taken in on every tick until then, the score is
within the threshold. -/
def Calm (s : DetectorState Number) (resid : Fin 6 → Number) (dt : Number) : Prop :=
  mahalanobisSquared resid ((settle (varianceRate dt) kVarianceFloor resid)^[20 - s.varianceCount]
    s.residualVariance) ≤ kChiSquare6DoF_p1e4

section Ticks

variable {s : DetectorState Number} {observed : PoseSample Number} {resid : Fin 6 → Number}

theorem calm_warm (warm : 20 ≤ s.varianceCount) (dt : Number) :
    Calm s resid dt ↔ ¬Suspects s resid := by
  unfold Calm Suspects
  rw [Nat.sub_eq_zero_of_le warm, Function.iterate_zero_apply, not_and, not_lt]
  exact ⟨fun within _ => within, fun within => within warm⟩

theorem calm_congr {after : DetectorState Number} {dt : Number}
    (variance : after.residualVariance = s.residualVariance)
    (count : after.varianceCount = s.varianceCount) : Calm after resid dt ↔ Calm s resid dt := by
  unfold Calm
  rw [variance, count]

theorem tick_snd_iff (dt : Number) :
    (tickAndCheckCandidate s observed dt).2 = true ↔
      4 ≤ s.history.live ∧ Suspects s (residual s observed) := by
  rcases lt_or_ge s.history.live 4 with short | long
  · rw [(tick_short short observed dt).1]
    exact iff_of_false (by decide) fun both => absurd both.1 (not_le.mpr short)
  · by_cases suspects : Suspects s (residual s observed)
    · rw [(tick_fires long suspects dt).1]
      exact iff_of_true rfl ⟨long, suspects⟩
    · rw [(tick_learns long suspects dt).1]
      exact iff_of_false (by decide) fun both => suspects both.2

theorem tick_count (long : 4 ≤ s.history.live) (observed : PoseSample Number) (dt : Number) :
    20 ≤ (tickAndCheckCandidate s observed dt).1.varianceCount ∨
      (tickAndCheckCandidate s observed dt).1.varianceCount = s.varianceCount + 1 := by
  by_cases suspects : Suspects s (residual s observed)
  · left
    rw [(tick_fires long suspects dt).2.2.1]
    exact suspects.1
  · exact Or.inr (tick_learns long suspects dt).2.2

end Ticks

section Run

variable {sequence : Nat → PoseSample Number} {count : Nat} {motion : Motion Number}
  {s : DetectorState Number}

theorem live_during (follows : ∀ k, Follows sequence count motion k (during s motion k)) {k : Nat}
    (some : 3 ≤ k) : 4 ≤ (during s motion k).history.live := by
  have total := (follows k).total
  have capacity : kHistoryCapacity = 32 := rfl
  unfold History.live
  omega

/-- After enough ticks the detector is warm. -/
theorem warm_during (follows : ∀ k, Follows sequence count motion k (during s motion k)) (n : Nat) :
    20 ≤ (during s motion (3 + n)).varianceCount ∨ n ≤ (during s motion (3 + n)).varianceCount := by
  induction n with
  | zero => exact Or.inr (Nat.zero_le _)
  | succ n inductionHypothesis =>
    have long := live_during follows (Nat.le_add_right 3 n)
    have step : during s motion (3 + (n + 1)) = (tickAndCheckCandidate
        (during s motion (3 + n)) (motion.pose (3 + n + 1)) motion.interval).1 := rfl
    rw [step]
    rcases tick_count long (motion.pose (3 + n + 1)) motion.interval with warm | next
    · exact Or.inl warm
    · rw [next]
      omega

end Run

variable [IsStrictOrderedRing Number]

theorem varianceRate_bounds (dt : Number) : 0 ≤ varianceRate dt ∧ varianceRate dt < 1 := by
  unfold varianceRate
  split_ifs with inside
  · obtain ⟨positive, below⟩ := inside
    have window : (0 : Number) < kVarianceWindowSec := by
      unfold kVarianceWindowSec
      norm_num
    exact ⟨div_nonneg positive.le window.le, (div_lt_one window).mpr below⟩
  · norm_num

theorem kVarianceFloor_pos : (0 : Number) < kVarianceFloor := by
  unfold kVarianceFloor
  norm_num

/-- A score within the threshold stays within it while the residual is the same. -/
theorem settle_within {resid variance : Fin 6 → Number}
    (above : ∀ index, kVarianceFloor ≤ variance index) (dt : Number)
    (within : mahalanobisSquared resid variance ≤ kChiSquare6DoF_p1e4) :
    mahalanobisSquared resid (settle (varianceRate dt) kVarianceFloor resid variance) ≤
      kChiSquare6DoF_p1e4 := by
  obtain ⟨low, high⟩ := varianceRate_bounds dt
  refine score_settle_within low high kVarianceFloor_pos above ?_ within
  unfold kChiSquare6DoF_p1e4
  rw [Fintype.card_fin]
  norm_num

/-- A tick with the same residual does not change whether the detector is calm. -/
theorem calm_tick_iff {s : DetectorState Number} {observed : PoseSample Number}
    {resid : Fin 6 → Number} (above : ∀ index, kVarianceFloor ≤ s.residualVariance index)
    (same : residual s observed = resid) (dt : Number) :
    Calm (tickAndCheckCandidate s observed dt).1 resid dt ↔ Calm s resid dt := by
  rcases lt_or_ge s.history.live 4 with short | long
  · obtain ⟨-, variance, count⟩ := tick_short short observed dt
    exact calm_congr variance count
  · by_cases suspects : Suspects s (residual s observed)
    · obtain ⟨-, variance, count, -⟩ := tick_fires long suspects dt
      exact calm_congr variance count
    · obtain ⟨-, variance, count⟩ := tick_learns long suspects dt
      rw [same] at suspects variance
      rcases Nat.lt_or_ge s.varianceCount 20 with cold | warm
      · have split : 20 - s.varianceCount = (20 - (s.varianceCount + 1)) + 1 := by omega
        unfold Calm
        rw [variance, count, split, Function.iterate_succ_apply]
      · have before := (calm_warm warm dt).mpr suspects
        refine iff_of_true ?_ before
        have within := settle_within above dt (not_lt.mp fun exceeds => suspects ⟨warm, exceeds⟩)
        unfold Calm
        rw [variance, count, Nat.sub_eq_zero_of_le (by omega), Function.iterate_zero_apply]
        exact within

section Uniform

variable {sequence : Nat → PoseSample Number} {count : Nat} {motion : Motion Number}
  {s : DetectorState Number}

/-- From a steady tick on, the detector stays calm, or stays not calm. -/
theorem calm_during_iff (valid : motion.Valid)
    (follows : ∀ k, Follows sequence count motion k (during s motion k)) {start : Nat}
    (steady : kVelocityWindowSec < (start : Number) * motion.interval) (n : Nat) :
    Calm (during s motion (start + n)) motion.residual motion.interval ↔
      Calm (during s motion start) motion.residual motion.interval := by
  induction n with
  | zero => rfl
  | succ n inductionHypothesis =>
    have later : kVelocityWindowSec < ((start + n : Nat) : Number) * motion.interval := by
      refine steady.trans_le (mul_le_mul_of_nonneg_right ?_ valid.interval.le)
      exact Nat.cast_le.mpr (Nat.le_add_right start n)
    have same := residual_eq valid (follows (start + n)) later
    rw [← inductionHypothesis]
    exact calm_tick_iff (follows (start + n)).above same motion.interval

/-- On a steady tick of a warm detector, it fires exactly if it is not calm. -/
theorem fires_iff_not_calm (valid : motion.Valid)
    (follows : ∀ k, Follows sequence count motion k (during s motion k)) {k : Nat}
    (steady : kVelocityWindowSec < (k : Number) * motion.interval) (enough : 23 ≤ k) :
    fires s motion k = true ↔
      ¬Calm (during s motion k) motion.residual motion.interval := by
  have long := live_during follows (show 3 ≤ k by omega)
  have warm : 20 ≤ (during s motion k).varianceCount := by
    have counted := warm_during follows (k - 3)
    rw [Nat.add_sub_cancel' (by omega)] at counted
    omega
  unfold fires
  rw [tick_snd_iff, residual_eq valid (follows k) steady, calm_warm warm, not_not]
  exact and_iff_right long

/-- A calm detector does not fire on a steady tick, warm or not. -/
theorem quiet_of_calm (valid : motion.Valid)
    (follows : ∀ k, Follows sequence count motion k (during s motion k)) {k : Nat}
    (steady : kVelocityWindowSec < (k : Number) * motion.interval)
    (calm : Calm (during s motion k) motion.residual motion.interval) :
    fires s motion k = false := by
  rw [Bool.eq_false_iff]
  intro fired
  unfold fires at fired
  obtain ⟨-, suspects⟩ := (tick_snd_iff motion.interval).mp fired
  rw [residual_eq valid (follows k) steady] at suspects
  exact (calm_warm suspects.1 motion.interval).mp calm suspects

end Uniform

/-! ### The freeze after the motion became uniform -/

omit [IsStrictOrderedRing Number] in
theorem tick_fired {s : DetectorState Number} {observed : PoseSample Number} {dt : Number}
    (fired : (tickAndCheckCandidate s observed dt).2 = true) :
    (tickAndCheckCandidate s observed dt).1.freezeUntil =
      observed.timestamp + kFreezeWindowSec := by
  obtain ⟨long, suspects⟩ := (tick_snd_iff dt).mp fired
  exact (tick_fires long suspects dt).2.2.2

/-- The detector is frozen on every tick that fires. -/
theorem frozen_of_fires {s : DetectorState Number} {motion : Motion Number} {k : Nat}
    (fired : fires s motion k = true) :
    isFrozen (during s motion (k + 1)) (motion.pose (k + 1)).timestamp := by
  have froze := tick_fired fired
  unfold isFrozen during
  rw [froze]
  refine lt_add_of_pos_right _ ?_
  unfold kFreezeWindowSec
  norm_num

section Freeze

variable [FloorSemiring Number]

/-- The first tick of a motion before which nothing but the motion is in the window. -/
def settledAt (interval : Number) : Nat := ⌊kVelocityWindowSec / interval⌋₊ + 1

/-- The first tick of a motion comes later than the variance window, and fires. -/
def FiresLateAtOnce (s : DetectorState Number) (motion : Motion Number) : Prop :=
  kVarianceWindowSec < motion.interval ∧ 4 ≤ s.history.live ∧
    Suspects s (residual s (motion.pose 1))

theorem steady_settledAt {motion : Motion Number} (valid : motion.Valid) :
    kVelocityWindowSec < (settledAt motion.interval : Number) * motion.interval := by
  have above := Nat.lt_floor_add_one (kVelocityWindowSec / motion.interval)
  rw [div_lt_iff₀ valid.interval] at above
  unfold settledAt
  rw [Nat.cast_succ]
  exact above

/-- A detector that is not calm fires on every later tick. -/
theorem fires_without_end {before : DetectorState Number} {motion : Motion Number}
    (valid : motion.Valid) (dt : Number) (reachable : Reachable motion.start.timestamp before)
    (uncalm : ¬Calm (during (tickAndCheckCandidate before motion.start dt).1 motion
      (settledAt motion.interval)) motion.residual motion.interval) {k : Nat}
    (late : settledAt motion.interval + 23 ≤ k) :
    fires (tickAndCheckCandidate before motion.start dt).1 motion k = true := by
  obtain ⟨sequence, sound⟩ := sound_of_reachable reachable
  have follows := follows_during sound dt
  have steady := steady_settledAt valid
  obtain ⟨n, rfl⟩ := Nat.exists_eq_add_of_le late
  have onward : kVelocityWindowSec <
      ((settledAt motion.interval + 23 + n : Nat) : Number) * motion.interval :=
    steady.trans_le (mul_le_mul_of_nonneg_right (Nat.cast_le.mpr (by omega)) valid.interval.le)
  rw [fires_iff_not_calm valid follows onward (by omega), Nat.add_assoc]
  exact (calm_during_iff valid follows steady (23 + n)).not.mpr uncalm

/-- A tick later than the variance window is steady, unless it is the first one. -/
theorem late_early {motion : Motion Number} (valid : motion.Valid) {k : Nat}
    (early : k ≤ ⌊kVelocityWindowSec / motion.interval⌋₊)
    (late : kVarianceWindowSec < ((k + 1 : Nat) : Number) * motion.interval) : k = 0 := by
  have window : (0 : Number) ≤ kVelocityWindowSec / motion.interval := by
    unfold kVelocityWindowSec
    exact div_nonneg (by norm_num) valid.interval.le
  have below : (k : Number) * motion.interval ≤ kVelocityWindowSec := by
    rw [← le_div_iff₀ valid.interval]
    exact (Nat.cast_le.mpr early).trans (Nat.floor_le window)
  by_contra positive
  have one : (1 : Number) ≤ k := by
    exact_mod_cast Nat.one_le_iff_ne_zero.mpr positive
  have interval := le_mul_of_one_le_left valid.interval.le one
  rw [Nat.cast_succ, add_mul, one_mul] at late
  unfold kVarianceWindowSec at late
  unfold kVelocityWindowSec at below
  norm_num at late below
  linarith

/-- No tick of a uniform motion later than the variance window fires exactly if the detector is
calm when nothing but the motion is in its window, and a first tick that is as late does not
fire. -/
theorem fires_no_later_iff {before : DetectorState Number} (motion : Motion Number) (dt : Number)
    (valid : motion.Valid) (reachable : Reachable motion.start.timestamp before) :
    (∀ k : Nat, kVarianceWindowSec < ((k + 1 : Nat) : Number) * motion.interval →
        fires (tickAndCheckCandidate before motion.start dt).1 motion k = false) ↔
      Calm (during (tickAndCheckCandidate before motion.start dt).1 motion
          (settledAt motion.interval)) motion.residual motion.interval ∧
        ¬FiresLateAtOnce (tickAndCheckCandidate before motion.start dt).1 motion := by
  obtain ⟨sequence, sound⟩ := sound_of_reachable reachable
  have follows := follows_during sound dt
  have steady := steady_settledAt valid
  have onward : ∀ n, settledAt motion.interval ≤ n →
      kVelocityWindowSec < (n : Number) * motion.interval := fun n later =>
    steady.trans_le (mul_le_mul_of_nonneg_right (Nat.cast_le.mpr later) valid.interval.le)
  constructor
  · intro quiet
    constructor
    · by_contra uncalm
      obtain ⟨far, distant⟩ : ∃ far : Nat,
          kVarianceWindowSec < ((far + 1 : Nat) : Number) * motion.interval := by
        refine ⟨⌊kVarianceWindowSec / motion.interval⌋₊, ?_⟩
        have above := Nat.lt_floor_add_one (kVarianceWindowSec / motion.interval)
        rw [div_lt_iff₀ valid.interval] at above
        rw [Nat.cast_succ]
        exact above
      have fired := fires_without_end valid dt reachable uncalm
        (Nat.le_add_right (settledAt motion.interval + 23) far)
      have late : kVarianceWindowSec <
          ((settledAt motion.interval + 23 + far + 1 : Nat) : Number) * motion.interval :=
        distant.trans_le (mul_le_mul_of_nonneg_right (Nat.cast_le.mpr (by omega))
          valid.interval.le)
      rw [quiet _ late] at fired
      exact absurd fired (by decide)
    · rintro ⟨late, long, suspects⟩
      have fired : fires (tickAndCheckCandidate before motion.start dt).1 motion 0 = true :=
        (tick_snd_iff motion.interval).mpr ⟨long, suspects⟩
      rw [quiet 0 (by rwa [Nat.cast_one, one_mul])] at fired
      exact absurd fired (by decide)
  · rintro ⟨calm, notAtOnce⟩ k late
    rcases Nat.lt_or_ge k (settledAt motion.interval) with early | settled
    · obtain rfl := late_early valid (Nat.lt_succ_iff.mp early) late
      rw [Nat.cast_one, one_mul] at late
      rw [Bool.eq_false_iff]
      intro fired
      obtain ⟨long, suspects⟩ := (tick_snd_iff motion.interval).mp fired
      exact notAtOnce ⟨late, long, suspects⟩
    · obtain ⟨n, rfl⟩ := Nat.exists_eq_add_of_le settled
      exact quiet_of_calm valid follows (onward _ settled)
        ((calm_during_iff valid follows steady n).mpr calm)

end Freeze

end Detector

/-! ### A slow turn -/

/-- Ticks at twenty a second while the head is still. -/
def stillTicks (count : Nat) : List (Tick Rat) :=
  (List.range count).map fun index => ⟨⟨0, 1, index / 20⟩, 1 / 20⟩

/-- A head at rest in the origin that begins to turn by a little more than one degree a tick, or
that stays as it is. -/
def headAt (start : Rat) (turning : Bool) : Motion Rat where
  start := ⟨0, 1, start⟩
  velocity := 0
  turn := if turning then ⟨39999 / 40001, 0, 400 / 40001, 0⟩ else 1
  interval := 1 / 20

theorem headAt_valid {start : Rat} (clock : 0 ≤ start) (turning : Bool) :
    (headAt start turning).Valid where
  clock := clock
  interval := by norm_num [headAt]
  unitStart := by
    show Quaternion.normSq (1 : Quaternion Rat) = 1
    exact map_one _
  unitTurn := by
    cases turning with
    | true =>
      show Quaternion.normSq (⟨39999 / 40001, 0, 400 / 40001, 0⟩ : Quaternion Rat) = 1
      refine (Quaternion.normSq_def' _).trans ?_
      show (39999 / 40001 : Rat) ^ 2 + 0 ^ 2 + (400 / 40001) ^ 2 + 0 ^ 2 = 1
      norm_num
    | false => exact map_one _

instance (s : DetectorState Rat) (resid : Fin 6 → Rat) (dt : Rat) : Decidable (Calm s resid dt) :=
  inferInstanceAs (Decidable (_ ≤ _))

/-- A head that stays still keeps the detector calm. -/
theorem fires_no_later_still : (headAt 0 false).Valid ∧
    ∀ k : Nat, kVarianceWindowSec < ((k + 1 : Nat) : Rat) * (1 / 20) →
      fires (tickAndCheckCandidate .fresh (headAt 0 false).start (1 / 20)).1 (headAt 0 false) k =
        false := by
  have calm : Calm (during (tickAndCheckCandidate .fresh (headAt 0 false).start (1 / 20)).1
      (headAt 0 false) 5) (headAt 0 false).residual (1 / 20) := by decide +kernel
  have settled : settledAt (1 / 20 : Rat) = 5 := by
    unfold settledAt kVelocityWindowSec
    norm_num
  refine ⟨headAt_valid le_rfl false, (fires_no_later_iff (headAt 0 false) (1 / 20)
    (headAt_valid le_rfl false) Reaches.start).mpr ⟨?_, ?_⟩⟩
  · show Calm (during _ _ (settledAt (1 / 20))) _ (1 / 20)
    rw [settled]
    exact calm
  · rintro ⟨late, -⟩
    exact absurd late (by decide +kernel)

/-- After a second at rest the head turns by a little more than twenty degrees a second: the
detector fires on every tick, and the corrections stay frozen without end. -/
theorem turning_head_stays_frozen : ∃ before : DetectorState Rat, Reachable (6 / 5) before ∧
    (headAt (6 / 5) true).Valid ∧
    ¬(∀ k : Nat, kVarianceWindowSec < ((k + 1 : Nat) : Rat) * (1 / 20) →
      fires (tickAndCheckCandidate before (headAt (6 / 5) true).start (1 / 20)).1
        (headAt (6 / 5) true) k = false) ∧
    ∀ k : Nat, 28 ≤ k → isFrozen (during (tickAndCheckCandidate before
        (headAt (6 / 5) true).start (1 / 20)).1 (headAt (6 / 5) true) (k + 1))
      ((headAt (6 / 5) true).pose (k + 1)).timestamp := by
  obtain ⟨before, reachable, uncalm⟩ : ∃ before : DetectorState Rat, Reachable (6 / 5) before ∧
      ¬Calm (during (tickAndCheckCandidate before (headAt (6 / 5) true).start (1 / 20)).1
        (headAt (6 / 5) true) 5) (headAt (6 / 5) true).residual (1 / 20) :=
    reaches_evaluates (stillTicks 24) (by decide +kernel)
  have valid : (headAt (6 / 5) true).Valid := headAt_valid (by norm_num) true
  have settled : settledAt (1 / 20 : Rat) = 5 := by
    unfold settledAt kVelocityWindowSec
    norm_num
  have fired : ∀ k : Nat, 28 ≤ k → fires (tickAndCheckCandidate before
      (headAt (6 / 5) true).start (1 / 20)).1 (headAt (6 / 5) true) k = true := by
    intro k late
    refine fires_without_end valid (1 / 20) reachable ?_ ?_
    · show ¬Calm (during _ _ (settledAt (1 / 20))) _ (1 / 20)
      rw [settled]
      exact uncalm
    · show settledAt (1 / 20) + 23 ≤ k
      rw [settled]
      exact late
  refine ⟨before, reachable, valid, fun quiet => ?_, fun k late => frozen_of_fires (fired k late)⟩
  have silent := quiet 100 (by decide +kernel)
  rw [fired 100 (by omega)] at silent
  exact absurd silent (by decide)

end PairDriver.ReanchorChi
