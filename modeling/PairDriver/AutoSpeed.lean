/-
This file is about the automatic choice of the calibration speed, which fixes the
size of the sample buffer.

The choice is made anew at every evaluation, and changes at the fifth one in a row
that finds the same other bucket. A tick of continuous calibration evaluates it two
times at least, and again for every sample it drops and for every extra, always on
the same jitter. Five evaluations never reach back over five ticks, so no change of
the speed waits for them.
-/

import PairDriver.SessionRecording

namespace PairDriver.AutoSpeed

open Calibration Recording

/-! ### The resolver -/

/-- The static variables of `ResolvedCalibrationSpeed`. -/
structure Resolver where
  lastResolved : Speed := .slow
  pendingResolved : Speed := .slow
  pendingTicks : Nat := 0
deriving DecidableEq

def kRequiredStableTicks : Nat := 5

def Resolver.evaluate (resolver : Resolver) (candidate : Speed) : Resolver :=
  if candidate = resolver.lastResolved then
    { resolver with pendingResolved := candidate, pendingTicks := 0 }
  else if candidate = resolver.pendingResolved then
    if kRequiredStableTicks ≤ resolver.pendingTicks + 1 then
      { resolver with lastResolved := candidate, pendingTicks := 0 }
    else { resolver with pendingTicks := resolver.pendingTicks + 1 }
  else { resolver with pendingResolved := candidate, pendingTicks := 1 }

/-- The evaluation is the fifth in a row that finds the same other speed. -/
def Resolver.Fifth (resolver : Resolver) (candidate : Speed) : Prop :=
  candidate ≠ resolver.lastResolved ∧ candidate = resolver.pendingResolved ∧
    resolver.pendingTicks = 4

instance (resolver : Resolver) (candidate : Speed) : Decidable (resolver.Fifth candidate) :=
  inferInstanceAs (Decidable (_ ∧ _ ∧ _))

theorem lastResolved_of_fifth {resolver : Resolver} {candidate : Speed}
    (fifth : resolver.Fifth candidate) :
    (resolver.evaluate candidate).lastResolved = candidate := by
  obtain ⟨other, pending, four⟩ := fifth
  unfold Resolver.evaluate
  rw [if_neg other, if_pos pending, if_pos (four.symm ▸ Nat.le_refl 5)]

theorem lastResolved_of_not_fifth {resolver : Resolver} {candidate : Speed}
    (few : resolver.pendingTicks ≤ 4) (early : ¬resolver.Fifth candidate) :
    (resolver.evaluate candidate).lastResolved = resolver.lastResolved := by
  unfold Resolver.evaluate
  split
  · rfl
  · rename_i other
    split
    · rename_i pending
      split
      · rename_i enough
        exact absurd ⟨other, pending, Nat.le_antisymm few (Nat.le_of_succ_le_succ enough)⟩ early
      · rfl
    · rfl

theorem evaluate_pendingTicks_le (resolver : Resolver) (candidate : Speed) :
    (resolver.evaluate candidate).pendingTicks ≤ 4 := by
  unfold Resolver.evaluate
  split
  · exact Nat.zero_le 4
  · split
    · split
      · exact Nat.zero_le 4
      · rename_i few
        exact Nat.le_of_lt_succ (not_le.mp few)
    · exact Nat.le_of_ble_eq_true rfl

section Evaluation

variable {Number : Type} [Field Number] [LinearOrder Number]

def kFastThreshold : Number := 0.005
def kSlowThreshold : Number := 0.010

/-- The bucket of a jitter. -/
def bucket (jitter : Number) : Speed :=
  if jitter ≤ 0 ∨ jitter < kFastThreshold then .fast
  else if jitter < kSlowThreshold then .slow
  else .verySlow

/-- The setting of the user: a speed, or the automatic choice. -/
inductive Setting where
  | chosen (speed : Speed)
  | auto
deriving DecidableEq

/-- `ResolvedCalibrationSpeed` with the static variables it leaves. -/
def resolvedCalibrationSpeed (setting : Setting) (state : CalibrationState)
    (jitterRef jitterTarget : Number) (resolver : Resolver) : Speed × Resolver :=
  match setting with
  | .chosen speed => (speed, resolver)
  | .auto =>
    if state.isContinuous then
      let evaluated := resolver.evaluate (bucket (max jitterRef jitterTarget))
      (evaluated.lastResolved, evaluated)
    else (.fast, resolver)

/-! ### The ticks -/

/-- What a tick is to do after it has collected its sample: whether it waits for a trigger, whether
the updates are paused, whether the solver empties its buffer, and the samples in the buffers of the
extras it serves. -/
structure Work where
  waits : Bool := false
  paused : Bool := false
  clears : Bool := false
  extras : List Nat := []
deriving DecidableEq

/-- Where a tick stands, named for its next evaluation. -/
inductive Stage where
  | idle
  | progress (work : Work)
  | compare (work : Work)
  | trim (work : Work)
  | trimExtra (samples : Nat) (paused : Bool) (rest : List Nat)
  | compareExtra (paused : Bool) (rest : List Nat)
  | drop
deriving DecidableEq

/-- The extras come one by one, and the samples that are dropped last. -/
def nextExtra (paused : Bool) : List Nat → Stage
  | [] => .drop
  | samples :: rest => .trimExtra samples paused rest

/-- What a tick does with the sample count it evaluated. -/
def advance (sampleCount samples : Nat) : Stage → Nat × Stage
  | .idle => (samples, .idle)
  | .progress work => (samples, .compare work)
  | .compare work => if samples < sampleCount then (samples, .idle) else (samples, .trim work)
  | .trim work =>
    if sampleCount < samples then (samples - 1, .trim work)
    else if work.waits then (samples, .idle)
    else (if work.clears && !work.paused then 0 else samples, nextExtra work.paused work.extras)
  | .trimExtra extra paused rest =>
    if sampleCount < extra then (samples, .trimExtra (extra - 1) paused rest)
    else if paused then (samples, nextExtra paused rest)
    else (samples, .compareExtra paused rest)
  | .compareExtra paused rest => (samples, nextExtra paused rest)
  | .drop => (samples - sampleCount / 10, .idle)

variable (Number) in
/-- Continuous calibration in automatic mode. The buckets of the ticks so far, the latest first, are
recorded for the specification only. -/
structure Session where
  resolver : Resolver := {}
  jitterRef : Number := 0
  jitterTarget : Number := 0
  samples : Nat := 0
  stage : Stage := .idle
  buckets : List Speed := []
deriving DecidableEq

def Session.candidate (session : Session Number) : Speed :=
  bucket (max session.jitterRef session.jitterTarget)

variable (Number) in
/-- A tick collects a sample, which the buffer may reject, and goes on from evaluation to
evaluation. Between two ticks the advanced tab shows the speed, and the buffer may be emptied. -/
inductive Event where
  | collect (accepted : Bool) (jitterRef jitterTarget : Number) (work : Work)
  | evaluate
  | show
  | clear

/-- The jitters are pushed once there are two samples. -/
def collectSample (accepted : Bool) (jitterRef jitterTarget : Number) (session : Session Number) :
    Session Number :=
  let samples := session.samples + accepted.toNat
  if 2 ≤ samples then
    { session with jitterRef := jitterRef, jitterTarget := jitterTarget, samples := samples }
  else { session with samples := samples }

/-- An evaluation of the speed, and what the tick does with it. -/
def Session.resolve (session : Session Number) : Session Number :=
  let resolved := resolvedCalibrationSpeed .auto .continuous session.jitterRef session.jitterTarget
    session.resolver
  let advanced := advance resolved.1.sampleCount session.samples session.stage
  { session with resolver := resolved.2, samples := advanced.1, stage := advanced.2 }

def step (session : Session Number) : Event Number → Option (Session Number)
  | .collect accepted jitterRef jitterTarget work =>
    if session.stage = .idle then
      let collected := collectSample accepted jitterRef jitterTarget session
      some { collected with
        stage := .progress work
        buckets := collected.candidate :: session.buckets }
    else none
  | .evaluate => if session.stage = .idle then none else some session.resolve
  | .show => if session.stage = .idle then some session.resolve else none
  | .clear => if session.stage = .idle then some { session with samples := 0 } else none

/-- The latest ticks, so many of them, had their jitter in the bucket of the speed. -/
def Leading (count : Nat) (speed : Speed) (buckets : List Speed) : Prop :=
  count ≤ buckets.length ∧ ∀ found ∈ buckets.take count, found = speed

instance (count : Nat) (speed : Speed) (buckets : List Speed) :
    Decidable (Leading count speed buckets) :=
  inferInstanceAs (Decidable (_ ∧ _))

/-- A change of the speed follows five ticks in the bucket of the new one. -/
def Sticky (before after : Session Number) : Prop :=
  after.resolver.lastResolved ≠ before.resolver.lastResolved →
    Leading 5 after.resolver.lastResolved after.buckets

instance (before after : Session Number) : Decidable (Sticky before after) :=
  inferInstanceAs (Decidable (_ → _))

/-- The event evaluates the speed, for the fifth time in a row with the same other bucket. -/
def FifthInARow (session : Session Number) : Event Number → Prop
  | .evaluate | .show => session.resolver.Fifth session.candidate
  | _ => False

/-! ### Evaluations and ticks -/

/-- The evaluations the tick owes of the two every tick makes. -/
def Stage.owed : Stage → Nat
  | .progress _ => 2
  | .compare _ => 1
  | _ => 0

theorem Stage.owed_le (stage : Stage) : stage.owed ≤ 2 := by
  cases stage <;> simp [Stage.owed]

/-- Two evaluations for every one of the latest ticks in another bucket are pending, but for those
the current tick owes. -/
structure Counted (session : Session Number) : Prop where
  few : session.resolver.pendingTicks ≤ 4
  latest : ∀ found ∈ session.buckets.head?, found = session.candidate
  pending : ∀ count speed, speed ≠ session.resolver.lastResolved →
    Leading count speed session.buckets →
      2 * count ≤ session.resolver.pendingTicks + session.stage.owed ∧
      (session.stage.owed < 2 * count → speed = session.resolver.pendingResolved)

theorem nextExtra_owed (paused : Bool) (rest : List Nat) : (nextExtra paused rest).owed = 0 := by
  cases rest with
  | nil => rfl
  | cons samples rest => rfl

theorem advance_owed (sampleCount samples : Nat) (stage : Stage) :
    (advance sampleCount samples stage).2.owed = stage.owed - 1 := by
  cases stage with
  | idle => rfl
  | progress work => rfl
  | compare work =>
    dsimp only [advance]
    split
    · rfl
    · rfl
  | trim work =>
    dsimp only [advance]
    split
    · rfl
    · split
      · rfl
      · exact nextExtra_owed work.paused work.extras
  | trimExtra extra paused rest =>
    dsimp only [advance]
    split
    · rfl
    · split
      · exact nextExtra_owed paused rest
      · rfl
  | compareExtra paused rest => exact nextExtra_owed paused rest
  | drop => rfl

theorem Leading.head {count : Nat} {speed : Speed} {buckets : List Speed}
    (leading : Leading (count + 1) speed buckets) : ∃ rest, buckets = speed :: rest ∧
      Leading count speed rest := by
  obtain ⟨long, same⟩ := leading
  cases buckets with
  | nil => exact absurd long (Nat.not_succ_le_zero count)
  | cons first rest =>
    rw [List.take_succ_cons, List.forall_mem_cons] at same
    exact ⟨rest, by rw [same.1], Nat.le_of_succ_le_succ long, same.2⟩

theorem counted_initial : Counted ({} : Session Number) where
  few := Nat.zero_le 4
  latest := nofun
  pending := fun count speed _ leading => by
    obtain rfl := Nat.le_zero.mp leading.1
    exact ⟨Nat.zero_le _, nofun⟩

/-- A new tick owes two evaluations. -/
theorem Counted.collect {session : Session Number} (counted : Counted session)
    (idle : session.stage = .idle) (accepted : Bool) (jitterRef jitterTarget : Number)
    (work : Work) :
    let collected := collectSample accepted jitterRef jitterTarget session
    Counted { collected with
      stage := .progress work
      buckets := collected.candidate :: session.buckets } := by
  have resolver : (collectSample accepted jitterRef jitterTarget session).resolver =
      session.resolver := by
    unfold collectSample
    dsimp only
    split
    · rfl
    · rfl
  refine ⟨resolver ▸ counted.few, fun found among => (Option.some.inj among).symm, ?_⟩
  intro count speed other leading
  dsimp only at other leading ⊢
  rw [resolver] at other ⊢
  cases count with
  | zero => exact ⟨Nat.zero_le _, nofun⟩
  | succ count =>
    obtain ⟨rest, split, before⟩ := leading.head
    obtain ⟨rfl, rfl⟩ := List.cons.inj split
    obtain ⟨enough, same⟩ := counted.pending count _ other before
    rw [idle] at enough same
    refine ⟨Nat.add_le_add_right enough 2, fun more => same ?_⟩
    exact Nat.lt_of_add_lt_add_right (n := 2) (more : 0 + 2 < 2 * count + 2)

/-- An evaluation is one of those the tick owes, or one more. -/
theorem Counted.resolve {session : Session Number} (counted : Counted session) :
    Counted session.resolve where
  few := evaluate_pendingTicks_le session.resolver session.candidate
  latest := counted.latest
  pending := by
    intro count speed other leading
    have owed : session.resolve.stage.owed = session.stage.owed - 1 := advance_owed _ _ _
    have evaluated : session.resolve.resolver = session.resolver.evaluate session.candidate := rfl
    rw [owed]
    rw [evaluated] at other ⊢
    cases count with
    | zero => exact ⟨Nat.zero_le _, nofun⟩
    | succ count =>
      obtain ⟨rest, split, -⟩ := leading.head
      have buckets : session.buckets = speed :: rest := split
      have current : speed = session.candidate := by
        refine counted.latest speed ?_
        rw [buckets, List.head?_cons]
        exact rfl
      subst current
      unfold Resolver.evaluate at other ⊢
      split at other
      · rename_i last
        exact absurd last other
      · rename_i different
        obtain ⟨enough, same⟩ := counted.pending (count + 1) _ different leading
        rw [if_neg different]
        split at other
        · rename_i pending
          rw [if_pos pending]
          split at other
          · exact absurd rfl other
          · rename_i few
            rw [if_neg few]
            refine ⟨?_, fun _ => pending⟩
            dsimp only
            omega
        · rename_i fresh
          rw [if_neg fresh]
          have first : 2 * (count + 1) ≤ session.stage.owed :=
            not_lt.mp fun more => fresh (same more)
          refine ⟨?_, fun _ => rfl⟩
          dsimp only
          omega

theorem Counted.step {session after : Session Number} {event : Event Number}
    (counted : Counted session) (stepped : step session event = some after) : Counted after := by
  unfold AutoSpeed.step at stepped
  split at stepped
  · split at stepped
    · rename_i idle
      obtain rfl := Option.some.inj stepped
      exact counted.collect idle _ _ _ _
    · cases stepped
  · split at stepped
    · cases stepped
    · obtain rfl := Option.some.inj stepped
      exact counted.resolve
  · split at stepped
    · obtain rfl := Option.some.inj stepped
      exact counted.resolve
    · cases stepped
  · split at stepped
    · obtain rfl := Option.some.inj stepped
      exact ⟨counted.few, counted.latest, counted.pending⟩
    · cases stepped

/-- An evaluation keeps to the five ticks exactly if it changes nothing. -/
theorem Counted.sticky_iff {session : Session Number} (counted : Counted session) :
    Sticky session session.resolve ↔ ¬session.resolver.Fifth session.candidate := by
  have evaluated : session.resolve.resolver = session.resolver.evaluate session.candidate := rfl
  have ticks : session.resolve.buckets = session.buckets := rfl
  unfold Sticky
  rw [evaluated, ticks]
  constructor
  · intro sticky fifth
    rw [lastResolved_of_fifth fifth] at sticky
    have five : Leading 5 session.candidate session.buckets := sticky fifth.1
    have enough := (counted.pending 5 session.candidate fifth.1 five).1
    have most := session.stage.owed_le
    rw [fifth.2.2] at enough
    omega
  · intro early changed
    exact absurd (lastResolved_of_not_fifth counted.few early) changed

/-- In every state that continuous calibration reaches in automatic mode, an event changes the speed
only after five ticks in the bucket of the new one exactly if it does not evaluate the speed for the
fifth time in a row with the same other bucket. -/
theorem speed_sticky_iff {session after : Session Number} {event : Event Number}
    (reached : Reaches step (fun _ _ => True) {} session)
    (stepped : step session event = some after) :
    Sticky session after ↔ ¬FifthInARow session event := by
  have counted : Counted session :=
    reached.invariant counted_initial fun _ _ _ counted _ stepped => counted.step stepped
  unfold AutoSpeed.step at stepped
  split at stepped
  · split at stepped
    · obtain rfl := Option.some.inj stepped
      refine iff_of_true (fun changed => absurd ?_ changed) not_false
      unfold collectSample
      dsimp only
      split
      · rfl
      · rfl
    · cases stepped
  · split at stepped
    · cases stepped
    · obtain rfl := Option.some.inj stepped
      exact counted.sticky_iff
  · split at stepped
    · obtain rfl := Option.some.inj stepped
      exact counted.sticky_iff
    · cases stepped
  · split at stepped
    · obtain rfl := Option.some.inj stepped
      exact iff_of_true (fun changed => absurd rfl changed) not_false
    · cases stepped

end Evaluation

/-! ### The first three ticks -/

def still : Event Rat :=
  .collect true 0 0 {}

theorem speed_sticky_iff_still : ∃ session : Session Rat,
    Reaches step (fun _ _ => True) {} session ∧
    (Sticky session session.resolve ↔ ¬FifthInARow session .evaluate) := by
  obtain ⟨session, reached, idle⟩ : ∃ session : Session Rat,
      Reaches step (fun _ _ => True) {} session ∧ session.stage ≠ .idle :=
    reaches_evaluates [still] (by decide +kernel)
  exact ⟨session, reached, speed_sticky_iff reached (if_neg idle)⟩

/-- The speed changes to fast in the third tick. -/
theorem speed_changes_early : ∃ session : Session Rat,
    Reaches step (fun _ _ => True) {} session ∧
    step session .evaluate = some session.resolve ∧
    session.resolve.buckets = [.fast, .fast, .fast] ∧
    session.resolver.lastResolved = .slow ∧ session.resolve.resolver.lastResolved = .fast ∧
    ¬Sticky session session.resolve :=
  reaches_evaluates [still, .evaluate, .evaluate, still, .evaluate, .evaluate, still]
    (by decide +kernel)

end PairDriver.AutoSpeed
