/-
This file models how the learning engine of the input health overlay learns the rest of an
analog input. A tick that finds the input at rest gives it credit, half a sample or in a rest
burst a whole one, and each whole credit enters the value into the mean and variance. With
enough samples of small deviation the path is ready, with an offset, a deadzone or a trigger
range. A ready path that stays off its offset for ten seconds is learned anew, and the next
minute does not count against it.

The state of a path starts from the record of the profile. A record has the count of the
samples, and of a path that is not ready nothing else. Numbers are exact; the square root is
a parameter. Times are unsigned and wrap.
-/

import PairDriver.InputComponents
import PairDriver.PressLearning
import PairDriver.ScalarStatistics

namespace PairDriver.InputHealth.Rest

open Presses Profiles Scalar StreamingMoments

/-! ### State -/

/-- The state of an analog path. -/
structure AnalogState extends Presses.PathState Rat where
  rest : WelfordState := Moments.none
  /-- In halves of a sample. -/
  restCredit : Nat := 0
  triggerPeak : Rat := 0
  shortMean : Rat := 0
  shortMeanInitialized : Bool := false
  driftShiftPending : Bool := false
  driftExceededSinceUs : UInt64 := 0
  driftCooldownUntilUs : UInt64 := 0

def freshState : AnalogState where
  toPathState := Presses.fresh

def ofRecord (record : LearnedPathRecord Rat) : AnalogState where
  toPathState := Presses.ofRecord record
  rest :=
    if record.sampleCount > 1 then
      { count := record.sampleCount.toNat
        mean := record.learnedRestOffset
        m2 := record.learnedStddev * record.learnedStddev * (record.sampleCount.toNat - 1 : Nat) }
    else Moments.none

/-- What a snapshot says of an analog component. -/
structure Body where
  isScalar : Bool := true
  isBoolean : Bool := false
  axisRole : AxisRole
  partnerHandle : UInt64 := 0
  deviceSerialHash : UInt64
  path : Text
  lastValue : Rat
  scalarRangeInitialized : Bool
  observedMax : Rat

def pathFromBody (body : Body) : Text :=
  cString (body.path.take inputHealthPathLen)

def kindForBody (body : Body) : Kind :=
  if body.isBoolean then .boolean
  else match body.axisRole with
    | .stickX => .stickX
    | .stickY => .stickY
    | .unpaired => .scalarSingle

def isStickKind (kind : Kind) : Bool :=
  kind = .stickX ∨ kind = .stickY

def isTriggerKind (kind : Kind) (path : Text) : Bool :=
  kind = .scalarSingle ∧ isTriggerLikePath path

/-! ### A path at a tick -/

/-- What a tick brings to a path: its snapshot, the last value of its partner, whether the
buttons are quiet, whether a rest burst is on, and the clocks. -/
structure Observation where
  body : Body
  partnerValue : Option Rat
  buttonsQuiet : Bool
  burst : Bool
  nowUs : UInt64
  unixSeconds : UInt64

def Observation.kind (observation : Observation) : Kind :=
  kindForBody observation.body

def Observation.isStick (observation : Observation) : Bool :=
  isStickKind observation.kind

def Observation.isTrigger (observation : Observation) : Bool :=
  isTriggerKind observation.kind (pathFromBody observation.body)

def Observation.rest (observation : Observation) : Bool :=
  if observation.isStick then
    observation.partnerValue.any fun partner =>
      |observation.body.lastValue| < 1 / 20 && |partner| < 1 / 20 && observation.buttonsQuiet
  else if observation.isTrigger then observation.body.lastValue < 1 / 20
  else |observation.body.lastValue| < 1 / 20 && observation.buttonsQuiet

/-- The kind and the peak are taken in at rest or not. -/
def meet (observation : Observation) (state : AnalogState) : AnalogState :=
  let peak := max state.triggerPeak observation.body.lastValue
  { state with
    kind := observation.kind
    triggerPeak :=
      if observation.isTrigger then
        if observation.body.scalarRangeInitialized then max peak observation.body.observedMax
        else peak
      else state.triggerPeak }

/-- Each whole credit is a sample; the credit is counted in halves. -/
def spend (value : Rat) : Nat → WelfordState → WelfordState × Nat
  | credit + 2, rest => spend value credit (welfordUpdate rest value)
  | credit, rest => (rest, credit)

def Observation.gain (observation : Observation) : Nat :=
  if observation.burst then 2 else 1

def creditRest (observation : Observation) (state : AnalogState) : AnalogState :=
  let spent := spend observation.body.lastValue (state.restCredit + observation.gain) state.rest
  { state with
    rest := spent.1
    restCredit := spent.2
    sampleCount := UInt64.ofNat spent.1.count
    shortMean :=
      if state.shortMeanInitialized then
        state.shortMean + 1 / 20 * (observation.body.lastValue - state.shortMean)
      else observation.body.lastValue
    shortMeanInitialized := true }

/-- Off the learned offset, with the minute after the last drift over. -/
def exceeds (nowUs : UInt64) (state : AnalogState) : Bool :=
  state.driftCooldownUntilUs ≤ nowUs ∧
    |state.shortMean - state.learnedRestOffset| > 3 * max (1 / 1000) state.learnedStddev

def exceededSince (nowUs : UInt64) (state : AnalogState) : UInt64 :=
  if state.driftExceededSinceUs = 0 then nowUs else state.driftExceededSinceUs

/-- Ten seconds off the offset. -/
def drifts (nowUs : UInt64) (state : AnalogState) : Bool :=
  exceeds nowUs state && 10000000 ≤ nowUs - exceededSince nowUs state

def relearn (nowUs unixSeconds : UInt64) (state : AnalogState) : AnalogState :=
  { state with
    ready := false
    driftShiftPending := true
    driftExceededSinceUs := 0
    driftCooldownUntilUs := nowUs + 60000000
    driftShiftResets := state.driftShiftResets + 1
    sampleCount := 0
    restCredit := 0
    rest := Moments.none
    shortMeanInitialized := false
    learnedRestOffset := 0
    learnedStddev := 0
    learnedTriggerMin := 0
    learnedTriggerMax := 0
    learnedDeadzoneRadius := 0
    learnedDebounceUs := 0
    lastUpdatedUnix := unixSeconds }

def clampDouble (value lo hi : Rat) : Rat :=
  max lo (min value hi)

def Observation.limit (observation : Observation) : Rat :=
  if observation.isTrigger then 5 / 100 else 2 / 100

section Learning

variable (root : Rat → Rat)

/-- `SampleStdDev`. -/
def sampleStdDev (rest : WelfordState) : Rat :=
  root (sampleVariance rest)

def becomesReady (observation : Observation) (state : AnalogState) : Bool :=
  (Presses.readyThreshold state.kind).toNat ≤ state.rest.count ∧
    sampleStdDev root state.rest < observation.limit

def learnRest (observation : Observation) (state : AnalogState) : AnalogState :=
  let stddev := sampleStdDev root state.rest
  { state with
    ready := true
    driftShiftPending := false
    learnedRestOffset := state.rest.mean
    learnedStddev := stddev
    learnedTriggerMin :=
      if observation.isTrigger then clampDouble state.rest.mean 0 (1 / 10)
      else state.learnedTriggerMin
    learnedTriggerMax :=
      if observation.isTrigger then if state.triggerPeak > 1 / 10 then state.triggerPeak else 1
      else state.learnedTriggerMax
    learnedDeadzoneRadius :=
      if observation.isStick then clampDouble (stddev * 3) (1 / 100) (8 / 100)
      else state.learnedDeadzoneRadius
    lastUpdatedUnix := observation.unixSeconds }

/-- A path after a tick, whether its record is written and if so whether at once, and whether
it is learned anew. -/
structure Outcome where
  state : AnalogState
  sync : Option Bool := none
  relearned : Bool := false

def observe (observation : Observation) (state : AnalogState) : Outcome :=
  let met := meet observation state
  if observation.rest then
    let credited := creditRest observation met
    if credited.ready then
      if exceeds observation.nowUs credited then
        if drifts observation.nowUs credited then
          { state := relearn observation.nowUs observation.unixSeconds credited
            sync := some true
            relearned := true }
        else
          { state := { credited with
              driftExceededSinceUs := exceededSince observation.nowUs credited } }
      else
        { state := { credited with
            driftExceededSinceUs := 0
            driftShiftPending := false } }
    else if becomesReady root observation credited then
      { state := learnRest root observation credited
        sync := some true }
    else
      { state := credited
        sync := some false }
  else { state := met }

/-- What a tick can do to a path. -/
inductive Observed (observation : Observation) (state : AnalogState) : Outcome → Prop where
  | away (moving : observation.rest = false) :
    Observed observation state { state := meet observation state }
  | drifted (resting : observation.rest = true) (ready : state.ready = true)
      (shifted : drifts observation.nowUs (creditRest observation (meet observation state))) :
    Observed observation state
      { state := relearn observation.nowUs observation.unixSeconds
          (creditRest observation (meet observation state))
        sync := some true
        relearned := true }
  | kept (resting : observation.rest = true) (ready : state.ready = true) (since : UInt64)
      (pending : Bool)
      (watched : since = 0 ∨
        exceeds observation.nowUs (creditRest observation (meet observation state)) = true ∧
          since = exceededSince observation.nowUs state) :
    Observed observation state
      { state := { creditRest observation (meet observation state) with
          driftExceededSinceUs := since
          driftShiftPending := pending } }
  | learned (resting : observation.rest = true) (unready : state.ready = false)
      (enough : becomesReady root observation (creditRest observation (meet observation state))) :
    Observed observation state
      { state := learnRest root observation (creditRest observation (meet observation state))
        sync := some true }
  | learning (resting : observation.rest = true) (unready : state.ready = false) :
    Observed observation state
      { state := creditRest observation (meet observation state)
        sync := some false }

theorem observe_observed (observation : Observation) (state : AnalogState) :
    Observed root observation state (observe root observation state) := by
  have kept : (creditRest observation (meet observation state)).ready = state.ready := rfl
  rw [observe]
  dsimp only
  cases resting : observation.rest with
  | false => exact Observed.away resting
  | true =>
    rw [if_pos rfl, kept]
    cases ready : state.ready with
    | false =>
      rw [if_neg Bool.false_ne_true]
      split_ifs with enough
      · exact Observed.learned resting ready enough
      · exact Observed.learning resting ready
    | true =>
      rw [if_pos rfl]
      split_ifs with off shifted
      · exact Observed.drifted resting ready shifted
      · exact Observed.kept resting ready _ _ (Or.inr ⟨off, rfl⟩)
      · exact Observed.kept resting ready _ _ (Or.inl rfl)

/-! ### A session of one path -/

/-- A path after a list of ticks. -/
def session (state : AnalogState) (observations : List Observation) : AnalogState :=
  observations.foldl (fun state observation => (observe root observation state).state) state

/-- The times at which a path is learned anew. -/
def relearnTimes : AnalogState → List Observation → List Nat
  | _, [] => []
  | state, observation :: rest =>
    let outcome := observe root observation state
    if outcome.relearned then
      observation.nowUs.toNat :: relearnTimes outcome.state rest
    else relearnTimes outcome.state rest

/-- The clock goes on and does not run out. -/
def Steady (observations : List Observation) : Prop :=
  observations.Pairwise (fun earlier later => earlier.nowUs ≤ later.nowUs) ∧
    ∀ observation ∈ observations, observation.nowUs.toNat + 60000000 < 2 ^ 64

theorem Steady.tail {observation : Observation} {rest : List Observation}
    (steady : Steady (observation :: rest)) : Steady rest :=
  ⟨steady.1.of_cons, fun later member => steady.2 later (List.mem_cons_of_mem _ member)⟩

/-- A path that was learned anew at a time does not count anything against itself before the
minute is over. -/
structure Cooling (time : Nat) (nowUs : UInt64) (state : AnalogState) : Prop where
  cooled : time + 60000000 ≤ state.driftCooldownUntilUs.toNat
  since : state.driftExceededSinceUs = 0 ∨
    time + 60000000 ≤ state.driftExceededSinceUs.toNat ∧ state.driftExceededSinceUs ≤ nowUs

theorem cooling_relearn {nowUs : UInt64} (room : nowUs.toNat + 60000000 < 2 ^ 64)
    (unixSeconds : UInt64) (state : AnalogState) :
    Cooling nowUs.toNat nowUs (relearn nowUs unixSeconds state) where
  cooled := by
    rw [relearn, UInt64.toNat_add]
    exact (Nat.mod_eq_of_lt room).ge
  since := Or.inl rfl

theorem exceeds_cooled {nowUs : UInt64} {state : AnalogState} (off : exceeds nowUs state = true) :
    state.driftCooldownUntilUs ≤ nowUs :=
  (of_decide_eq_true off).1

theorem drifts_late {nowUs : UInt64} {state : AnalogState} (shifted : drifts nowUs state = true) :
    exceeds nowUs state = true ∧ 10000000 ≤ nowUs - exceededSince nowUs state := by
  rw [drifts, Bool.and_eq_true] at shifted
  exact ⟨shifted.1, of_decide_eq_true shifted.2⟩

theorem cooling_observe {time : Nat} {before : UInt64} {state : AnalogState}
    (cooling : Cooling time before state) {observation : Observation}
    (later : before ≤ observation.nowUs) (room : observation.nowUs.toNat + 60000000 < 2 ^ 64) :
    Cooling time observation.nowUs (observe root observation state).state ∧
      ((observe root observation state).relearned = true →
        time + 70000000 ≤ observation.nowUs.toNat) := by
  have stays : state.driftExceededSinceUs = 0 ∨ time + 60000000 ≤
      state.driftExceededSinceUs.toNat ∧ state.driftExceededSinceUs ≤ observation.nowUs :=
    cooling.since.imp_right fun both => ⟨both.1, UInt64.le_trans both.2 later⟩
  have past (off : state.driftCooldownUntilUs ≤ observation.nowUs) :
      time + 60000000 ≤ observation.nowUs.toNat :=
    cooling.cooled.trans (UInt64.le_iff_toNat_le.mp off)
  have seen := observe_observed root observation state
  generalize observe root observation state = outcome at seen ⊢
  cases seen with
  | away moving => exact ⟨⟨cooling.cooled, stays⟩, fun absent => absurd absent Bool.false_ne_true⟩
  | learned resting unready enough =>
    exact ⟨⟨cooling.cooled, stays⟩, fun absent => absurd absent Bool.false_ne_true⟩
  | learning resting unready =>
    exact ⟨⟨cooling.cooled, stays⟩, fun absent => absurd absent Bool.false_ne_true⟩
  | kept resting ready since pending watched =>
    refine ⟨⟨cooling.cooled, ?_⟩, fun absent => absurd absent Bool.false_ne_true⟩
    rcases watched with zero | ⟨off, start⟩
    · exact Or.inl zero
    · dsimp only
      have quiet := exceeds_cooled off
      have gone := past quiet
      rw [start, exceededSince]
      split_ifs with unset
      · exact Or.inr ⟨gone, UInt64.le_refl _⟩
      · exact stays
  | drifted resting ready shifted =>
    obtain ⟨off, waited⟩ := drifts_late shifted
    have start : time + 70000000 ≤ observation.nowUs.toNat := by
      change 10000000 ≤ observation.nowUs - exceededSince observation.nowUs state at waited
      rw [exceededSince] at waited
      split_ifs at waited with unset
      · rw [UInt64.sub_self] at waited
        exact absurd waited (by decide)
      · obtain zero | ⟨since, bounded⟩ := stays
        · exact absurd zero unset
        · rw [UInt64.le_iff_toNat_le, UInt64.toNat_sub_of_le _ _ bounded] at waited
          have ten : (10000000 : UInt64).toNat = 10000000 := rfl
          omega
    obtain ⟨cooled, since⟩ := cooling_relearn room observation.unixSeconds
      (creditRest observation (meet observation state))
    exact ⟨⟨(by omega : time + 60000000 ≤ observation.nowUs.toNat + 60000000).trans cooled,
      Or.inl rfl⟩, fun _ => start⟩

theorem relearnTimes_late {time : Nat} {before : UInt64} {observations : List Observation}
    {state : AnalogState} (cooling : Cooling time before state) (steady : Steady observations)
    (after : ∀ observation ∈ observations, before ≤ observation.nowUs) :
    ∀ again ∈ relearnTimes root state observations, time + 70000000 ≤ again := by
  induction observations generalizing before state with
  | nil => exact fun again member => absurd member List.not_mem_nil
  | cons observation rest inductionHypothesis =>
    obtain ⟨cools, late⟩ := cooling_observe root cooling (after observation List.mem_cons_self)
      (steady.2 observation List.mem_cons_self)
    have follow := inductionHypothesis cools steady.tail (List.pairwise_cons.mp steady.1).1
    rw [relearnTimes]
    split_ifs with anew
    · exact List.forall_mem_cons.mpr ⟨late anew, follow⟩
    · exact follow

end Learning

/-- A trigger that rests at a value. -/
def triggerBody (value : Rat) : Body where
  axisRole := .unpaired
  deviceSerialHash := 1
  path := ascii "/input/trigger/value"
  lastValue := value
  scalarRangeInitialized := true
  observedMax := 1

def triggerAt (value : Rat) (nowUs : UInt64) : Observation where
  body := triggerBody value
  partnerValue := none
  buttonsQuiet := true
  burst := true
  nowUs := nowUs
  unixSeconds := 0

section Learning

variable (root : Rat → Rat)

/-! ### What a path learns from -/

theorem spend_eq (value : Rat) (credit : Nat) (rest : WelfordState) :
    spend value credit rest =
      (rest.addAll (List.replicate (credit / 2) value), credit % 2) := by
  induction credit, rest using spend.induct value with
  | case1 credit rest inductionHypothesis =>
    have half : credit.succ.succ / 2 = credit / 2 + 1 := Nat.add_div_right credit two_pos
    have odd : credit.succ.succ % 2 = credit % 2 := Nat.add_mod_right credit 2
    rw [spend, inductionHypothesis, half, odd, List.replicate_succ]
    rfl
  | case2 credit rest few =>
    have small : credit < 2 := by
      by_contra large
      obtain ⟨more, rfl⟩ := Nat.exists_eq_add_of_le (not_lt.mp large)
      exact few more (Nat.add_comm 2 more)
    rw [spend, Nat.div_eq_of_lt small, Nat.mod_eq_of_lt small]
    · rfl
    · exact few

/-- The samples of a path since it was last learned anew: those its record counts, as zeros, and
those credited. -/
structure Trace where
  seed : Nat
  credited : List Rat := []

def Trace.values (trace : Trace) : List Rat :=
  List.replicate trace.seed 0 ++ trace.credited

/-- The samples that a tick credits. -/
def credits (observation : Observation) (state : AnalogState) : List Rat :=
  if observation.rest then
    List.replicate ((state.restCredit + observation.gain) / 2) observation.body.lastValue
  else []

def follow (trace : Trace) (state : AnalogState) (observation : Observation) : Trace :=
  if (observe root observation state).relearned then { seed := 0 }
  else { trace with credited := trace.credited ++ credits observation state }

/-- The samples of a path after a list of ticks. -/
def traceOf (trace : Trace) (state : AnalogState) (observations : List Observation) : Trace :=
  match observations with
  | [] => trace
  | observation :: rest =>
    traceOf (follow root trace state observation) (observe root observation state).state rest

/-- The samples a ready path was learned from. -/
structure LearnedFrom (seen : List Rat) (state : AnalogState) : Prop where
  enough : 1024 ≤ seen.length
  offset : state.learnedRestOffset = mean seen
  spread : state.learnedStddev = root (deviations seen / (seen.length - 1 : Nat))
  small : state.learnedStddev < 5 / 100

structure Traced (trace : Trace) (state : AnalogState) : Prop where
  rest : state.rest = Moments.none.addAll trace.values
  learned : state.ready = true →
    ∃ seen, seen <+: trace.values ∧ LearnedFrom root seen state

theorem creditRest_rest (observation : Observation) (state : AnalogState)
    (resting : observation.rest = true) :
    (creditRest observation (meet observation state)).rest =
      state.rest.addAll (credits observation state) := by
  rw [creditRest, spend_eq, credits, if_pos resting]
  rfl

theorem values_append (trace : Trace) (values : List Rat) :
    Trace.values { trace with credited := trace.credited ++ values } = trace.values ++ values :=
  (List.append_assoc _ _ _).symm

/-- The scalar snapshots of the driver are not boolean. -/
def Observation.analog (observation : Observation) : Prop :=
  observation.body.isBoolean = false

theorem threshold_analog {observation : Observation} (analog : observation.analog) :
    Presses.readyThreshold observation.kind = 1024 := by
  rw [Observation.kind, kindForBody, analog, if_neg Bool.false_ne_true]
  cases observation.body.axisRole with
  | unpaired => rfl
  | stickX => rfl
  | stickY => rfl

theorem becomesReady_iff {observation : Observation} {state : AnalogState} :
    becomesReady root observation state = true ↔
      (Presses.readyThreshold state.kind).toNat ≤ state.rest.count ∧
        sampleStdDev root state.rest < observation.limit :=
  decide_eq_true_iff

theorem limit_le (observation : Observation) : observation.limit ≤ 5 / 100 := by
  rw [Observation.limit]
  split_ifs
  · exact le_refl _
  · norm_num

theorem sampleStdDev_addAll {values : List Rat} (several : 2 ≤ values.length) :
    sampleStdDev root (Moments.none.addAll values) =
      root (deviations values / (values.length - 1 : Nat)) := by
  have nonempty : values ≠ [] := List.ne_nil_of_length_pos (by omega)
  rw [sampleStdDev, sampleVariance, addAll_none nonempty, if_neg (not_lt.mpr several)]

theorem LearnedFrom.of_same {seen : List Rat} {before after : AnalogState}
    (learned : LearnedFrom root seen before)
    (offset : after.learnedRestOffset = before.learnedRestOffset)
    (spread : after.learnedStddev = before.learnedStddev) : LearnedFrom root seen after :=
  ⟨learned.enough, offset.trans learned.offset, spread.trans learned.spread,
    spread.trans_lt learned.small⟩

theorem traced_observe {trace : Trace} {state : AnalogState} (traced : Traced root trace state)
    {observation : Observation} (analog : observation.analog) :
    Traced root (follow root trace state observation)
      (observe root observation state).state := by
  obtain ⟨rest, learned⟩ := traced
  rw [follow]
  have seen := observe_observed root observation state
  generalize observe root observation state = outcome at seen ⊢
  have grown (resting : observation.rest = true) :
      (creditRest observation (meet observation state)).rest =
        Moments.none.addAll (trace.values ++ credits observation state) := by
    rw [creditRest_rest observation state resting, rest, addAll_append]
  cases seen with
  | away moving =>
    rw [if_neg Bool.false_ne_true, credits, moving, if_neg Bool.false_ne_true, List.append_nil]
    refine ⟨rest, fun ready => ?_⟩
    obtain ⟨seen, inside, source⟩ := learned ready
    exact ⟨seen, inside, source.of_same root rfl rfl⟩
  | drifted resting ready shifted =>
    rw [if_pos rfl]
    exact ⟨rfl, fun ready => absurd ready Bool.false_ne_true⟩
  | kept resting ready since pending watched =>
    rw [if_neg Bool.false_ne_true]
    refine ⟨(grown resting).trans (congrArg _ (values_append _ _).symm), fun ready => ?_⟩
    obtain ⟨seen, inside, source⟩ := learned ready
    rw [values_append]
    exact ⟨seen, inside.trans (List.prefix_append _ _), source.of_same root rfl rfl⟩
  | learned resting unready enough =>
    rw [if_neg Bool.false_ne_true]
    refine ⟨(grown resting).trans (congrArg _ (values_append _ _).symm), fun _ => ?_⟩
    obtain ⟨counted, small⟩ := (becomesReady_iff root).mp enough
    have threshold : Presses.readyThreshold
        (creditRest observation (meet observation state)).kind = 1024 := threshold_analog analog
    rw [threshold, grown resting, count_addAll] at counted
    have many : 1024 ≤ (trace.values ++ credits observation state).length := by
      have zero : (Moments.none : WelfordState).count = 0 := rfl
      have bound : (1024 : UInt64).toNat = 1024 := rfl
      omega
    have nonempty := List.ne_nil_of_length_pos (Nat.lt_of_lt_of_le (by decide) many)
    rw [values_append]
    refine ⟨_, List.prefix_refl _, many, ?_, ?_, small.trans_le (limit_le observation)⟩
    · rw [learnRest, grown resting, addAll_none nonempty]
    · rw [learnRest, grown resting, sampleStdDev_addAll root (by omega)]
  | learning resting unready =>
    rw [if_neg Bool.false_ne_true]
    refine ⟨(grown resting).trans (congrArg _ (values_append _ _).symm), fun ready => ?_⟩
    exact absurd (unready.symm.trans ready) Bool.false_ne_true

theorem traced_session {trace : Trace} {state : AnalogState} (traced : Traced root trace state)
    {observations : List Observation}
    (analog : ∀ observation ∈ observations, observation.analog) :
    Traced root (traceOf root trace state observations) (session root state observations) := by
  induction observations generalizing trace state with
  | nil => exact traced
  | cons observation rest inductionHypothesis =>
    obtain ⟨first, others⟩ := List.forall_mem_cons.mp analog
    exact inductionHypothesis (traced_observe root traced first) others

/-- What a record counts for when its path is learned on. -/
def seedOf (record : LearnedPathRecord Rat) : Trace where
  seed := if record.sampleCount > 1 then record.sampleCount.toNat else 0

theorem traced_ofRecord {record : LearnedPathRecord Rat} (unready : record.ready = false)
    (offset : record.learnedRestOffset = 0) (spread : record.learnedStddev = 0) :
    Traced root (seedOf record) (ofRecord record) where
  learned := fun ready => absurd (unready.symm.trans ready) Bool.false_ne_true
  rest := by
    rw [ofRecord, seedOf, Trace.values, List.append_nil, offset, spread]
    dsimp only
    split_ifs with several
    · have many : 1 < record.sampleCount.toNat := UInt64.lt_iff_toNat_lt.mp several
      have nonempty : List.replicate record.sampleCount.toNat (0 : Rat) ≠ [] :=
        List.ne_nil_of_length_pos (by rw [List.length_replicate]; omega)
      rw [addAll_none nonempty, List.length_replicate, mean, List.sum_replicate, smul_zero,
        zero_div, deviations, mean, List.sum_replicate, smul_zero, zero_div, List.map_replicate,
        List.sum_replicate]
      norm_num
    · rfl

/-- A path that was not ready goes on after a restart as if all its samples before had been
zero: they count, and they pull what it learns towards zero. -/
theorem restarted_rest {record : LearnedPathRecord Rat} (unready : record.ready = false)
    (offset : record.learnedRestOffset = 0) (spread : record.learnedStddev = 0)
    {observations : List Observation}
    (analog : ∀ observation ∈ observations, observation.analog) :
    Traced root (traceOf root (seedOf record) (ofRecord record) observations)
      (session root (ofRecord record) observations) :=
  traced_session root (traced_ofRecord root unready offset spread) analog

end Learning

/-- The record of a trigger of which two samples had been counted. -/
def countedRecord : LearnedPathRecord Rat where
  path := ascii "/input/trigger/value"
  kind := ascii "scalar_single"
  sampleCount := 2
  ready := false
  learnedRestOffset := 0
  learnedStddev := 0
  learnedTriggerMin := 0
  learnedTriggerMax := 0
  learnedDeadzoneRadius := 0
  learnedDebounceUs := 0
  lastUpdatedUnix := 0
  driftShiftResets := 0

theorem restarted_rest_trigger :
    (session (fun _ => 0) (ofRecord countedRecord)
        [triggerAt (1 / 25) 1, triggerAt (1 / 25) 2]).rest = ⟨4, 1 / 50, 1 / 625⟩ ∧
      Traced (fun _ => 0)
        (traceOf (fun _ => 0) (seedOf countedRecord) (ofRecord countedRecord)
          [triggerAt (1 / 25) 1, triggerAt (1 / 25) 2])
        (session (fun _ => 0) (ofRecord countedRecord)
          [triggerAt (1 / 25) 1, triggerAt (1 / 25) 2]) :=
  ⟨by decide +kernel, restarted_rest _ rfl rfl rfl
    (List.forall_mem_cons.mpr ⟨rfl, List.forall_mem_cons.mpr ⟨rfl, List.forall_mem_nil _⟩⟩)⟩

section Learning

variable (root : Rat → Rat)

/-! ### The engine -/

/-- The engine with the records of its profiles. -/
structure Engine where
  states : Component → Option AnalogState := fun _ => none
  records : Component → Option (LearnedPathRecord Rat) := fun _ => none
  deviceButtonQuietUntilUs : UInt64 → Option UInt64 := fun _ => none
  restBurstActive : Bool := false

def stateFor (engine : Engine) (component : Component) : AnalogState :=
  (engine.states component).getD (((engine.records component).map ofRecord).getD freshState)

/-- A snapshot, and what the clocks and the disk answer while it is taken in. -/
structure Entry where
  handle : UInt64
  body : Body
  unixSeconds : UInt64
  syncedAt : UInt64
  saved : Bool

/-- The analog path that a snapshot counts for. -/
def analogOf (body : Body) : Option Component :=
  if body.isScalar = false ∨ body.deviceSerialHash = 0 ∨ pathFromBody body = [] then none
  else if isCompensationPath (classifyInputPath (pathFromBody body)) then
    some (body.deviceSerialHash, pathFromBody body)
  else none

/-- What a snapshot and the others of its tick bring to the path. -/
def observationOf (nowUs : UInt64) (entries : List Entry) (engine : Engine) (entry : Entry) :
    Observation where
  body := entry.body
  partnerValue :=
    (entries.find? fun other => other.handle = entry.body.partnerHandle).map
      fun other => other.body.lastValue
  buttonsQuiet :=
    (engine.deviceButtonQuietUntilUs entry.body.deviceSerialHash).all fun quiet => quiet ≤ nowUs
  burst := engine.restBurstActive
  nowUs := nowUs
  unixSeconds := entry.unixSeconds

def putState (engine : Engine) (component : Component) (state : AnalogState) : Engine :=
  { engine with states := Function.update engine.states component (some state) }

/-- The record follows the state, every five seconds or at once. -/
def syncProfile (component : Component) (state : AnalogState) (immediate : Bool)
    (syncedAt : UInt64) (saved : Bool) (engine : Engine) : Engine :=
  if !immediate && state.lastPersistUs != 0 && syncedAt - state.lastPersistUs < 5000000 then
    putState engine component state
  else
    putState { engine with
      records := Function.update engine.records component
        (some (recordOf component.2 state.toPathState)) } component
      { state with lastPersistUs := if saved then syncedAt else state.lastPersistUs }

/-- The part of a tick that takes in the snapshot of an analog input. -/
def tickEntry (nowUs : UInt64) (entries : List Entry) (engine : Engine) (entry : Entry) :
    Engine :=
  match analogOf entry.body with
  | none => engine
  | some component =>
    let outcome := observe root (observationOf nowUs entries engine entry)
      (stateFor engine component)
    match outcome.sync with
    | none => putState engine component outcome.state
    | some immediate =>
      syncProfile component outcome.state immediate entry.syncedAt entry.saved engine

/-- What happens to the engine. The presses of a button keep its device from being quiet. -/
inductive Event where
  | tick (nowUs : UInt64) (entries : List Entry)
  | pressed (serial quietUntil : UInt64)
  | burst (active : Bool)
  | unlearnPath (component : Component)
  | unlearnDevice (serial : UInt64)
  | flush (syncedAt : UInt64) (saved : Component → Bool)
  | restart

/-- `Flush` writes the record of every state. -/
def flush (syncedAt : UInt64) (saved : Component → Bool) (engine : Engine) : Engine :=
  { engine with
    states := fun component => (engine.states component).map fun state =>
      { state with
        lastPersistUs := if saved component then syncedAt else state.lastPersistUs }
    records := fun component =>
      ((engine.states component).map fun state => recordOf component.2 state.toPathState).or
        (engine.records component) }

def step (engine : Engine) : Event → Engine
  | .tick nowUs entries => entries.foldl (tickEntry root nowUs entries) engine
  | .pressed serial quietUntil =>
    { engine with
      deviceButtonQuietUntilUs :=
        Function.update engine.deviceButtonQuietUntilUs serial (some quietUntil) }
  | .burst active => { engine with restBurstActive := active }
  | .unlearnPath component =>
    { engine with
      states := Function.update engine.states component none
      records := Function.update engine.records component none }
  | .unlearnDevice serial =>
    { engine with
      states := fun component => if component.1 = serial then none else engine.states component
      records := fun component => if component.1 = serial then none else engine.records component }
  | .flush syncedAt saved => flush syncedAt saved engine
  | .restart => { records := engine.records }

/-- The engine after a list of events, from the records of the profiles. -/
def engineAfter (records : Component → Option (LearnedPathRecord Rat)) (events : List Event) :
    Engine :=
  events.foldl (step root) { records := records }

/-! ### What is learned is in range -/

/-- The kind that the driver gives the analog input of a path. -/
def kindOfPath (path : Text) : Kind :=
  match pathRole path with
  | .stickX => .stickX
  | .stickY => .stickY
  | .unpaired => .scalarSingle

/-- A snapshot of an analog input has the axis role of its path. -/
structure Published (body : Body) : Prop where
  analog : body.isBoolean = false
  role : body.axisRole = pathRole (pathFromBody body)

/-- What a path may have learned. -/
structure InRange (path : Text) (state : Presses.PathState Rat) : Prop where
  kind : state.ready = true → state.kind = kindOfPath path
  unready : state.ready = false → state.learnedRestOffset = 0 ∧ state.learnedStddev = 0 ∧
    state.learnedTriggerMin = 0 ∧ state.learnedTriggerMax = 0 ∧ state.learnedDeadzoneRadius = 0
  below : state.learnedRestOffset < 1 / 20
  above : isTriggerKind (kindOfPath path) path = false → -(1 / 20) < state.learnedRestOffset
  spread : 0 ≤ state.learnedStddev ∧ state.learnedStddev <
    if isTriggerKind (kindOfPath path) path then 5 / 100 else 2 / 100
  trigger : if isTriggerKind (kindOfPath path) path ∧ state.ready then
      0 ≤ state.learnedTriggerMin ∧ state.learnedTriggerMin < 1 / 20 ∧
        1 / 10 < state.learnedTriggerMax
    else state.learnedTriggerMin = 0 ∧ state.learnedTriggerMax = 0
  deadzone : if isStickKind (kindOfPath path) ∧ state.ready then
      1 / 100 ≤ state.learnedDeadzoneRadius ∧ state.learnedDeadzoneRadius ≤ 8 / 100
    else state.learnedDeadzoneRadius = 0

/-- Two states agree on what is learned. -/
structure SameLearned (before after : Presses.PathState Rat) : Prop where
  kind : after.kind = before.kind
  ready : after.ready = before.ready
  offset : after.learnedRestOffset = before.learnedRestOffset
  spread : after.learnedStddev = before.learnedStddev
  least : after.learnedTriggerMin = before.learnedTriggerMin
  greatest : after.learnedTriggerMax = before.learnedTriggerMax
  deadzone : after.learnedDeadzoneRadius = before.learnedDeadzoneRadius

theorem InRange.of_same {path : Text} {before after : Presses.PathState Rat}
    (range : InRange path before) (same : SameLearned before after) : InRange path after := by
  obtain ⟨kind, ready, offset, spread, least, greatest, deadzone⟩ := same
  obtain ⟨kinds, unready, below, above, spreads, trigger, zone⟩ := range
  constructor
  · rw [kind, ready]
    exact kinds
  · rw [ready, offset, spread, least, greatest, deadzone]
    exact unready
  · rw [offset]
    exact below
  · rw [offset]
    exact above
  · rw [spread]
    exact spreads
  · rw [ready, least, greatest]
    exact trigger
  · rw [ready, deadzone]
    exact zone

theorem inRange_cleared {path : Text} {state : Presses.PathState Rat} (ready : state.ready = false)
    (offset : state.learnedRestOffset = 0) (spread : state.learnedStddev = 0)
    (least : state.learnedTriggerMin = 0) (greatest : state.learnedTriggerMax = 0)
    (deadzone : state.learnedDeadzoneRadius = 0) : InRange path state := by
  constructor
  · exact fun absent => absurd (ready.symm.trans absent) Bool.false_ne_true
  · exact fun _ => ⟨offset, spread, least, greatest, deadzone⟩
  · rw [offset]
    norm_num
  · rw [offset]
    norm_num
  · rw [spread]
    split_ifs <;> norm_num
  · rw [ready, if_neg fun both => Bool.false_ne_true both.2]
    exact ⟨least, greatest⟩
  · rw [ready, if_neg fun both => Bool.false_ne_true both.2]
    exact deadzone

/-- The values that count as rest on a path. -/
def restBounds (path : Text) : Set Rat :=
  if isTriggerKind (kindOfPath path) path then Set.Iio (1 / 20) else Set.Ioo (-(1 / 20)) (1 / 20)

instance ordConnected_restBounds (path : Text) : (restBounds path).OrdConnected := by
  rw [restBounds]
  split_ifs
  · exact Set.ordConnected_Iio
  · exact Set.ordConnected_Ioo

theorem zero_mem_restBounds (path : Text) : 0 ∈ restBounds path := by
  rw [restBounds]
  split_ifs
  · exact Set.mem_Iio.mpr (by norm_num)
  · exact Set.mem_Ioo.mpr (by norm_num)

theorem mem_restBounds {path : Text} {value : Rat} (inside : value ∈ restBounds path) :
    value < 1 / 20 ∧ (isTriggerKind (kindOfPath path) path = false → -(1 / 20) < value) := by
  rw [restBounds] at inside
  split_ifs at inside with trigger
  · exact ⟨inside, fun no => absurd (no.symm.trans trigger) Bool.false_ne_true⟩
  · exact ⟨inside.2, fun _ => inside.1⟩

/-- An observation is of a path if the driver published its snapshot under it. -/
structure Of (path : Text) (observation : Observation) : Prop where
  named : pathFromBody observation.body = path
  kind : observation.kind = kindOfPath path

theorem Of.isTrigger {path : Text} {observation : Observation} (of : Of path observation) :
    observation.isTrigger = isTriggerKind (kindOfPath path) path := by
  rw [Observation.isTrigger, of.kind, of.named]

theorem Of.isStick {path : Text} {observation : Observation} (of : Of path observation) :
    observation.isStick = isStickKind (kindOfPath path) := by
  rw [Observation.isStick, of.kind]

theorem isTriggerKind_of_stick {kind : Kind} (stick : isStickKind kind = true) (path : Text) :
    isTriggerKind kind path = false := by
  cases kind with
  | scalarSingle => exact absurd stick Bool.false_ne_true
  | boolean => rfl
  | stickX => rfl
  | stickY => rfl

theorem Of.rest {path : Text} {observation : Observation} (of : Of path observation)
    (resting : observation.rest = true) : observation.body.lastValue ∈ restBounds path := by
  rw [Observation.rest, of.isStick, of.isTrigger] at resting
  rw [restBounds]
  split_ifs at resting with stick trigger
  · rw [isTriggerKind_of_stick stick, if_neg Bool.false_ne_true]
    obtain ⟨partner, -, both⟩ := (Option.any_eq_true _ _).mp resting
    rw [Bool.and_eq_true, Bool.and_eq_true] at both
    exact abs_lt.mp (of_decide_eq_true both.1.1)
  · rw [if_pos trigger]
    exact of_decide_eq_true resting
  · rw [if_neg trigger]
    rw [Bool.and_eq_true] at resting
    exact abs_lt.mp (of_decide_eq_true resting.1)

/-- What holds of every state of a path. -/
structure Sound (path : Text) (state : AnalogState) : Prop where
  learned : InRange path state.toPathState
  mean : state.rest.mean ∈ restBounds path
  squares : 0 ≤ state.rest.m2

theorem addAll_mean_mem {bounds : Set Rat} [bounds.OrdConnected] {rest : WelfordState}
    (before : rest.mean ∈ bounds) {values : List Rat} (inside : ∀ value ∈ values, value ∈ bounds) :
    (rest.addAll values).mean ∈ bounds := by
  induction values generalizing rest with
  | nil => exact before
  | cons value others inductionHypothesis =>
    obtain ⟨first, later⟩ := List.forall_mem_cons.mp inside
    exact inductionHypothesis (add_mean_mem before first) later

theorem inRange_meet {path : Text} {state : AnalogState} (range : InRange path state.toPathState)
    {observation : Observation} (of : Of path observation) :
    InRange path (meet observation state).toPathState :=
  ⟨fun _ => of.kind, range.unready, range.below, range.above, range.spread, range.trigger,
    range.deadzone⟩

theorem sound_creditRest {path : Text} {state : AnalogState} (sound : Sound path state)
    {observation : Observation} (of : Of path observation) (resting : observation.rest = true) :
    Sound path (creditRest observation (meet observation state)) where
  learned := (inRange_meet sound.learned of).of_same ⟨rfl, rfl, rfl, rfl, rfl, rfl, rfl⟩
  mean := by
    rw [creditRest_rest observation state resting, credits, if_pos resting]
    refine addAll_mean_mem sound.mean fun value member => ?_
    rw [List.eq_of_mem_replicate member]
    exact of.rest resting
  squares := by
    rw [creditRest_rest observation state resting]
    exact addAll_m2_nonneg sound.squares _

theorem clampDouble_mem {value lo hi : Rat} (ordered : lo ≤ hi) :
    lo ≤ clampDouble value lo hi ∧ clampDouble value lo hi ≤ hi :=
  ⟨le_max_left _ _, max_le ordered (min_le_right _ _)⟩

theorem sound_learnRest (nonneg : ∀ x, 0 ≤ x → 0 ≤ root x) {path : Text} {state : AnalogState}
    (sound : Sound path state) (unready : state.ready = false) {observation : Observation}
    (of : Of path observation) (kind : state.kind = kindOfPath path)
    (enough : becomesReady root observation state = true) :
    Sound path (learnRest root observation state) where
  mean := sound.mean
  squares := sound.squares
  learned := by
    obtain ⟨-, small⟩ := (becomesReady_iff root).mp enough
    obtain ⟨-, -, least, greatest, zone⟩ := sound.learned.unready unready
    obtain ⟨below, above⟩ := mem_restBounds sound.mean
    have trigger := of.isTrigger
    have stick := of.isStick
    have variance : 0 ≤ sampleVariance state.rest := by
      rw [sampleVariance]
      split_ifs
      · exact le_refl _
      · exact div_nonneg sound.squares (Nat.cast_nonneg _)
    constructor
    · exact fun _ => kind
    · exact fun absent => absurd absent Bool.true_eq_false.mp
    · exact below
    · exact above
    · refine ⟨nonneg _ variance, ?_⟩
      rw [Observation.limit, trigger] at small
      exact small
    · rw [learnRest]
      dsimp only
      rw [trigger, least, greatest]
      cases isTriggerKind (kindOfPath path) path with
      | false =>
        rw [if_neg fun both => Bool.false_ne_true both.1]
        exact ⟨if_neg Bool.false_ne_true, if_neg Bool.false_ne_true⟩
      | true =>
        rw [if_pos ⟨rfl, rfl⟩, if_pos rfl, if_pos rfl]
        refine ⟨(clampDouble_mem (by norm_num)).1,
          max_lt (by norm_num) ((min_le_left _ _).trans_lt below), ?_⟩
        split_ifs with pulled
        · exact pulled
        · norm_num
    · rw [learnRest]
      dsimp only
      rw [stick, zone]
      cases isStickKind (kindOfPath path) with
      | false =>
        rw [if_neg fun both => Bool.false_ne_true both.1]
        exact if_neg Bool.false_ne_true
      | true =>
        rw [if_pos ⟨rfl, rfl⟩, if_pos rfl]
        exact clampDouble_mem (by norm_num)

/-- A tick keeps what a path learned in range. -/
theorem sound_observe (nonneg : ∀ x, 0 ≤ x → 0 ≤ root x) {path : Text} {state : AnalogState}
    (sound : Sound path state) {observation : Observation} (of : Of path observation) :
    Sound path (observe root observation state).state := by
  have seen := observe_observed root observation state
  generalize observe root observation state = outcome at seen ⊢
  cases seen with
  | away moving =>
    exact ⟨inRange_meet sound.learned of, sound.mean, sound.squares⟩
  | drifted resting ready shifted =>
    exact ⟨inRange_cleared rfl rfl rfl rfl rfl rfl, zero_mem_restBounds path, le_refl _⟩
  | kept resting ready since pending watched =>
    obtain ⟨learned, mean, squares⟩ := sound_creditRest sound of resting
    exact ⟨learned.of_same ⟨rfl, rfl, rfl, rfl, rfl, rfl, rfl⟩, mean, squares⟩
  | learned resting unready enough =>
    exact sound_learnRest root nonneg (sound_creditRest sound of resting) unready of of.kind enough
  | learning resting unready => exact sound_creditRest sound of resting

theorem kindFromString_kindString (kind : Kind) : kindFromString (kindString kind) = kind := by
  cases kind <;> decide +kernel

theorem sound_ofRecord {path : Text} {record : LearnedPathRecord Rat}
    (range : InRange path (Presses.ofRecord record)) : Sound path (ofRecord record) := by
  refine ⟨range, ?_, ?_⟩
  · rw [ofRecord]
    dsimp only
    split_ifs
    · have below := range.below
      have above := range.above
      rw [restBounds]
      split_ifs with trigger
      · exact below
      · exact ⟨above (Bool.eq_false_iff.mpr trigger), below⟩
    · exact zero_mem_restBounds path
  · rw [ofRecord]
    dsimp only
    split_ifs
    · exact mul_nonneg (mul_self_nonneg _) (Nat.cast_nonneg _)
    · exact le_refl _

theorem inRange_recordOf {path : Text} {state : Presses.PathState Rat}
    (range : InRange path state) : InRange path (Presses.ofRecord (recordOf path state)) :=
  range.of_same ⟨kindFromString_kindString state.kind, rfl, rfl, rfl, rfl, rfl, rfl⟩

/-- Everything the engine has learned is in range. -/
structure AllSound (engine : Engine) : Prop where
  states : ∀ component state, engine.states component = some state → Sound component.2 state
  records : ∀ component record, engine.records component = some record →
    InRange component.2 (Presses.ofRecord record)

theorem sound_stateFor {engine : Engine} (sound : AllSound engine) (component : Component) :
    Sound component.2 (stateFor engine component) := by
  rw [stateFor]
  cases known : engine.states component with
  | some state => exact sound.states component state known
  | none =>
    cases recorded : engine.records component with
    | some record => exact sound_ofRecord (sound.records component record recorded)
    | none =>
      exact ⟨inRange_cleared rfl rfl rfl rfl rfl rfl, zero_mem_restBounds _, le_refl _⟩

theorem allSound_putState {engine : Engine} (sound : AllSound engine) {component : Component}
    {state : AnalogState} (new : Sound component.2 state) :
    AllSound (putState engine component state) where
  records := sound.records
  states := fun other found known => by
    change Function.update engine.states component (some state) other = some found at known
    rw [Function.update_apply] at known
    split_ifs at known with same
    · rw [same, ← Option.some.inj known]
      exact new
    · exact sound.states other found known

theorem allSound_syncProfile {engine : Engine} (sound : AllSound engine) {component : Component}
    {state : AnalogState} (new : Sound component.2 state) (immediate : Bool) (syncedAt : UInt64)
    (saved : Bool) : AllSound (syncProfile component state immediate syncedAt saved engine) := by
  have recorded : AllSound { engine with
      records := Function.update engine.records component
        (some (recordOf component.2 state.toPathState)) } := by
    refine ⟨sound.states, fun other found known => ?_⟩
    dsimp only at known
    rw [Function.update_apply] at known
    split_ifs at known with same
    · rw [same, ← Option.some.inj known]
      exact inRange_recordOf new.learned
    · exact sound.records other found known
  have persisted (time : UInt64) : Sound component.2 { state with lastPersistUs := time } :=
    ⟨new.learned.of_same ⟨rfl, rfl, rfl, rfl, rfl, rfl, rfl⟩, new.mean, new.squares⟩
  rw [syncProfile]
  split
  · exact allSound_putState sound new
  · exact allSound_putState recorded (persisted _)

/-- The snapshot of an entry is of the path it counts for. -/
theorem of_analogOf {body : Body} {component : Component} (counts : analogOf body = some component)
    (published : Published body) (observation : Observation) (carries : observation.body = body) :
    Of component.2 observation := by
  rw [analogOf] at counts
  split_ifs at counts with skipped supported
  obtain rfl := Option.some.inj counts
  refine ⟨congrArg pathFromBody carries, ?_⟩
  rw [Observation.kind, carries, kindForBody, published.analog, if_neg Bool.false_ne_true,
    published.role, kindOfPath]

theorem allSound_tickEntry (nonneg : ∀ x, 0 ≤ x → 0 ≤ root x) {engine : Engine}
    (sound : AllSound engine) (nowUs : UInt64) (entries : List Entry) {entry : Entry}
    (published : Published entry.body) :
    AllSound (tickEntry root nowUs entries engine entry) := by
  rw [tickEntry]
  cases counts : analogOf entry.body with
  | none => exact sound
  | some component =>
    have new := sound_observe root nonneg (sound_stateFor sound component)
      (of_analogOf counts published (observationOf nowUs entries engine entry) rfl)
    dsimp only
    cases (observe root (observationOf nowUs entries engine entry)
        (stateFor engine component)).sync with
    | none => exact allSound_putState sound new
    | some immediate => exact allSound_syncProfile sound new immediate entry.syncedAt entry.saved

/-- The snapshots of an event are the driver's. -/
def Event.published : Event → Prop
  | .tick _ entries => ∀ entry ∈ entries, Published entry.body
  | _ => True

theorem allSound_step (nonneg : ∀ x, 0 ≤ x → 0 ≤ root x) {engine : Engine}
    (sound : AllSound engine) {event : Event} (published : event.published) :
    AllSound (step root engine event) := by
  cases event with
  | pressed serial quietUntil => exact ⟨sound.states, sound.records⟩
  | burst active => exact ⟨sound.states, sound.records⟩
  | restart =>
    exact ⟨fun _ _ none => absurd none (Option.some_ne_none _).symm, sound.records⟩
  | tick nowUs entries =>
    rw [step]
    suffices after : ∀ rest : List Entry, (∀ entry ∈ rest, Published entry.body) →
        ∀ engine : Engine, AllSound engine →
          AllSound (rest.foldl (tickEntry root nowUs entries) engine) from
      after entries published engine sound
    intro rest
    induction rest with
    | nil => exact fun _ engine sound => sound
    | cons entry rest inductionHypothesis =>
      intro each engine sound
      obtain ⟨first, others⟩ := List.forall_mem_cons.mp each
      exact inductionHypothesis others _ (allSound_tickEntry root nonneg sound nowUs entries first)
  | unlearnPath component =>
    constructor
    · intro other found known
      change Function.update engine.states component none other = some found at known
      rw [Function.update_apply] at known
      split_ifs at known with same
      exact sound.states other found known
    · intro other found known
      change Function.update engine.records component none other = some found at known
      rw [Function.update_apply] at known
      split_ifs at known with same
      exact sound.records other found known
  | unlearnDevice serial =>
    constructor
    · intro other found known
      change (if other.1 = serial then none else engine.states other) = some found at known
      split_ifs at known with same
      exact sound.states other found known
    · intro other found known
      change (if other.1 = serial then none else engine.records other) = some found at known
      split_ifs at known with same
      exact sound.records other found known
  | flush syncedAt saved =>
    constructor
    · intro other found known
      obtain ⟨state, before, rfl⟩ := Option.map_eq_some_iff.mp known
      obtain ⟨learned, mean, squares⟩ := sound.states other state before
      exact ⟨learned.of_same ⟨rfl, rfl, rfl, rfl, rfl, rfl, rfl⟩, mean, squares⟩
    · intro other found known
      change ((engine.states other).map fun state =>
        recordOf other.2 state.toPathState).or (engine.records other) = some found at known
      rcases Option.or_eq_some_iff.mp known with fromState | ⟨-, kept⟩
      · obtain ⟨state, before, rfl⟩ := Option.map_eq_some_iff.mp fromState
        exact inRange_recordOf (sound.states other state before).learned
      · exact sound.records other found kept

/-- The records of the profiles are in range. -/
def RecordsInRange (records : Component → Option (LearnedPathRecord Rat)) : Prop :=
  ∀ component record, records component = some record →
    InRange component.2 (Presses.ofRecord record)

theorem allSound_engineAfter (nonneg : ∀ x, 0 ≤ x → 0 ≤ root x)
    {records : Component → Option (LearnedPathRecord Rat)} (inRange : RecordsInRange records)
    {events : List Event} (published : ∀ event ∈ events, event.published) :
    AllSound (engineAfter root records events) := by
  induction events using List.reverseRecOn with
  | nil => exact ⟨fun _ _ none => absurd none (Option.some_ne_none _).symm, inRange⟩
  | append_singleton events event inductionHypothesis =>
    rw [engineAfter, List.foldl_concat]
    exact allSound_step root nonneg
      (inductionHypothesis fun earlier member => published earlier (List.mem_append_left _ member))
      (published event (List.mem_append_right _ List.mem_cons_self))

/-- After any run, restarts and resets of paths included, everything a state or a record has
learned is in range. -/
theorem learned_inRange (nonneg : ∀ x, 0 ≤ x → 0 ≤ root x)
    {records : Component → Option (LearnedPathRecord Rat)} (inRange : RecordsInRange records)
    {events : List Event} (published : ∀ event ∈ events, event.published) :
    (∀ component state, (engineAfter root records events).states component = some state →
      InRange component.2 state.toPathState) ∧
    ∀ component record, (engineAfter root records events).records component = some record →
      InRange component.2 (Presses.ofRecord record) := by
  have sound := allSound_engineAfter root nonneg inRange published
  exact ⟨fun component state known => (sound.states component state known).learned,
    sound.records⟩

end Learning

/-- A trigger that was learned before. -/
def learnedRecord : LearnedPathRecord Rat where
  path := ascii "/input/trigger/value"
  kind := ascii "scalar_single"
  sampleCount := 1024
  ready := true
  learnedRestOffset := 1 / 50
  learnedStddev := 0
  learnedTriggerMin := 1 / 50
  learnedTriggerMax := 1
  learnedDeadzoneRadius := 0
  learnedDebounceUs := 0
  lastUpdatedUnix := 0
  driftShiftResets := 0

def triggerComponent : Component :=
  (1, ascii "/input/trigger/value")

def triggerRecords (component : Component) : Option (LearnedPathRecord Rat) :=
  if component = triggerComponent then some learnedRecord else none

theorem triggerRecords_inRange : RecordsInRange triggerRecords := by
  intro component record found
  rw [triggerRecords] at found
  split_ifs at found with same
  rw [← Option.some.inj found, same]
  exact ⟨by decide +kernel, by decide +kernel, by decide +kernel, by decide +kernel,
    by decide +kernel, by decide +kernel, by decide +kernel⟩

/-- A rest burst, and a tick with the trigger at rest. -/
def restBurst : List Event :=
  [.burst true, .tick 1 [⟨7, triggerBody (1 / 25), 0, 1, true⟩]]

theorem restBurst_published : ∀ event ∈ restBurst, event.published :=
  List.forall_mem_cons.mpr ⟨trivial, List.forall_mem_cons.mpr
    ⟨List.forall_mem_cons.mpr ⟨⟨rfl, by decide +kernel⟩, List.forall_mem_nil _⟩,
      List.forall_mem_nil _⟩⟩

theorem learned_inRange_trigger :
    ((engineAfter (fun _ => 0) triggerRecords restBurst).states triggerComponent).map
        (fun state => state.rest.count) = some 1025 ∧
      ∀ component state,
        (engineAfter (fun _ => 0) triggerRecords restBurst).states component = some state →
          InRange component.2 state.toPathState :=
  ⟨by decide +kernel,
    (learned_inRange _ (fun _ _ => le_refl _) triggerRecords_inRange restBurst_published).1⟩

end PairDriver.InputHealth.Rest
