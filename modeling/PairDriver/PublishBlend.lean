/-
This file follows the translation that is published from solve to solve. The moving average
steps from what was published last towards the candidate, but the filter steps from its
own copy of the estimate, which the locked path, the rapid correction and the moving
average do not keep up to date.

The step stays between the two exactly if the copy lies between the candidate and a
turning point behind what was published last.
-/

import PairDriver.SolveExits

namespace PairDriver.Incremental

open CalibrationSamples (Vec3)

/-! ### Steps between two numbers -/

def Within (first second value : Rat) : Prop :=
  min first second ≤ value ∧ value ≤ max first second

instance (first second value : Rat) : Decidable (Within first second value) :=
  inferInstanceAs (Decidable (_ ∧ _))

theorem within_right (first second : Rat) : Within first second second :=
  ⟨min_le_right _ _, le_max_right _ _⟩

/-- A step of a fraction of the way towards a target. -/
def stepTowards (start target fraction : Rat) : Rat := start + fraction * (target - start)

theorem stepTowards_strictMono (target : Rat) {fraction : Rat} (below : fraction < 1) :
    StrictMono fun start => stepTowards start target fraction := by
  intro first second less
  have room : 0 < 1 - fraction := sub_pos.mpr below
  have scaled := mul_lt_mul_of_pos_left less room
  unfold stepTowards
  linarith only [scaled]

/-- Where a step would have to start to end at the prior. -/
def turningPoint (prior candidate fraction : Rat) : Rat :=
  (prior - fraction * candidate) / (1 - fraction)

theorem stepTowards_turningPoint (prior candidate : Rat) {fraction : Rat} (below : fraction < 1) :
    stepTowards (turningPoint prior candidate fraction) candidate fraction = prior := by
  have room : 1 - fraction ≠ 0 := (sub_pos.mpr below).ne'
  unfold stepTowards turningPoint
  field_simp
  ring

theorem stepTowards_target (target fraction : Rat) :
    stepTowards target target fraction = target := by
  unfold stepTowards
  rw [sub_self, mul_zero, add_zero]

/-- A step ends between the prior and the candidate exactly if it starts between the turning point
and the candidate. -/
theorem within_stepTowards_iff (prior candidate copy : Rat) {fraction : Rat}
    (below : fraction < 1) :
    Within prior candidate (stepTowards copy candidate fraction) ↔
      Within (turningPoint prior candidate fraction) candidate copy := by
  have increasing := stepTowards_strictMono candidate below
  have least := increasing.monotone.map_min (a := turningPoint prior candidate fraction)
    (b := candidate)
  have greatest := increasing.monotone.map_max (a := turningPoint prior candidate fraction)
    (b := candidate)
  rw [stepTowards_turningPoint prior candidate below, stepTowards_target] at least greatest
  unfold Within
  rw [← least, ← greatest]
  exact and_congr increasing.le_iff_le increasing.le_iff_le

theorem within_stepTowards (prior candidate : Rat) {fraction : Rat} (nonneg : 0 ≤ fraction)
    (below : fraction < 1) : Within prior candidate (stepTowards prior candidate fraction) := by
  unfold Within stepTowards
  rcases le_total prior candidate with up | down
  · rw [min_eq_left up, max_eq_right up]
    constructor <;> nlinarith only [nonneg, below, up]
  · rw [min_eq_right down, max_eq_left down]
    constructor <;> nlinarith only [nonneg, below, down]

/-! ### The gain -/

theorem gain_mem {predicted sigma : Rat} (uncertain : 0 < predicted) (noisy : sigma ≠ 0) :
    0 < BlendFilter.gain predicted sigma ∧ BlendFilter.gain predicted sigma < 1 := by
  have noise : 0 < sigma * sigma := mul_self_pos.mpr noisy
  have total : 0 < predicted + sigma * sigma := add_pos uncertain noise
  unfold BlendFilter.gain
  exact ⟨div_pos uncertain total, (div_lt_one total).mpr (lt_add_of_pos_right _ noise)⟩

theorem predicted_pos {variance : Rat} (positive : 0 < variance) (sigma dt : Rat) :
    0 < BlendFilter.predicted variance sigma dt :=
  add_pos_of_pos_of_nonneg positive
    (mul_nonneg (mul_self_nonneg sigma) (le_max_left 0 dt))

/-- The filter is never certain of the translation. -/
def Uncertain (filter : BlendFilter) : Prop :=
  ∀ axis, 0 < filter.variance axis

theorem Uncertain.gain {filter : BlendFilter} (uncertain : Uncertain filter) (dt : Rat)
    (axis : Fin 3) : 0 < filter.translationGain dt axis ∧ filter.translationGain dt axis < 1 :=
  gain_mem (predicted_pos (uncertain axis) _ dt) (by decide +kernel)

theorem uncertain_reset : Uncertain .reset :=
  fun _ => (by decide +kernel : (0 : Rat) < 1 / 25)

theorem Uncertain.measured {filter : BlendFilter} (uncertain : Uncertain filter)
    (solvers : Solvers) (candidate : Transform) (dt : Rat) :
    Uncertain (measured solvers filter candidate dt).1 := by
  unfold Incremental.measured BlendFilter.update
  split
  · intro axis
    exact mul_pos (sub_pos.mpr (uncertain.gain dt axis).2)
      (predicted_pos (uncertain axis) BlendFilter.kSigmaPosPerSec dt)
  · exact uncertain_reset

theorem publish_uncertain (solvers : Solvers) (candidate : Candidate) {state : CalibrationCalc}
    (uncertain : Uncertain state.blendFilter) :
    Uncertain (publish solvers candidate state).blendFilter := by
  unfold publish blend snap
  dsimp only
  split
  · split
    · split
      · exact uncertain_reset
      · exact uncertain.measured solvers _ _
    · exact uncertain
  · split
    · exact uncertain_reset.measured solvers candidate.calibration 0
    · exact uncertain

theorem computeIncremental_uncertain (call : Call) {state : CalibrationCalc}
    (uncertain : Uncertain state.blendFilter) :
    Uncertain (computeIncremental call state).2.blendFilter := by
  rcases computeIncremental_cases call state with
    ⟨_, solved⟩ | ⟨_, solved⟩ | ⟨_, solved⟩ | solved
  · rw [solved]
    exact uncertain
  · rw [solved]
    exact uncertain
  · rw [solved]
    exact uncertain
  · have attempted := (attempt_intact call state).blendFilter
    have before : Uncertain (attempt call state).2.blendFilter := attempted.symm ▸ uncertain
    rcases settle_cases call (priorCalibrationError call state) (attempt call state).1
      (attempt call state).2 with ⟨_, settled⟩ | ⟨_, settled⟩
    · rw [solved, settled]
      exact publish_uncertain call.solvers _ before
    · rw [solved, settled]
      rcases reject_cases (priorCalibrationError call state) (attempt call state).2 with
        ⟨_, rejected⟩ | ⟨_, rejected⟩ | ⟨_, rejected⟩
      · rw [rejected]
        exact before
      · rw [rejected]
        exact before
      · rw [rejected]
        exact uncertain_reset

/-- Uncertainty survives every event of a run. -/
theorem step_uncertain {state after : CalibrationCalc} {event : Event}
    (uncertain : Uncertain state.blendFilter) (stepped : step state event = some after) :
    Uncertain after.blendFilter := by
  cases event with
  | computeIncremental call =>
    obtain rfl := Option.some.inj stepped
    exact computeIncremental_uncertain call uncertain
  | clear =>
    obtain rfl := Option.some.inj stepped
    exact uncertain_reset
  | pushSample sample =>
    obtain rfl := Option.some.inj stepped
    unfold CalibrationCalc.pushSample
    split
    · exact uncertain
    · exact uncertain
  | computeOneshot solvers ignoreOutliers =>
    obtain rfl := Option.some.inj stepped
    unfold Incremental.computeOneshot oneshotOnSplice
    dsimp only
    split
    · exact uncertain
    · split
      · exact uncertain
      · exact uncertain
  | configure | shiftSample | freezeRotationPhaseSamples | setRelativeTransformation =>
    obtain rfl := Option.some.inj stepped
    exact uncertain

/-! ### Published translations -/

/-- Every component lies between those of the prior and of the candidate. -/
def Between (prior candidate after : Vec3 Rat) : Prop :=
  ∀ axis, Within (prior axis) (candidate axis) (after axis)

instance (prior candidate after : Vec3 Rat) : Decidable (Between prior candidate after) :=
  inferInstanceAs (Decidable (∀ _, _))

/-- A step publishes a translation between the one before and the candidate; a first solve and a
snap publish that of the candidate. -/
def Exit.Publishes (before after : CalibrationCalc) : Exit → Prop
  | .locked calibration =>
    Between before.estimatedTransformation.translation calibration.translation
      after.estimatedTransformation.translation
  | .accepted candidate _ =>
    if before.isValid && !candidate.usingRelPose then
      Between before.estimatedTransformation.translation candidate.calibration.translation
        after.estimatedTransformation.translation
    else after.estimatedTransformation.translation = candidate.calibration.translation
  | .tooFew | .staticRejected | .rejected | .held | .cleared => True

instance (before after : CalibrationCalc) (exit : Exit) : Decidable (exit.Publishes before after) :=
  match exit with
  | .locked _ => inferInstanceAs (Decidable (Between _ _ _))
  | .accepted _ _ => inferInstanceAs (Decidable (ite _ (Between _ _ _) (_ = _)))
  | .tooFew | .staticRejected | .rejected | .held | .cleared => isTrue trivial

def PublishesBetween (call : Call) (state : CalibrationCalc) : Prop :=
  (computeIncremental call state).1.Publishes state (computeIncremental call state).2

instance (call : Call) (state : CalibrationCalc) : Decidable (PublishesBetween call state) :=
  inferInstanceAs (Decidable (Exit.Publishes _ _ _))

/-- The candidate is blended by a filter that has an estimate and does not diverge. -/
def ThroughFilter (solvers : Solvers) (candidate : Transform) (state : CalibrationCalc) : Prop :=
  let (_, yawInnov, posInnovSquared) := measured solvers state.blendFilter candidate state.filterDt
  state.useBlendFilter = true ∧ state.blendFilter.initialized = true ∧
    BlendFilter.isDivergent yawInnov posInnovSquared = false

/-- The copy of the filter lies between the candidate and the turning point. -/
def CopyInReach (candidate : Transform) (state : CalibrationCalc) : Prop :=
  ∀ axis, Within
    (turningPoint (state.estimatedTransformation.translation axis) (candidate.translation axis)
      (state.blendFilter.translationGain state.filterDt axis))
    (candidate.translation axis) (state.blendFilter.translation axis)

/-- A fresh candidate that is blended through the filter finds its copy in reach. -/
def FilterInReach (call : Call) (state : CalibrationCalc) : Prop :=
  match (computeIncremental call state).1 with
  | .accepted candidate _ =>
    (state.isValid && !candidate.usingRelPose) = true →
      ThroughFilter call.solvers candidate.calibration state →
        CopyInReach candidate.calibration state
  | _ => True

theorem emaBlend_between (solvers : Solvers) (prior candidate : Transform) :
    Between prior.translation candidate.translation
      (emaBlend solvers prior candidate).translation := by
  intro axis
  have average : prior.translation axis * (1 - alpha) + candidate.translation axis * alpha =
      stepTowards (prior.translation axis) (candidate.translation axis) alpha := by
    unfold stepTowards
    ring
  show Within _ _ (prior.translation axis * (1 - alpha) + candidate.translation axis * alpha)
  rw [average]
  exact within_stepTowards _ _ (by decide +kernel) (by decide +kernel)

/-- The blend stays between the prior and the candidate exactly if it does not go through a filter
whose copy is out of reach. -/
theorem blend_between_iff (solvers : Solvers) (candidate : Transform) {state : CalibrationCalc}
    (uncertain : Uncertain state.blendFilter) :
    Between state.estimatedTransformation.translation candidate.translation
        (blend solvers candidate state).estimatedTransformation.translation ↔
      (ThroughFilter solvers candidate state → CopyInReach candidate state) := by
  unfold blend ThroughFilter
  dsimp only
  cases filtered : state.useBlendFilter with
  | false =>
    rw [if_neg Bool.false_ne_true]
    exact iff_of_true (emaBlend_between solvers _ _) fun through => nomatch through.1
  | true =>
    rw [if_pos rfl]
    cases diverges : BlendFilter.isDivergent
        (measured solvers state.blendFilter candidate state.filterDt).2.1
        (measured solvers state.blendFilter candidate state.filterDt).2.2 with
    | true =>
      rw [if_pos rfl]
      exact iff_of_true (emaBlend_between solvers _ _) fun through => nomatch through.2.2
    | false =>
      rw [if_neg Bool.false_ne_true]
      dsimp only
      unfold Incremental.measured BlendFilter.update
      cases seeded : state.blendFilter.initialized with
      | false =>
        rw [if_neg Bool.false_ne_true]
        exact iff_of_true (fun axis => within_right _ _) fun through => nomatch through.2.1
      | true =>
        rw [if_pos rfl]
        have steps : (∀ axis, Within (state.estimatedTransformation.translation axis)
            (candidate.translation axis)
            (stepTowards (state.blendFilter.translation axis) (candidate.translation axis)
              (state.blendFilter.translationGain state.filterDt axis))) ↔
            CopyInReach candidate state :=
          forall_congr' fun axis => within_stepTowards_iff _ _ _ (uncertain.gain _ axis).2
        exact steps.trans ⟨fun inReach _ => inReach, fun inReach => inReach ⟨rfl, rfl, rfl⟩⟩

/-- A snap publishes the candidate. -/
theorem snap_translation (solvers : Solvers) (candidate : Transform) (usingRelPose : Bool)
    (state : CalibrationCalc) :
    (snap solvers candidate usingRelPose state).estimatedTransformation = candidate := by
  unfold snap
  dsimp only
  split
  · rfl
  · rfl

theorem accept_publishes_iff (call : Call) (candidate : Candidate) (lerp : Bool)
    {state : CalibrationCalc} (uncertain : Uncertain state.blendFilter)
    (rotationRatio translationRatio : Double) (tag : String) :
    (Exit.accepted candidate lerp).Publishes state (accept call candidate
        { state with
          rotationConditionRatio := rotationRatio
          translationConditionRatio := translationRatio
          rejectReasonTag := tag }) ↔
      ((state.isValid && !candidate.usingRelPose) = true →
        ThroughFilter call.solvers candidate.calibration state →
          CopyInReach candidate.calibration state) := by
  unfold Exit.Publishes accept publish
  dsimp only
  cases blends : state.isValid && !candidate.usingRelPose with
  | true =>
    rw [if_pos rfl, if_pos rfl]
    have same : Uncertain ({ state with
        rotationConditionRatio := rotationRatio
        translationConditionRatio := translationRatio
        rejectReasonTag := tag
        relativePosCalibrated := state.relativePosCalibrated ||
          decide (candidate.newError < .finite (5 / 1000)) } : CalibrationCalc).blendFilter :=
      uncertain
    have between := blend_between_iff call.solvers candidate.calibration same
    exact between.trans ⟨fun inReach _ => inReach, fun inReach => inReach rfl⟩
  | false =>
    rw [if_neg Bool.false_ne_true, if_neg Bool.false_ne_true, snap_translation]
    exact iff_of_true rfl nofun

/-- A solve publishes a translation between the one before and the candidate exactly if it finds the
copy of the filter in reach where it uses it. -/
theorem publishesBetween_iff (call : Call) {state : CalibrationCalc}
    (uncertain : Uncertain state.blendFilter) :
    PublishesBetween call state ↔ FilterInReach call state := by
  unfold PublishesBetween FilterInReach
  rcases computeIncremental_cases call state with
    ⟨_, solved⟩ | ⟨_, solved⟩ | ⟨_, solved⟩ | solved
  · rw [solved]
    exact iff_of_true trivial trivial
  · rw [solved]
    exact iff_of_true (fun axis => within_right _ _) trivial
  · rw [solved]
    exact iff_of_true trivial trivial
  · obtain ⟨rotationRatio, translationRatio, tag, attempted⟩ := attempt_state call state
    rcases settle_cases call (priorCalibrationError call state) (attempt call state).1
      (attempt call state).2 with ⟨_, settled⟩ | ⟨_, settled⟩
    · rw [solved, settled, attempted]
      exact accept_publishes_iff call _ _ uncertain _ _ _
    · rw [solved, settled]
      rcases reject_exit (priorCalibrationError call state) (attempt call state).2 with
        exit | exit | exit
      all_goals
        rw [exit]
        exact iff_of_true trivial trivial

/-- Over all runs of a solver, with the blend filter on or off from call to call, a solve publishes
a translation between the one before and the candidate exactly if the filter it blends through holds
a copy in reach. -/
theorem published_stays_between (uninitialized : Transform) {state : CalibrationCalc}
    (reached : Reaches step (fun _ _ => True) { estimatedTransformation := uninitialized } state)
    (call : Call) : PublishesBetween call state ↔ FilterInReach call state := by
  refine publishesBetween_iff call ?_
  induction reached with
  | start => exact uncertain_reset
  | next event _ _ stepped inductionHypothesis => exact step_uncertain inductionHypothesis stepped

/-! ### Runs -/

/-- Solvers without error that put the relative pose and the fresh solve at places of the first
axis. -/
def placingSolvers (relative fresh : Rat) : Solvers :=
  { measuringSolvers relative fresh (.finite 1) with
    retargetingErrorRMS := fun _ _ _ => .finite 0 }

def solveAt (relative fresh : Rat) : Call := continuousCall (placingSolvers relative fresh)

/-- With the filter on, a first solve at rest seeds it, and a second one follows. -/
def filtered : List Event :=
  .configure false false true :: List.replicate 6 (.pushSample stillSample) ++
    [.computeIncremental (solveAt 0 0), .computeIncremental (solveAt 0 0)]

/-- After the two solves the copy is what was published. -/
theorem published_stays_between_filtered : ∃ state,
    Reaches step (fun _ _ => True) { estimatedTransformation := .identity } state ∧
    state.blendFilter.initialized = true ∧ FilterInReach (solveAt 0 (1 / 5)) state := by
  obtain ⟨state, reached, seeded, between⟩ : ∃ state,
      Reaches step (fun _ _ => True) { estimatedTransformation := .identity } state ∧
      (state.blendFilter.initialized = true ∧ PublishesBetween (solveAt 0 (1 / 5)) state) :=
    reaches_evaluates filtered (by decide +kernel)
  exact ⟨state, reached, seeded, (published_stays_between .identity reached _).mp between⟩

/-- A pose under the lock is published twenty centimetres on, where the next fresh candidate is as
well: the filter publishes a translation half the way back to its own copy. -/
theorem filter_leaves_between : ∃ state,
    run step { estimatedTransformation := .identity } (filtered ++
      [.configure false true true, .computeIncremental (solveAt (1 / 5) 0),
        .configure false false true]) = some state ∧
    (state.estimatedTransformation.translation 0 = 1 / 5 ∧
      ((computeIncremental (solveAt 0 (1 / 5)) state).2.estimatedTransformation.translation 0 <
        3 / 20) ∧
      ¬PublishesBetween (solveAt 0 (1 / 5)) state) := by
  exact run_evaluates (by decide +kernel)

end PairDriver.Incremental
