/-
This file is about the speed level of a device, which the pose hook chooses at every
update from the distance between the active and the target transform.

The level is to fall only once the distance is under the tiny thresholds. The hook
compares with the small ones, so it falls earlier. Between two requests for a device
an update keeps the hysteresis exactly if it finds the level already tiny, or a
distance above a small threshold, or both under the tiny ones.
-/

import PairDriver.PoseHookRace

namespace PairDriver.Provider

/-! ### Levels -/

def DeltaSize.rank : DeltaSize → Nat
  | .tiny => 0
  | .small => 1
  | .large => 2

/-- The thresholds of translation and of rotation are in order. -/
structure AlignmentSpeedParams.Ordered (params : AlignmentSpeedParams) : Prop where
  trans_small : params.thrTransTiny ≤ params.thrTransSmall
  trans_large : params.thrTransSmall ≤ params.thrTransLarge
  rot_small : params.thrRotTiny ≤ params.thrRotSmall
  rot_large : params.thrRotSmall ≤ params.thrRotLarge

/-- The level of a distance of its own. -/
def deltaLevel (small large delta : Rat) : DeltaSize :=
  if large < delta then .large else if small < delta then .small else .tiny

/-- The two distances an update measures. -/
structure Deltas where
  trans : Rat
  rot : Rat
deriving DecidableEq

/-- What `GetTransformDeltaSize` makes of the distances. -/
def Deltas.level (params : AlignmentSpeedParams) (prior : DeltaSize) (deltas : Deltas) :
    DeltaSize :=
  let transLevel := deltaLevel params.thrTransSmall params.thrTransLarge deltas.trans
  let rotLevel := deltaLevel params.thrRotSmall params.thrRotLarge deltas.rot
  if transLevel = .tiny ∧ rotLevel = .tiny then .tiny
  else prior.max (transLevel.max rotLevel)

/-- A distance exceeds its large threshold. -/
def Deltas.AboveLarge (params : AlignmentSpeedParams) (deltas : Deltas) : Prop :=
  params.thrTransLarge < deltas.trans ∨ params.thrRotLarge < deltas.rot

/-- A distance exceeds its small threshold. -/
def Deltas.AboveSmall (params : AlignmentSpeedParams) (deltas : Deltas) : Prop :=
  params.thrTransSmall < deltas.trans ∨ params.thrRotSmall < deltas.rot

/-- Neither distance exceeds its tiny threshold. -/
def Deltas.UnderTiny (params : AlignmentSpeedParams) (deltas : Deltas) : Prop :=
  deltas.trans ≤ params.thrTransTiny ∧ deltas.rot ≤ params.thrRotTiny

/-- The level falls only under the tiny thresholds, and it rises to large or to small exactly if a
distance exceeds the large, or else the small, threshold. -/
structure Hysteresis (params : AlignmentSpeedParams) (prior level : DeltaSize) (deltas : Deltas) :
    Prop where
  falls : level.rank < prior.rank → deltas.UnderTiny params
  risesLarge : prior ≠ .large → (level = .large ↔ deltas.AboveLarge params)
  risesSmall : prior = .tiny →
    (level = .small ↔ deltas.AboveSmall params ∧ ¬deltas.AboveLarge params)

/-- The level need not fall, or may. -/
def Deltas.Clear (params : AlignmentSpeedParams) (prior : DeltaSize) (deltas : Deltas) : Prop :=
  prior = .tiny ∨ deltas.AboveSmall params ∨ deltas.UnderTiny params

section Decisions

variable (params : AlignmentSpeedParams) (prior level : DeltaSize) (deltas : Deltas)

instance : Decidable (deltas.AboveLarge params) :=
  inferInstanceAs (Decidable (_ ∨ _))

instance : Decidable (deltas.AboveSmall params) :=
  inferInstanceAs (Decidable (_ ∨ _))

instance : Decidable (deltas.UnderTiny params) :=
  inferInstanceAs (Decidable (_ ∧ _))

instance : Decidable (deltas.Clear params prior) :=
  inferInstanceAs (Decidable (_ ∨ _ ∨ _))

instance : Decidable (Hysteresis params prior level deltas) :=
  decidable_of_iff ((level.rank < prior.rank → deltas.UnderTiny params) ∧
      (prior ≠ .large → (level = .large ↔ deltas.AboveLarge params)) ∧
      (prior = .tiny → (level = .small ↔ deltas.AboveSmall params ∧ ¬deltas.AboveLarge params)))
    ⟨fun ⟨falls, large, small⟩ => ⟨falls, large, small⟩, fun ⟨falls, large, small⟩ =>
      ⟨falls, large, small⟩⟩

end Decisions

theorem deltaLevel_large_iff {small large delta : Rat} :
    deltaLevel small large delta = .large ↔ large < delta := by
  unfold deltaLevel
  split
  · rename_i above
    exact iff_of_true rfl above
  · rename_i below
    refine iff_of_false ?_ below
    split
    · exact nofun
    · exact nofun

theorem deltaLevel_tiny_iff {small large delta : Rat} (ordered : small ≤ large) :
    deltaLevel small large delta = .tiny ↔ ¬small < delta := by
  unfold deltaLevel
  split
  · rename_i above
    exact iff_of_false nofun (not_not.mpr (ordered.trans_lt above))
  · split
    · rename_i above
      exact iff_of_false nofun (not_not.mpr above)
    · rename_i below
      exact iff_of_true rfl below

theorem DeltaSize.max_large_iff {first second : DeltaSize} :
    first.max second = .large ↔ first = .large ∨ second = .large := by
  cases first <;> cases second <;> decide

theorem DeltaSize.max_tiny_iff {first second : DeltaSize} :
    first.max second = .tiny ↔ first = .tiny ∧ second = .tiny := by
  cases first <;> cases second <;> decide

theorem DeltaSize.rank_le_max (first second : DeltaSize) :
    first.rank ≤ (first.max second).rank := by
  cases first <;> cases second <;> decide

theorem DeltaSize.small_iff (level : DeltaSize) :
    level = .small ↔ level ≠ .tiny ∧ level ≠ .large := by
  cases level <;> decide

section Levels

variable {params : AlignmentSpeedParams} (ordered : params.Ordered) (prior : DeltaSize)
variable (deltas : Deltas)

include ordered

/-- Neither distance exceeds its small threshold exactly if both levels are tiny. -/
theorem levels_tiny_iff :
    (deltaLevel params.thrTransSmall params.thrTransLarge deltas.trans = .tiny ∧
      deltaLevel params.thrRotSmall params.thrRotLarge deltas.rot = .tiny) ↔
        ¬deltas.AboveSmall params := by
  rw [deltaLevel_tiny_iff ordered.trans_large, deltaLevel_tiny_iff ordered.rot_large]
  exact not_or.symm

/-- Under the small thresholds the level is tiny, whatever it was. -/
theorem level_of_under (under : ¬deltas.AboveSmall params) : deltas.level params prior = .tiny :=
  if_pos ((levels_tiny_iff ordered deltas).mpr under)

theorem level_of_above (above : deltas.AboveSmall params) :
    deltas.level params prior =
      prior.max ((deltaLevel params.thrTransSmall params.thrTransLarge deltas.trans).max
        (deltaLevel params.thrRotSmall params.thrRotLarge deltas.rot)) :=
  if_neg fun tiny => (levels_tiny_iff ordered deltas).mp tiny above

theorem aboveSmall_of_aboveLarge (above : deltas.AboveLarge params) : deltas.AboveSmall params :=
  above.imp ordered.trans_large.trans_lt ordered.rot_large.trans_lt

/-- Below large, the level becomes large exactly if a distance exceeds its large threshold. -/
theorem level_large_iff (below : prior ≠ .large) :
    deltas.level params prior = .large ↔ deltas.AboveLarge params := by
  by_cases above : deltas.AboveSmall params
  · rw [level_of_above ordered prior deltas above, DeltaSize.max_large_iff,
      DeltaSize.max_large_iff, deltaLevel_large_iff, deltaLevel_large_iff]
    exact or_iff_right below
  · rw [level_of_under ordered prior deltas above]
    exact iff_of_false nofun fun large =>
      above (aboveSmall_of_aboveLarge ordered deltas large)

/-- A tiny level stays so exactly if no distance exceeds its small threshold. -/
theorem level_tiny_iff : deltas.level params .tiny = .tiny ↔ ¬deltas.AboveSmall params := by
  by_cases above : deltas.AboveSmall params
  · rw [level_of_above ordered .tiny deltas above, DeltaSize.max_tiny_iff,
      DeltaSize.max_tiny_iff, levels_tiny_iff ordered]
    exact and_iff_right rfl
  · exact iff_of_true (level_of_under ordered .tiny deltas above) above

/-- The hysteresis holds exactly if the level need not fall, or may. -/
theorem level_hysteresis_iff :
    Hysteresis params prior (deltas.level params prior) deltas ↔ deltas.Clear params prior := by
  constructor
  · intro hysteresis
    by_cases tiny : prior = .tiny
    · exact Or.inl tiny
    by_cases above : deltas.AboveSmall params
    · exact Or.inr (Or.inl above)
    refine Or.inr (Or.inr (hysteresis.falls ?_))
    rw [level_of_under ordered prior deltas above]
    cases prior with
    | tiny => exact absurd rfl tiny
    | small => exact Nat.zero_lt_one
    | large => exact Nat.zero_lt_two
  · intro clear
    refine ⟨fun falls => ?_, level_large_iff ordered prior deltas, ?_⟩
    · rcases clear with rfl | above | under
      · exact absurd falls (Nat.not_lt_zero _)
      · rw [level_of_above ordered prior deltas above] at falls
        exact absurd falls (DeltaSize.rank_le_max _ _).not_gt
      · exact under
    · rintro rfl
      rw [DeltaSize.small_iff, ne_eq, level_tiny_iff ordered, not_not, ne_eq,
        level_large_iff ordered .tiny deltas nofun]

end Levels

/-! ### Updates -/

section Updates

variable {Vec Rot : Type} (geo : Geometry Vec Rot) (params : AlignmentSpeedParams) (qpcFreq : Nat)

/-- The distances between the poses that the active and the target transform give a device. -/
def deltasOf (slot : DeviceTransform Vec Rot) (pose : Pose Vec Rot) : Deltas :=
  let deviceWorldPose :=
    geo.compose pose.worldFromDriver ⟨pose.rotation, geo.scaleVec slot.scale pose.position⟩
  let srcPose := geo.compose slot.transform deviceWorldPose
  let targetPose := geo.compose slot.targetTransform deviceWorldPose
  ⟨geo.distance srcPose.translation targetPose.translation,
    geo.angularDistance srcPose.rotation targetPose.rotation⟩

theorem applySlot_currentRate (now : Nat) (slot : DeviceTransform Vec Rot) (pose : Pose Vec Rot) :
    (applySlot geo params qpcFreq now slot pose).1.currentRate =
      (deltasOf geo slot pose).level params slot.currentRate :=
  rfl

/-- The slot of a disabled device with its fallback, if it has one. -/
def followed (now id : Nat) (driver : Driver Vec Rot) : Option (DeviceTransform Vec Rot) :=
  if driver.deviceSystem id = [] then none
  else (driver.enabledFallback id).map fun fallback =>
    followFallback now fallback (driver.transforms id)

/-- The device of a pose update. -/
def updates (system : System Vec Rot) : Event Vec Rot → Option Nat
  | .poseUpdated _ id _ => some id
  | .poseResumed _ index _ => system.inFlight[index]?.map Prod.fst
  | _ => none

/-- The slot and the pose that a pose update blends, if it blends one. -/
def blended (system : System Vec Rot) :
    Event Vec Rot → Option (DeviceTransform Vec Rot × Pose Vec Rot)
  | .poseUpdated now id pose =>
    let entered := enterHook geo id pose system.driver
    let current := system.driver.setTransform id entered.1
    if entered.1.quash then none
    else if entered.1.enabled then some entered
    else if needsLookup qpcFreq now id current then none
    else (followed now id current).map fun slot => (slot, entered.2)
  | .poseResumed now index query =>
    system.inFlight[index]?.bind fun (id, pose) =>
      (followed now id (storeLookup now id query system.driver)).map fun slot => (slot, pose)
  | _ => none

/-- The level of a device. -/
def System.level (system : System Vec Rot) (id : Nat) : DeltaSize :=
  (system.driver.transforms id).currentRate

/-- The update keeps the hysteresis, or measures nothing and keeps the level. -/
def KeepsHysteresis (system : System Vec Rot) (id : Nat) (event : Event Vec Rot)
    (after : System Vec Rot) : Prop :=
  match blended geo qpcFreq system event with
  | some (slot, pose) =>
    Hysteresis params (system.level id) (after.level id) (deltasOf geo slot pose)
  | none => after.level id = system.level id

/-- Whatever the update measures lets the level of the device stay, or fall. -/
def ClearUpdate (system : System Vec Rot) (id : Nat) (event : Event Vec Rot) : Prop :=
  match blended geo qpcFreq system event with
  | some (slot, pose) => (deltasOf geo slot pose).Clear params (system.level id)
  | none => True

instance (system : System Vec Rot) (id : Nat) (event : Event Vec Rot) (after : System Vec Rot) :
    Decidable (KeepsHysteresis geo params qpcFreq system id event after) := by
  unfold KeepsHysteresis
  split
  · infer_instance
  · infer_instance

/-! ### Between two requests -/

/-- The slot of a device between two requests for it: enabled it follows no fallback, disabled it
follows one only while that is enabled, and has the tiny level unless it follows one. -/
structure Settled (id : Nat) (driver : Driver Vec Rot) : Prop where
  cached : driver.deviceSystem id ≠ [] → driver.lookupState id = .cached
  exclusive : (driver.transforms id).enabled = true → (driver.transforms id).fallbackActive = false
  follows : (driver.transforms id).fallbackActive = true →
    driver.deviceSystem id ≠ [] ∧ (driver.enabledFallback id).isSome = true
  still : (driver.transforms id).enabled = false → (driver.transforms id).fallbackActive = false →
    (driver.transforms id).currentRate = .tiny

/-- What `Settled` looks at is the same in both drivers, but for the level of an active slot. -/
structure SameDevice (id : Nat) (before after : Driver Vec Rot) : Prop where
  deviceSystem_eq : after.deviceSystem id = before.deviceSystem id
  lookupState_eq : after.lookupState id = before.lookupState id
  systemFallbacks_eq : after.systemFallbacks = before.systemFallbacks
  enabled_eq : (after.transforms id).enabled = (before.transforms id).enabled
  fallbackActive_eq : (after.transforms id).fallbackActive = (before.transforms id).fallbackActive

variable {geo params qpcFreq}

theorem enabledFallback_congr {before after : Driver Vec Rot} {id : Nat}
    (name : after.deviceSystem id = before.deviceSystem id)
    (table : after.systemFallbacks = before.systemFallbacks) :
    after.enabledFallback id = before.enabledFallback id := by
  unfold Driver.enabledFallback Driver.findFallbackSlot
  rw [name, table]

theorem Settled.same {id : Nat} {before after : Driver Vec Rot} (settled : Settled id before)
    (same : SameDevice id before after)
    (level : (after.transforms id).currentRate = (before.transforms id).currentRate ∨
      (before.transforms id).enabled = true ∨ (before.transforms id).fallbackActive = true) :
    Settled id after := by
  refine ⟨?_, ?_, ?_, fun disabled inactive => ?_⟩
  · rw [same.deviceSystem_eq, same.lookupState_eq]
    exact settled.cached
  · rw [same.enabled_eq, same.fallbackActive_eq]
    exact settled.exclusive
  · rw [same.fallbackActive_eq, same.deviceSystem_eq,
      enabledFallback_congr same.deviceSystem_eq same.systemFallbacks_eq]
    exact settled.follows
  · rw [same.enabled_eq] at disabled
    rw [same.fallbackActive_eq] at inactive
    rcases level with level | enabled | active
    · rw [level]
      exact settled.still disabled inactive
    · exact absurd (enabled.symm.trans disabled) nofun
    · exact absurd (active.symm.trans inactive) nofun

theorem followFallback_fallbackActive (now : Nat) (fallback : FallbackSlot Vec Rot)
    (slot : DeviceTransform Vec Rot) :
    (followFallback now fallback slot).fallbackActive = true := by
  unfold followFallback
  dsimp only
  split
  · rename_i active
    exact active
  · rfl

theorem followFallback_currentRate {slot : DeviceTransform Vec Rot}
    (still : slot.fallbackActive = false → slot.currentRate = .tiny) (now : Nat)
    (fallback : FallbackSlot Vec Rot) :
    (followFallback now fallback slot).currentRate = slot.currentRate := by
  unfold followFallback
  dsimp only
  split
  · rfl
  · rename_i inactive
    exact (still (Bool.eq_false_iff.mpr inactive)).symm

/-- Level and enablement are the same in both slots. -/
structure SameLevel (before after : DeviceTransform Vec Rot) : Prop where
  currentRate_eq : after.currentRate = before.currentRate
  enabled_eq : after.enabled = before.enabled

theorem SameLevel.trans {first second third : DeviceTransform Vec Rot}
    (left : SameLevel first second) (right : SameLevel second third) : SameLevel first third :=
  ⟨right.1.trans left.1, right.2.trans left.2⟩

/-- After the update the slot is the one blended, which had the level before, or it has the level
before. -/
def Blends (geo : Geometry Vec Rot) (params : AlignmentSpeedParams) (qpcFreq now id : Nat)
    (before after : Driver Vec Rot) :
    Option (DeviceTransform Vec Rot × Pose Vec Rot) → Prop
  | some (slot, pose) =>
    SameLevel (before.transforms id) slot ∧
      after.transforms id = (applySlot geo params qpcFreq now slot pose).1
  | none => SameLevel (before.transforms id) (after.transforms id)

variable (geo params qpcFreq)

/-- A disabled device blends with its fallback, or is left alone. -/
theorem applyFallback_blends {id : Nat} {driver : Driver Vec Rot} (settled : Settled id driver)
    (disabled : (driver.transforms id).enabled = false) (now : Nat) (pose : Pose Vec Rot) :
    Settled id (applyFallback geo params qpcFreq now id pose driver).1 ∧
      Blends geo params qpcFreq now id driver
        (applyFallback geo params qpcFreq now id pose driver).1
        ((followed now id driver).map fun slot => (slot, pose)) := by
  unfold applyFallback followed
  by_cases unknown : driver.deviceSystem id = []
  · rw [if_pos unknown, if_pos unknown]
    exact ⟨settled, rfl, rfl⟩
  rw [if_neg unknown, if_neg unknown]
  dsimp only
  cases found : driver.enabledFallback id with
  | some fallback =>
    have rate := followFallback_currentRate (settled.still disabled) now fallback
    refine ⟨?_, ⟨rate, followFallback_enabled now fallback _⟩, setTransform_self _ _ _⟩
    have applied := applySlot_sameControl geo params qpcFreq now
      (followFallback now fallback (driver.transforms id)) pose
    have off := (applied.enabled_eq.trans (followFallback_enabled now fallback _)).trans disabled
    have active := applied.fallbackActive_eq.trans (followFallback_fallbackActive now fallback _)
    refine ⟨settled.cached, ?_, fun _ => ⟨unknown, ?_⟩, ?_⟩
    · rw [setTransform_self, off]
      exact nofun
    · rw [show (driver.setTransform id _).enabledFallback id = some fallback from found]
      rfl
    · rw [setTransform_self, active]
      exact nofun
  | none =>
    dsimp only
    split
    · rename_i active
      have follows := (settled.follows active).2
      rw [found] at follows
      cases follows
    · exact ⟨settled, rfl, rfl⟩

/-- The device is left as it is. -/
structure Untouched (id : Nat) (before after : Driver Vec Rot) : Prop where
  transforms_eq : after.transforms id = before.transforms id
  deviceSystem_eq : after.deviceSystem id = before.deviceSystem id
  lookupState_eq : after.lookupState id = before.lookupState id
  systemFallbacks_eq : after.systemFallbacks = before.systemFallbacks

theorem Settled.untouched {id : Nat} {before after : Driver Vec Rot} (settled : Settled id before)
    (untouched : Untouched id before after) : Settled id after := by
  obtain ⟨transforms, name, lookup, table⟩ := untouched
  exact settled.same ⟨name, lookup, table, congrArg _ transforms, congrArg _ transforms⟩
    (Or.inl (congrArg _ transforms))

theorem Untouched.trans {id : Nat} {first second third : Driver Vec Rot}
    (left : Untouched id first second) (right : Untouched id second third) :
    Untouched id first third :=
  ⟨right.1.trans left.1, right.2.trans left.2, right.3.trans left.3, right.4.trans left.4⟩

theorem setTransform_untouched {id other : Nat} (different : id ≠ other) (driver : Driver Vec Rot)
    (slot : DeviceTransform Vec Rot) : Untouched id driver (driver.setTransform other slot) :=
  ⟨setTransform_of_ne driver slot different, rfl, rfl, rfl⟩

theorem applyFallback_untouched {id other : Nat} (different : id ≠ other) (now : Nat)
    (pose : Pose Vec Rot) (driver : Driver Vec Rot) :
    Untouched id driver (applyFallback geo params qpcFreq now other pose driver).1 := by
  unfold applyFallback
  split
  · exact ⟨rfl, rfl, rfl, rfl⟩
  · dsimp only
    split
    · exact setTransform_untouched different driver _
    · split
      · exact setTransform_untouched different driver _
      · exact ⟨rfl, rfl, rfl, rfl⟩

theorem beginPose_untouched {id other : Nat} (different : id ≠ other) (now : Nat)
    (pose : Pose Vec Rot) (driver : Driver Vec Rot) :
    Untouched id driver (beginPose geo params qpcFreq now other pose driver).1 := by
  have entered := setTransform_untouched different driver (enterHook geo other pose driver).1
  unfold beginPose
  dsimp only
  split
  · exact entered
  · split
    · exact entered.trans (setTransform_untouched different _ _)
    · split
      · exact entered
      · exact entered.trans (applyFallback_untouched geo params qpcFreq different now _ _)

theorem storeLookup_untouched {id other : Nat} (different : id ≠ other) (now : Nat)
    (query : Option Name) (driver : Driver Vec Rot) :
    Untouched id driver (storeLookup now other query driver) := by
  unfold storeLookup
  split
  · exact ⟨rfl, rfl, rfl, rfl⟩
  · split
    · exact ⟨rfl, Function.update_of_ne different _ _, Function.update_of_ne different _ _, rfl⟩
    · exact ⟨rfl, rfl, Function.update_of_ne different _ _, rfl⟩

/-- The answer to a query is stored only while the tracking system is unknown. -/
theorem storeLookup_settled {id : Nat} {driver : Driver Vec Rot} (settled : Settled id driver)
    (now : Nat) (query : Option Name) : Settled id (storeLookup now id query driver) := by
  unfold storeLookup
  by_cases cached : driver.lookupState id = .cached
  · rw [if_pos cached]
    exact settled
  have unknown : driver.deviceSystem id = [] := by
    by_contra known
    exact cached (settled.cached known)
  have inactive : ¬(driver.transforms id).fallbackActive = true := fun active =>
    (settled.follows active).1 unknown
  rw [if_neg cached]
  split
  · exact ⟨fun _ => Function.update_self .., settled.exclusive,
      fun active => absurd active inactive, settled.still⟩
  · exact ⟨fun known => absurd unknown known, settled.exclusive,
      fun active => absurd active inactive, settled.still⟩

theorem enterHook_currentRate (id : Nat) (pose : Pose Vec Rot) (driver : Driver Vec Rot) :
    (enterHook geo id pose driver).1.currentRate = (driver.transforms id).currentRate := by
  unfold enterHook suppressPrediction
  dsimp only
  split
  · rfl
  · rfl

theorem enterHook_settled {id : Nat} {driver : Driver Vec Rot} (settled : Settled id driver)
    (pose : Pose Vec Rot) :
    Settled id (driver.setTransform id (enterHook geo id pose driver).1) := by
  have control := enterHook_sameControl geo id pose driver
  refine settled.same ⟨rfl, rfl, rfl, ?_, ?_⟩ (Or.inl ?_)
  · rw [setTransform_self, control.enabled_eq]
  · rw [setTransform_self, control.fallbackActive_eq]
  · rw [setTransform_self, enterHook_currentRate geo]

/-- The first half of an update blends the slot of an enabled device, or that of a disabled one with
its fallback. -/
theorem beginPose_blends {id : Nat} {system : System Vec Rot}
    (settled : Settled id system.driver) (now : Nat) (pose : Pose Vec Rot) :
    Settled id (beginPose geo params qpcFreq now id pose system.driver).1 ∧
      Blends geo params qpcFreq now id system.driver
        (beginPose geo params qpcFreq now id pose system.driver).1
        (blended geo qpcFreq system (.poseUpdated now id pose)) := by
  have entered := enterHook_settled geo settled pose
  have same : SameLevel (system.driver.transforms id) (enterHook geo id pose system.driver).1 :=
    ⟨enterHook_currentRate geo id pose system.driver,
      (enterHook_sameControl geo id pose system.driver).enabled_eq⟩
  have stored : SameLevel (system.driver.transforms id) ((system.driver.setTransform id
      (enterHook geo id pose system.driver).1).transforms id) := by
    rw [setTransform_self]
    exact same
  unfold beginPose blended
  dsimp only
  split
  · exact ⟨entered, stored⟩
  · split
    · rename_i enabled
      refine ⟨?_, same, setTransform_self _ _ _⟩
      have applied := applySlot_sameControl geo params qpcFreq now
        (enterHook geo id pose system.driver).1 (enterHook geo id pose system.driver).2
      refine entered.same ⟨rfl, rfl, rfl, ?_, ?_⟩ (Or.inr (Or.inl ?_))
      · rw [setTransform_self, setTransform_self, applied.enabled_eq]
      · rw [setTransform_self, setTransform_self, applied.fallbackActive_eq]
      · rw [setTransform_self, enabled]
    · rename_i disabled
      split
      · exact ⟨entered, stored⟩
      · have off : ((system.driver.setTransform id
            (enterHook geo id pose system.driver).1).transforms id).enabled = false := by
          rw [setTransform_self]
          exact Bool.eq_false_iff.mpr disabled
        obtain ⟨after, blends⟩ := applyFallback_blends geo params qpcFreq
          entered off now (enterHook geo id pose system.driver).2
        refine ⟨after, ?_⟩
        unfold Blends at blends ⊢
        split
        · rename_i found
          rw [found] at blends
          exact ⟨stored.trans blends.1, blends.2⟩
        · rename_i found
          rw [found] at blends
          exact stored.trans blends

/-- The second half of an update blends the slot of a disabled device with its fallback. -/
theorem resumePose_blends {id : Nat} {driver : Driver Vec Rot} (settled : Settled id driver)
    (disabled : (driver.transforms id).enabled = false) (now : Nat) (pose : Pose Vec Rot)
    (query : Option Name) :
    Settled id (resumePose geo params qpcFreq now id pose query driver).1 ∧
      Blends geo params qpcFreq now id driver
        (resumePose geo params qpcFreq now id pose query driver).1
        ((followed now id (storeLookup now id query driver)).map fun slot => (slot, pose)) := by
  have off : ((storeLookup now id query driver).transforms id).enabled = false := by
    rw [storeLookup_transforms]
    exact disabled
  obtain ⟨after, blends⟩ := applyFallback_blends geo params qpcFreq
    (storeLookup_settled settled now query) off now pose
  refine ⟨after, ?_⟩
  unfold Blends at blends ⊢
  rw [storeLookup_transforms] at blends
  exact blends

/-! ### Requests -/

variable {geo params qpcFreq}

theorem find_modifySlot {name : Name} {change : FallbackSlot Vec Rot → FallbackSlot Vec Rot}
    (kept : ∀ slot, slot.systemName = name → (change slot).systemName = name) (wanted : Name)
    (slots : List (FallbackSlot Vec Rot)) :
    (modifySlot name change slots).find? (fun slot => slot.systemName == wanted) =
      (slots.find? fun slot => slot.systemName == wanted).map fun slot =>
        if wanted = name then change slot else slot := by
  induction slots with
  | nil => rfl
  | cons slot rest inductionHypothesis =>
    unfold modifySlot
    by_cases named : slot.systemName = name
    · rw [if_pos named, List.find?_cons, List.find?_cons, kept slot named, named]
      by_cases same : name = wanted
      · rw [same, beq_self_eq_true]
        exact congrArg some (if_pos rfl).symm
      · rw [beq_eq_false_iff_ne.mpr same]
        simp only [if_neg (Ne.symm same), Option.map_id']
    · rw [if_neg named, List.find?_cons, List.find?_cons]
      by_cases same : slot.systemName = wanted
      · rw [same, beq_self_eq_true]
        exact congrArg some (if_neg fun other => named (same.trans other)).symm
      · rw [beq_eq_false_iff_ne.mpr same]
        exact inductionHypothesis

/-- The system has an enabled fallback among the slots. -/
def EnabledIn (slots : List (FallbackSlot Vec Rot)) (wanted : Name) : Prop :=
  ((slots.find? fun slot => slot.systemName == wanted).filter FallbackSlot.enabled).isSome = true

/-- An enabling request leaves an enabled fallback of a system enabled. -/
theorem storeFallback_enabled (request : SetTrackingSystemFallback Vec Rot) {wanted : Name}
    {slots : List (FallbackSlot Vec Rot)} (enabled : EnabledIn slots wanted) :
    EnabledIn (storeFallback request slots) wanted := by
  unfold EnabledIn at enabled ⊢
  cases found : slots.find? fun slot => slot.systemName == wanted with
  | none =>
    rw [found] at enabled
    cases enabled
  | some slot =>
    rw [found] at enabled
    unfold storeFallback
    dsimp only
    split
    · have names : ∀ slot : FallbackSlot Vec Rot, slot.systemName = bufferName request.systemName →
          (requestedSlot request slot.predictionSmoothness).systemName =
            bufferName request.systemName := fun _ _ => rfl
      rw [find_modifySlot names, found, Option.map_some]
      split
      · rfl
      · exact enabled
    · split
      · rw [List.find?_append, found]
        exact enabled
      · rw [found]
        exact enabled

/-- Disabling the fallback of another system leaves an enabled fallback of a system enabled. -/
theorem disableFallback_enabled {name wanted : Name} (other : wanted ≠ name)
    {slots : List (FallbackSlot Vec Rot)} (enabled : EnabledIn slots wanted) :
    EnabledIn (modifySlot name (fun slot => { slot with enabled := false }) slots) wanted := by
  have names : ∀ slot : FallbackSlot Vec Rot, slot.systemName = name →
      ({ slot with enabled := false } : FallbackSlot Vec Rot).systemName = name :=
    fun _ named => named
  unfold EnabledIn at enabled ⊢
  rw [find_modifySlot names]
  cases found : slots.find? fun slot => slot.systemName == wanted with
  | none =>
    rw [found] at enabled
    cases enabled
  | some slot =>
    rw [found] at enabled
    rw [Option.map_some, if_neg other]
    exact enabled

/-- A table that keeps the enabled fallback of the system of a device keeps that of the device. -/
theorem enabledFallback_of_enabledIn {id : Nat} {driver : Driver Vec Rot}
    {slots : List (FallbackSlot Vec Rot)}
    (keeps : EnabledIn driver.systemFallbacks (driver.deviceSystem id) →
      EnabledIn slots (driver.deviceSystem id))
    (enabled : (driver.enabledFallback id).isSome = true) :
    (Driver.enabledFallback { driver with systemFallbacks := slots } id).isSome = true := by
  unfold Driver.enabledFallback Driver.findFallbackSlot at enabled ⊢
  dsimp only
  split at enabled
  · cases enabled
  · rename_i plain
    rw [if_neg plain]
    exact keeps enabled

theorem setTrackingSystemFallback_settled {id : Nat} {driver : Driver Vec Rot}
    (settled : Settled id driver) (now : Nat) (request : SetTrackingSystemFallback Vec Rot) :
    Settled id (driver.setTrackingSystemFallback now request) := by
  unfold Driver.setTrackingSystemFallback
  dsimp only
  split
  · exact settled
  · split
    · exact ⟨settled.cached, settled.exclusive,
        fun active => (settled.follows active).imp_right
          (enabledFallback_of_enabledIn (storeFallback_enabled request)), settled.still⟩
    · by_cases dropped : (driver.transforms id).fallbackActive = true ∧
          driver.deviceSystem id = bufferName request.systemName
      · refine ⟨settled.cached, ?_, ?_, ?_⟩
        · dsimp only
          rw [if_pos dropped]
          exact fun _ => rfl
        · dsimp only
          rw [if_pos dropped]
          exact nofun
        · dsimp only
          rw [if_pos dropped]
          exact fun _ _ => rfl
      · refine ⟨settled.cached, ?_, ?_, ?_⟩
        · dsimp only
          rw [if_neg dropped]
          exact settled.exclusive
        · dsimp only
          rw [if_neg dropped]
          exact fun active => (settled.follows active).imp_right (enabledFallback_of_enabledIn
            (disableFallback_enabled fun same => dropped ⟨active, same⟩))
        · dsimp only
          rw [if_neg dropped]
          exact settled.still

theorem setDevicePrediction_settled {id : Nat} {driver : Driver Vec Rot}
    (settled : Settled id driver) (request : SetDevicePrediction) :
    Settled id (driver.setDevicePrediction request) := by
  unfold Driver.setDevicePrediction
  split
  · exact settled
  · by_cases own : id = request.openVRID
    · subst own
      dsimp only
      refine settled.same ⟨rfl, rfl, rfl, ?_, ?_⟩ (Or.inl ?_)
      all_goals rw [setTransform_self]
    · exact settled.untouched (setTransform_untouched own driver _)

theorem setDeviceTransform_untouched {id : Nat} {request : SetDeviceTransform Vec Rot}
    (different : id ≠ request.openVRID) (now : Nat) (driver : Driver Vec Rot) :
    Untouched id driver (driver.setDeviceTransform now request) := by
  unfold Driver.setDeviceTransform
  split
  · exact ⟨rfl, rfl, rfl, rfl⟩
  · exact ⟨setTransform_of_ne driver _ different, Function.update_of_ne different _ _,
      Function.update_of_ne different _ _, rfl⟩

/-- A request for the device settles its slot. -/
theorem setDeviceTransform_settled {request : SetDeviceTransform Vec Rot}
    (valid : request.openVRID < kMaxTrackedDeviceCount) (now : Nat) (driver : Driver Vec Rot) :
    Settled request.openVRID (driver.setDeviceTransform now request) := by
  have slot : (driver.setDeviceTransform now request).transforms request.openVRID =
      updateSlot now request (driver.transforms request.openVRID) := by
    unfold Driver.setDeviceTransform
    rw [if_neg (not_le.mpr valid)]
    exact setTransform_self _ _ _
  refine ⟨?_, ?_, ?_, ?_⟩
  · unfold Driver.setDeviceTransform
    rw [if_neg (not_le.mpr valid)]
    dsimp only
    rw [Function.update_self, Function.update_self]
    exact fun known => if_neg known
  · rw [slot]
    exact fun _ => rfl
  · rw [slot]
    exact nofun
  · rw [slot]
    exact fun _ _ => rfl

/-! ### Runs -/

/-- The event is no request for the device, nor the end of an update of the device while that is
enabled. Only updates of a disabled device wait, so a request has overtaken such an update. -/
def Between (id : Nat) (system : System Vec Rot) : Event Vec Rot → Prop
  | .setDeviceTransform _ request => request.openVRID ≠ id
  | .poseResumed now index query =>
    updates system (.poseResumed now index query) = some id →
      (system.driver.transforms id).enabled = false
  | _ => True

instance (id : Nat) (system : System Vec Rot) (event : Event Vec Rot) :
    Decidable (Between id system event) :=
  match event with
  | .setDeviceTransform _ request => inferInstanceAs (Decidable (request.openVRID ≠ id))
  | .poseResumed now index query =>
    inferInstanceAs (Decidable (updates system (.poseResumed now index query) = some id →
      (system.driver.transforms id).enabled = false))
  | .poseUpdated .. => isTrue trivial
  | .setTrackingSystemFallback .. => isTrue trivial
  | .setDevicePrediction .. => isTrue trivial

/-- The active transform of the device is the target. -/
def Driver.Arrived (driver : Driver Vec Rot) (id : Nat) : Prop :=
  (driver.transforms id).targetTransform = (driver.transforms id).transform

/-- A step that is no update of the device keeps its level, or puts the target where the device
is. -/
def KeepsLevel (id : Nat) (system after : System Vec Rot) : Prop :=
  after.level id = system.level id ∨ after.driver.Arrived id

theorem Untouched.keepsLevel {id : Nat} {system after : System Vec Rot}
    (untouched : Untouched id system.driver after.driver) : KeepsLevel id system after :=
  Or.inl (congrArg _ untouched.transforms_eq)

theorem setTrackingSystemFallback_keepsLevel (now : Nat)
    (request : SetTrackingSystemFallback Vec Rot) (driver : Driver Vec Rot) (id : Nat) :
    ((driver.setTrackingSystemFallback now request).transforms id).currentRate =
        (driver.transforms id).currentRate ∨
      (driver.setTrackingSystemFallback now request).Arrived id := by
  unfold Driver.Arrived Driver.setTrackingSystemFallback
  dsimp only
  split
  · exact Or.inl rfl
  · split
    · exact Or.inl rfl
    · dsimp only
      split
      · exact Or.inr rfl
      · exact Or.inl rfl

theorem setDevicePrediction_currentRate (request : SetDevicePrediction) (driver : Driver Vec Rot)
    (id : Nat) : ((driver.setDevicePrediction request).transforms id).currentRate =
      (driver.transforms id).currentRate := by
  unfold Driver.setDevicePrediction
  split
  · rfl
  · by_cases own : id = request.openVRID
    · subst own
      dsimp only
      rw [setTransform_self]
    · exact congrArg _ (setTransform_of_ne driver _ own)

/-- A step between two requests keeps the slot settled. An update of the device blends, and any
other step keeps the level. -/
theorem step_settled {id : Nat} {system after : System Vec Rot} {event : Event Vec Rot}
    (settled : Settled id system.driver) (between : Between id system event)
    (stepped : step geo params qpcFreq system event = some after) :
    Settled id after.driver ∧
      (updates system event = some id → ∃ now,
        Blends geo params qpcFreq now id system.driver after.driver
          (blended geo qpcFreq system event)) ∧
      (updates system event ≠ some id → KeepsLevel id system after) := by
  cases event with
  | setDeviceTransform now request =>
    obtain rfl := Option.some.inj stepped
    have untouched := setDeviceTransform_untouched (Ne.symm between) now system.driver
    exact ⟨settled.untouched untouched, nofun, fun _ => Untouched.keepsLevel untouched⟩
  | setTrackingSystemFallback now request =>
    obtain rfl := Option.some.inj stepped
    exact ⟨setTrackingSystemFallback_settled settled now request, nofun,
      fun _ => setTrackingSystemFallback_keepsLevel now request system.driver id⟩
  | setDevicePrediction request =>
    obtain rfl := Option.some.inj stepped
    exact ⟨setDevicePrediction_settled settled request, nofun,
      fun _ => Or.inl (setDevicePrediction_currentRate request system.driver id)⟩
  | poseUpdated now other pose =>
    obtain rfl := Option.some.inj stepped
    by_cases own : id = other
    · subst own
      obtain ⟨kept, blends⟩ := beginPose_blends geo params qpcFreq settled now pose
      exact ⟨kept, fun _ => ⟨now, blends⟩, fun other => absurd rfl other⟩
    · have untouched := beginPose_untouched geo params qpcFreq own now pose system.driver
      exact ⟨settled.untouched untouched, fun same => absurd (Option.some.inj same).symm own,
        fun _ => Untouched.keepsLevel untouched⟩
  | poseResumed now index query =>
    dsimp only [step] at stepped
    split at stepped
    · cases stepped
    split at stepped
    · cases stepped
    rename_i other pose waiting
    obtain rfl := Option.some.inj stepped
    dsimp only [Between, updates] at between
    dsimp only [updates, blended]
    rw [waiting] at between ⊢
    by_cases own : id = other
    · subst own
      obtain ⟨kept, blends⟩ :=
        resumePose_blends geo params qpcFreq settled (between rfl) now pose query
      exact ⟨kept, fun _ => ⟨now, blends⟩, fun other => absurd rfl other⟩
    · have untouched : Untouched id system.driver
          (resumePose geo params qpcFreq now other pose query system.driver).1 :=
        (storeLookup_untouched own now query system.driver).trans
          (applyFallback_untouched geo params qpcFreq own now pose _)
      exact ⟨settled.untouched untouched, fun same => absurd (Option.some.inj same).symm own,
        fun _ => Untouched.keepsLevel untouched⟩

/-- In every state reached between two requests for a device, an update of the device keeps the
hysteresis exactly if what it measures lets the level stay, or fall. Any other step keeps the level,
unless it puts the target where the device is. -/
theorem level_hysteresis {start system after : System Vec Rot} {now : Nat}
    {request : SetDeviceTransform Vec Rot} {event : Event Vec Rot} (ordered : params.Ordered)
    (valid : request.openVRID < kMaxTrackedDeviceCount)
    (reached : Reaches (step geo params qpcFreq) (Between request.openVRID)
      { start with driver := start.driver.setDeviceTransform now request } system)
    (between : Between request.openVRID system event)
    (stepped : step geo params qpcFreq system event = some after) :
    (updates system event = some request.openVRID →
      (KeepsHysteresis geo params qpcFreq system request.openVRID event after ↔
        ClearUpdate geo params qpcFreq system request.openVRID event)) ∧
      (updates system event ≠ some request.openVRID →
        KeepsLevel request.openVRID system after) := by
  have settled : Settled request.openVRID system.driver :=
    reached.invariant (setDeviceTransform_settled valid now start.driver)
      fun _ _ _ settled between stepped => (step_settled settled between stepped).1
  obtain ⟨-, updated, other⟩ := step_settled settled between stepped
  refine ⟨fun update => ?_, other⟩
  obtain ⟨time, blends⟩ := updated update
  unfold KeepsHysteresis ClearUpdate
  unfold Blends at blends
  cases measured : blended geo qpcFreq system event with
  | none =>
    rw [measured] at blends
    exact iff_of_true blends.currentRate_eq trivial
  | some update =>
    obtain ⟨slot, pose⟩ := update
    rw [measured] at blends
    have level : after.level request.openVRID =
        (deltasOf geo slot pose).level params (system.level request.openVRID) := by
      unfold System.level
      rw [blends.2, applySlot_currentRate, blends.1.currentRate_eq]
    dsimp only
    rw [level]
    exact level_hysteresis_iff ordered _ _

end Updates

/-! ### A target that comes close -/

/-- A request that snaps the device with number 3, and one that moves its target by 15 cm. -/
def aligned : SetDeviceTransform Rat Unit :=
  { openVRID := 3
    enabled := true
    updateTranslation := true
    translation := 0
    rotation := () }

def shifted : SetDeviceTransform Rat Unit :=
  { aligned with translation := 15 / 100, lerp := true }

def alignedSystem : System Rat Unit :=
  { driver := (initialDriver axis).setDeviceTransform 0 aligned }

def shiftedSystem : System Rat Unit :=
  { alignedSystem with driver := alignedSystem.driver.setDeviceTransform 1000 shifted }

theorem speeds_ordered : speeds.Ordered :=
  ⟨by decide +kernel, by decide +kernel, by decide +kernel, by decide +kernel⟩

theorem level_hysteresis_shifted : ∃ after,
    step axis speeds 1000 shiftedSystem (.poseUpdated 1450 3 atRest) = some after ∧
    (KeepsHysteresis axis speeds 1000 shiftedSystem 3 (.poseUpdated 1450 3 atRest) after ↔
      ClearUpdate axis speeds 1000 shiftedSystem 3 (.poseUpdated 1450 3 atRest)) :=
  ⟨_, rfl, (@level_hysteresis _ _ axis speeds 1000 alignedSystem shiftedSystem _ 1000 shifted
    (.poseUpdated 1450 3 atRest) speeds_ordered (by decide) .start trivial rfl).1 rfl⟩

/-- The first update leaves 15 mm, which is above the tiny and under the small threshold. The next
one lets the level fall. -/
theorem level_falls_early : speeds.Ordered ∧ ∃ system after,
    Reaches (step axis speeds 1000) (Between 3) shiftedSystem system ∧
    step axis speeds 1000 system (.poseUpdated 1460 3 atRest) = some after ∧
    system.level 3 = .large ∧ after.level 3 = .tiny ∧
    ¬KeepsHysteresis axis speeds 1000 system 3 (.poseUpdated 1460 3 atRest) after := by
  obtain ⟨system, reached, falls⟩ : ∃ system,
      Reaches (step axis speeds 1000) (Between 3) shiftedSystem system ∧
      (step axis speeds 1000 system (.poseUpdated 1460 3 atRest)).any (fun after =>
        system.level 3 = .large ∧ after.level 3 = .tiny ∧
        ¬KeepsHysteresis axis speeds 1000 system 3 (.poseUpdated 1460 3 atRest) after) = true :=
    reaches_evaluates [.poseUpdated 1450 3 atRest] (by decide +kernel)
  obtain ⟨after, stepped, falls⟩ := Option.any_eq_true _ _ |>.mp falls
  exact ⟨speeds_ordered, system, after, reached, stepped, of_decide_eq_true falls⟩

end PairDriver.Provider
