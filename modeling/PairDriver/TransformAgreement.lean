/-
This file proves when the driver's slots hold what the last scan of the overlay
stands for: a slot is enabled exactly for a device of the target system under an
enabled profile, and then aims at the calibrated transform.

The scan skips a device whose cache entry equals the payload, so the invariant is
about the entries: one sent to the driver process that runs says what the slot
holds, and one sent to an earlier process belongs to a disabled slot. Three things
break the agreement: an enabled entry that outlives the driver process it was sent
to, a device that goes while its slot is enabled, and a headset of the target
system. The last section runs the first two.
-/

import PairDriver.ProfileScan
import PairDriver.PoseHookRace

namespace PairDriver.ProfileScan

open Provider

section Agreement

variable {Vec Rot : Type} (geo : OverlayGeometry Vec Rot)

/-! ### What a scan stands for -/

def World.slot (world : World Vec Rot) (id : Nat) : DeviceTransform Vec Rot :=
  world.link.driver.transforms id

/-- The calibrated transform, in metres. -/
def Context.calibrated (context : Context Vec) : IsoTransform Vec Rot :=
  ⟨geo.eulerRotation context.calibratedRotation,
    geo.scaleVec (1 / 100) context.calibratedTranslation⟩

/-- A device of the target tracking system is present, and the profile is enabled. -/
def World.adopts (world : World Vec Rot) (id : Nat) : Bool :=
  world.context.enabled && (world.devices id).any fun device =>
    device.system id = some world.context.targetTrackingSystem

/-- The slot is enabled exactly when its device is adopted, with the calibrated values. -/
structure SlotAgrees (world : World Vec Rot) (id : Nat) : Prop where
  enabled_eq : (world.slot id).enabled = world.adopts id
  target_eq : (world.slot id).enabled = true →
    (world.slot id).targetTransform = world.context.calibrated geo
  scale_eq : (world.slot id).enabled = true →
    (world.slot id).scale = world.context.calibratedScale

/-- Agreement on every slot of the driver. -/
def TransformsAgree (world : World Vec Rot) : Prop :=
  ∀ id < kMaxTrackedDeviceCount, SlotAgrees geo world id

/-- What the step that comes to the transform of a device needs. -/
structure Applicable (world : World Vec Rot) (id : Nat) : Prop where
  device_or_disabled : world.devices id = none → (world.slot id).enabled = false
  not_headset : id = 0 → world.adopts id = true →
    world.context.targetTrackingSystem ≠ world.context.referenceTrackingSystem
  same_process : world.adopts id = true → world.caches.lastApplied id =
      some (world.context.transformPayload geo (world.caches.lastApplied id) id) →
    world.caches.appliedTo id = world.link.process

instance [DecidableEq Vec] [DecidableEq Rot] (world : World Vec Rot) (id : Nat) :
    Decidable (Applicable geo world id) :=
  decidable_of_iff ((world.devices id = none → (world.slot id).enabled = false) ∧
      (id = 0 → world.adopts id = true →
        world.context.targetTrackingSystem ≠ world.context.referenceTrackingSystem) ∧
      (world.adopts id = true → world.caches.lastApplied id =
          some (world.context.transformPayload geo (world.caches.lastApplied id) id) →
        world.caches.appliedTo id = world.link.process))
    ⟨fun ⟨device, headset, process⟩ => ⟨device, headset, process⟩,
      fun ⟨device, headset, process⟩ => ⟨device, headset, process⟩⟩

/-- How many devices the scan has passed. -/
def Phase.passed : Phase Vec → Nat
  | .checking id | .applying id => id
  | .completed => kMaxTrackedDeviceCount
  | _ => 0

/-- The device whose transform comes next. -/
def Phase.current : Phase Vec → Option Nat
  | .applying id => some id
  | _ => none

/-- The driver does not restart after the scan that is going on has left a slot enabled, and every
device the scan comes to is applicable. -/
def Undisturbed (world : World Vec Rot) : Event Vec → Prop
  | .driverRestarted => world.phase.resting = false →
      ∀ id < world.phase.passed, (world.slot id).enabled = false
  | .scanProceeded _ => ∀ id ∈ world.phase.current, Applicable geo world id
  | _ => True

instance [DecidableEq Vec] [DecidableEq Rot] (world : World Vec Rot) (event : Event Vec) :
    Decidable (Undisturbed geo world event) :=
  match event with
  | .driverRestarted => inferInstanceAs (Decidable (_ → ∀ id < _, _))
  | .scanProceeded _ => inferInstanceAs (Decidable (∀ id ∈ world.phase.current, _))
  | .edited _ | .devicesChanged _ | .baseStationsShifted | .scanStarted =>
    inferInstanceAs (Decidable True)

end Agreement

section Invariant

variable {Vec Rot : Type} {geo : OverlayGeometry Vec Rot}

/-! ### Slots -/

/-- Nothing but the entry and the slot of the device has changed. -/
structure OnlySlot (id : Nat) (before after : World Vec Rot) : Prop where
  context_eq : after.context = before.context
  devices_eq : after.devices = before.devices
  slot_eq : ∀ other, other ≠ id → after.slot other = before.slot other

theorem OnlySlot.refl (id : Nat) (world : World Vec Rot) : OnlySlot id world world :=
  ⟨rfl, rfl, fun _ _ => rfl⟩

variable (geo) in
/-- A slot that is disabled agrees when its device is not adopted. -/
theorem SlotAgrees.of_disabled {world : World Vec Rot} {id : Nat}
    (disabled : (world.slot id).enabled = false) (spurned : world.adopts id = false) :
    SlotAgrees geo world id :=
  ⟨disabled.trans spurned.symm, fun enabled => absurd (disabled.symm.trans enabled) nofun,
    fun enabled => absurd (disabled.symm.trans enabled) nofun⟩

theorem SlotAgrees.congr {world after : World Vec Rot} {id : Nat} (agrees : SlotAgrees geo world id)
    (context : after.context = world.context) (devices : after.devices = world.devices)
    (slot : after.slot id = world.slot id) : SlotAgrees geo after id := by
  have adopts : after.adopts id = world.adopts id := by
    rw [World.adopts, World.adopts, context, devices]
  refine ⟨?_, ?_, ?_⟩
  · rw [slot, adopts]
    exact agrees.enabled_eq
  · rw [slot, context]
    exact agrees.target_eq
  · rw [slot, context]
    exact agrees.scale_eq

theorem adopts_of_present {world : World Vec Rot} {id : Nat} {device : Device}
    (present : world.devices id = some device) : world.adopts id =
      (world.context.enabled && device.system id = some world.context.targetTrackingSystem) := by
  rw [World.adopts, present]
  rfl

/-! ### Requests -/

theorem setDeviceTransform_self (now : Nat) (payload : SetDeviceTransform Vec Rot)
    (driver : Driver Vec Rot) (inRange : payload.openVRID < kMaxTrackedDeviceCount) :
    (driver.setDeviceTransform now payload).transforms payload.openVRID =
      updateSlot now payload (driver.transforms payload.openVRID) := by
  unfold Driver.setDeviceTransform
  rw [if_neg (Nat.not_le.mpr inRange)]
  exact Function.update_self ..

theorem setDeviceTransform_other (now : Nat) (payload : SetDeviceTransform Vec Rot)
    (driver : Driver Vec Rot) {id : Nat} (different : id ≠ payload.openVRID) :
    (driver.setDeviceTransform now payload).transforms id = driver.transforms id := by
  unfold Driver.setDeviceTransform
  split
  · rfl
  · exact Function.update_of_ne different ..

theorem setTrackingSystemFallback_transforms (now : Nat) {payload : SetTrackingSystemFallback Vec Rot}
    (enabled : payload.enabled = true) (driver : Driver Vec Rot) :
    (driver.setTrackingSystemFallback now payload).transforms = driver.transforms := by
  unfold Driver.setTrackingSystemFallback
  dsimp only
  rw [enabled]
  split <;> rfl

/-- The slot holds what the payload says. -/
structure Holds (payload : SetDeviceTransform Vec Rot) (slot : DeviceTransform Vec Rot) :
    Prop where
  enabled_eq : slot.enabled = payload.enabled
  target_eq : slot.enabled = true →
    slot.targetTransform = ⟨payload.rotation, payload.translation⟩
  scale_eq : slot.enabled = true → slot.scale = payload.scale

/-- The payload writes all of the slot it is for. -/
structure Complete (id : Nat) (payload : SetDeviceTransform Vec Rot) : Prop where
  openVRID_eq : payload.openVRID = id
  updateTranslation : payload.updateTranslation = true
  updateRotation : payload.updateRotation = true
  updateScale : payload.updateScale = true

variable (geo) in
theorem resetPayload_complete (id : Nat) (system : Name) :
    Complete id (resetPayload geo id system) :=
  ⟨rfl, rfl, rfl, rfl⟩

variable (geo) in
theorem transformPayload_complete (context : Context Vec)
    (last : Option (SetDeviceTransform Vec Rot)) (id : Nat) :
    Complete id (context.transformPayload geo last id) :=
  ⟨rfl, rfl, rfl, rfl⟩

theorem updateSlot_holds {id : Nat} (now : Nat) {payload : SetDeviceTransform Vec Rot}
    (complete : Complete id payload) (slot : DeviceTransform Vec Rot) :
    Holds payload (updateSlot now payload slot) where
  enabled_eq := rfl
  target_eq := by
    intro enabled
    have requested : payload.enabled = true := enabled
    simp [updateSlot, requested, complete.updateTranslation, complete.updateRotation]
  scale_eq := by
    intro _
    simp [updateSlot, complete.updateScale]

/-! ### Cache entries -/

/-- An entry sent to the running process says what the slot holds; an entry sent to an earlier one
belongs to a slot nothing has enabled since. -/
structure EntriesHold (caches : Caches Vec Rot) (link : Link Vec Rot) : Prop where
  sent : ∀ id payload, caches.lastApplied id = some payload → caches.appliedTo id ≤ link.process
  current : ∀ id payload, caches.lastApplied id = some payload →
    caches.appliedTo id = link.process → Holds payload (link.driver.transforms id)
  former : ∀ id payload, caches.lastApplied id = some payload →
    caches.appliedTo id ≠ link.process → (link.driver.transforms id).enabled = false

theorem EntriesHold.of_none {caches : Caches Vec Rot} {link : Link Vec Rot}
    (empty : ∀ id, caches.lastApplied id = none) : EntriesHold caches link where
  sent id _ entry := absurd ((empty id).symm.trans entry) nofun
  current id _ entry := absurd ((empty id).symm.trans entry) nofun
  former id _ entry := absurd ((empty id).symm.trans entry) nofun

/-- Entries may be dropped, and requests that leave their slots alone may be answered. -/
theorem EntriesHold.weaken {caches fewer : Caches Vec Rot} {link after : Link Vec Rot}
    (entries : EntriesHold caches link)
    (kept : ∀ id payload, fewer.lastApplied id = some payload →
      caches.lastApplied id = some payload ∧ fewer.appliedTo id = caches.appliedTo id)
    (process : after.process = link.process)
    (slots : ∀ id payload, fewer.lastApplied id = some payload →
      after.driver.transforms id = link.driver.transforms id) :
    EntriesHold fewer after where
  sent id payload entry := by
    obtain ⟨held, target⟩ := kept id payload entry
    rw [target, process]
    exact entries.sent id payload held
  current id payload entry running := by
    obtain ⟨held, target⟩ := kept id payload entry
    rw [slots id payload entry]
    rw [target, process] at running
    exact entries.current id payload held running
  former id payload entry earlier := by
    obtain ⟨held, target⟩ := kept id payload entry
    rw [slots id payload entry]
    rw [target, process] at earlier
    exact entries.former id payload held earlier

/-- After a restart every entry is one sent to an earlier process. -/
theorem EntriesHold.restart {caches : Caches Vec Rot} {link : Link Vec Rot}
    (entries : EntriesHold caches link) : EntriesHold caches (link.restart geo.toGeometry) where
  sent id payload entry := Nat.le_succ_of_le (entries.sent id payload entry)
  current id payload entry running :=
    absurd running (Nat.ne_of_lt (Nat.lt_succ_of_le (entries.sent id payload entry)))
  former _ _ _ _ := rfl

/-- The request for a device was answered, and its entry written. -/
theorem EntriesHold.remember {caches : Caches Vec Rot} {link after : Link Vec Rot} {id : Nat}
    {payload : SetDeviceTransform Vec Rot} (entries : EntriesHold caches link)
    (process : after.process = link.process)
    (held : Holds payload (after.driver.transforms id))
    (others : ∀ other, other ≠ id →
      after.driver.transforms other = link.driver.transforms other) :
    EntriesHold (caches.rememberTransform link.process id payload) after := by
  have self : (caches.rememberTransform link.process id payload).lastApplied id = some payload :=
    Function.update_self ..
  have selfProcess : (caches.rememberTransform link.process id payload).appliedTo id =
      after.process := (Function.update_self ..).trans process.symm
  have other (index : Nat) (different : index ≠ id) :
      (caches.rememberTransform link.process id payload).lastApplied index =
        caches.lastApplied index ∧
      (caches.rememberTransform link.process id payload).appliedTo index =
        caches.appliedTo index :=
    ⟨Function.update_of_ne different .., Function.update_of_ne different ..⟩
  refine ⟨fun index entry written => ?_, fun index entry written running => ?_,
    fun index entry written earlier => ?_⟩
  all_goals by_cases same : index = id
  · rw [same, selfProcess]
  · rw [(other index same).2, process]
    exact entries.sent index entry ((other index same).1 ▸ written)
  · rw [same] at written ⊢
    obtain rfl := Option.some.inj (self.symm.trans written)
    exact held
  · rw [(other index same).1] at written
    rw [(other index same).2, process] at running
    rw [others index same]
    exact entries.current index entry written running
  · rw [same] at earlier
    exact absurd selfProcess earlier
  · rw [(other index same).1] at written
    rw [(other index same).2, process] at earlier
    rw [others index same]
    exact entries.former index entry written earlier

theorem EntriesHold.forget {caches : Caches Vec Rot} {link : Link Vec Rot}
    (entries : EntriesHold caches link) (id : Nat) : EntriesHold (caches.forgetTransform id) link := by
  refine entries.weaken (fun index payload entry => ⟨?_, rfl⟩) rfl fun _ _ _ => rfl
  simp only [Caches.forgetTransform] at entry
  by_cases same : index = id
  · rw [same, Function.update_self] at entry
    cases entry
  · rwa [Function.update_of_ne same] at entry

/-- Entries and slots that are the same keep what holds of them. -/
theorem EntriesHold.congr {caches same : Caches Vec Rot} {link : Link Vec Rot}
    (entries : EntriesHold caches link) (applied : same.lastApplied = caches.lastApplied)
    (process : same.appliedTo = caches.appliedTo) : EntriesHold same link :=
  entries.weaken (fun id _ entry => ⟨congrFun applied id ▸ entry, congrFun process id⟩) rfl
    fun _ _ _ => rfl

/-- A send that leaves the entries and the slots alone. -/
theorem EntriesHold.send {world : World Vec Rot} {exchange : Exchange} {request : Request Vec Rot}
    {remember : Caches Vec Rot → Caches Vec Rot} (entries : EntriesHold world.caches world.link)
    (kept : ∀ id payload, (remember world.caches).lastApplied id = some payload →
      world.caches.lastApplied id = some payload ∧
        (remember world.caches).appliedTo id = world.caches.appliedTo id)
    (slots : ∀ id payload, (remember world.caches).lastApplied id = some payload →
      (handleRequest exchange.now request world.link.driver).transforms id =
        world.link.driver.transforms id) :
    EntriesHold (world.send exchange request remember).2.caches
      (world.send exchange request remember).2.link := by
  obtain ⟨link, process, ⟨driver, sent⟩ | ⟨driver, sent⟩⟩ :=
    world.send_cases exchange request remember
  · rw [sent]
    exact entries.weaken kept process (driver ▸ slots)
  · rw [sent]
    exact entries.weaken (fun _ _ entry => ⟨entry, rfl⟩) process fun _ _ _ => by rw [driver]

/-! ### Sending to a device -/

variable [DecidableEq Vec] [DecidableEq Rot]

/-- What `SendDeviceTransformIfChanged` ensures: the entries still hold, and if it returns the slot
holds the payload, unless an enabled entry from an earlier process made it skip the request. -/
theorem sendDeviceTransformIfChanged_spec {world : World Vec Rot} {id : Nat}
    {payload : SetDeviceTransform Vec Rot} (exchange : Exchange)
    (inRange : id < kMaxTrackedDeviceCount) (complete : Complete id payload)
    (entries : EntriesHold world.caches world.link) :
    let attempt := sendDeviceTransformIfChanged exchange id payload world
    EntriesHold attempt.2.caches attempt.2.link ∧ OnlySlot id world attempt.2 ∧
    (attempt.1 = true →
      (payload.enabled = true → world.caches.lastApplied id = some payload →
        world.caches.appliedTo id = world.link.process) →
      Holds payload (attempt.2.slot id)) := by
  intro attempt
  by_cases cached : world.caches.lastApplied id = some payload
  · have skipped : attempt = (true, world) := if_pos cached
    rw [skipped]
    refine ⟨entries, ⟨rfl, rfl, fun _ _ => rfl⟩, fun _ sameProcess => ?_⟩
    by_cases running : world.caches.appliedTo id = world.link.process
    · exact entries.current id payload cached running
    · have disabled := entries.former id payload cached running
      have unwanted : payload.enabled = false := by
        by_contra enabled
        exact running (sameProcess (Bool.of_not_eq_false enabled) cached)
      exact ⟨disabled.trans unwanted.symm, fun enabled => absurd (disabled.symm.trans enabled) nofun,
        fun enabled => absurd (disabled.symm.trans enabled) nofun⟩
  · have tried : attempt = world.send exchange (.setDeviceTransform payload)
        (Caches.rememberTransform world.link.process id payload) := if_neg cached
    rw [tried]
    obtain ⟨link, process, ⟨driver, sent⟩ | ⟨driver, sent⟩⟩ := world.send_cases exchange
      (.setDeviceTransform payload) (Caches.rememberTransform world.link.process id payload)
    · rw [sent]
      have openVRID := complete.openVRID_eq
      have others (other : Nat) (different : other ≠ id) :
          link.driver.transforms other = world.link.driver.transforms other := by
        rw [driver]
        exact setDeviceTransform_other _ _ _ (openVRID.symm ▸ different)
      have held : Holds payload (link.driver.transforms id) := by
        have written := setDeviceTransform_self exchange.now payload world.link.driver
          (openVRID.symm ▸ inRange)
        rw [openVRID] at written
        rw [driver]
        exact written ▸ updateSlot_holds exchange.now complete _
      exact ⟨entries.remember process held others, ⟨rfl, rfl, others⟩, fun _ _ => held⟩
    · rw [sent]
      have slots (other : Nat) : link.driver.transforms other =
          world.link.driver.transforms other := by
        rw [driver]
      exact ⟨entries.weaken (fun _ _ entry => ⟨entry, rfl⟩) process fun other _ _ => slots other,
        ⟨rfl, rfl, fun other _ => slots other⟩, nofun⟩

/-! ### The steps of a scan -/

variable (geo)

theorem resetAndDisableOffsets_spec (exchange : Exchange) {id : Nat}
    (inRange : id < kMaxTrackedDeviceCount) (system : Name) (world : World Vec Rot)
    (entries : EntriesHold world.caches world.link) :
    let attempt := resetAndDisableOffsets geo exchange id system world
    EntriesHold attempt.2.caches attempt.2.link ∧ OnlySlot id world attempt.2 ∧
    (attempt.1 = true → (attempt.2.slot id).enabled = false) := by
  obtain ⟨still, only, holds⟩ := sendDeviceTransformIfChanged_spec exchange inRange
    (resetPayload_complete geo id system) entries
  exact ⟨still, only, fun returned => (holds returned nofun).enabled_eq⟩

theorem checkDevice_spec (exchange : Exchange) {id : Nat} (inRange : id < kMaxTrackedDeviceCount)
    {world : World Vec Rot} (entries : EntriesHold world.caches world.link) :
    let attempt := checkDevice geo exchange id world
    EntriesHold attempt.2.caches attempt.2.link ∧ OnlySlot id world attempt.2 := by
  unfold checkDevice
  dsimp only
  split
  · split
    · exact ⟨(entries.forget id).congr rfl rfl, ⟨rfl, rfl, fun _ _ => rfl⟩⟩
    · exact ⟨entries, OnlySlot.refl id world⟩
  · split
    · exact ⟨entries, OnlySlot.refl id world⟩
    · split
      · exact ⟨entries.congr rfl rfl, ⟨rfl, rfl, fun _ _ => rfl⟩⟩
      · obtain ⟨still, only, _⟩ := resetAndDisableOffsets_spec geo exchange inRange []
          { world with caches := world.caches.forgetTransform id } (entries.forget id)
        split
        · exact ⟨still.congr rfl rfl, ⟨only.context_eq, only.devices_eq, only.slot_eq⟩⟩
        · exact ⟨still, ⟨only.context_eq, only.devices_eq, only.slot_eq⟩⟩

theorem openingExecute_entries {world : World Vec Rot} (exchange : Exchange) (first : Opening Vec)
    (entries : EntriesHold world.caches world.link) :
    EntriesHold (first.execute geo exchange world).2.caches
      (first.execute geo exchange world).2.link := by
  cases first with
  | reset =>
    simp only [Opening.execute, resetOnChange]
    split
    · split
      · exact entries.send nofun nofun
      · exact EntriesHold.of_none fun _ => rfl
    · exact entries
  | alignmentSpeed =>
    simp only [Opening.execute, sendAlignmentSpeed]
    split
    · exact entries
    · exact entries.send (fun _ _ entry => ⟨entry, rfl⟩) fun _ _ _ => rfl
  | fallback submission =>
    simp only [Opening.execute, sendFallbackIfChanged]
    split
    · exact entries
    · refine entries.send (fun _ _ entry => ⟨entry, rfl⟩) fun id _ _ => ?_
      exact congrFun (setTrackingSystemFallback_transforms exchange.now rfl world.link.driver) id

/-- The headset: its slot is disabled, and it is not adopted under the context its check leaves. -/
theorem applyHeadset_spec (exchange : Exchange) {world : World Vec Rot} {device : Device}
    {system : Name} (entries : EntriesHold world.caches world.link)
    (applicable : Applicable geo world 0) (present : world.devices 0 = some device)
    (profile : world.context.enabled = true) (known : device.system 0 = some system) :
    let attempt := applyDevice geo exchange 0 world
    EntriesHold attempt.2.caches attempt.2.link ∧
    (attempt.1 = true → SlotAgrees geo attempt.2 0) := by
  intro attempt
  obtain ⟨checked, entriesEq, linkEq, spurned, taken⟩ : ∃ checked : World Vec Rot,
      checked.caches = world.caches ∧ checked.link = world.link ∧ checked.adopts 0 = false ∧
      attempt = resetAndDisableOffsets geo exchange 0 system checked := by
    by_cases mismatch : system = world.context.referenceTrackingSystem
    · refine ⟨world, rfl, rfl, ?_, ?_⟩
      · rw [Bool.eq_false_iff]
        intro adopted
        have target := adopted
        rw [adopts_of_present present, known, profile, Bool.true_and, decide_eq_true_iff,
          Option.some.injEq] at target
        exact applicable.not_headset rfl adopted (target.symm.trans mismatch)
      · simp [attempt, applyDevice, present, profile, known, mismatch]
    · refine ⟨{ world with context := { world.context with enabled := false } }, rfl, rfl, rfl, ?_⟩
      simp [attempt, applyDevice, present, profile, known, mismatch]
  rw [← entriesEq, ← linkEq] at entries
  obtain ⟨still, only, disabled⟩ := resetAndDisableOffsets_spec geo exchange
    (by decide : 0 < kMaxTrackedDeviceCount) system checked entries
  rw [taken]
  refine ⟨still, fun returned => .of_disabled geo (disabled returned) ?_⟩
  rw [World.adopts, only.context_eq, only.devices_eq]
  exact spurned

/-- What the second half of the loop body ensures of a device it is applicable to. Only the headset
can change the context. -/
theorem applyDevice_spec (exchange : Exchange) {id : Nat} (inRange : id < kMaxTrackedDeviceCount)
    {world : World Vec Rot} (entries : EntriesHold world.caches world.link)
    (applicable : Applicable geo world id) :
    let attempt := applyDevice geo exchange id world
    EntriesHold attempt.2.caches attempt.2.link ∧ (id ≠ 0 → OnlySlot id world attempt.2) ∧
    (attempt.1 = true → SlotAgrees geo attempt.2 id) := by
  intro attempt
  have reset (system : Name) (spurned : world.adopts id = false)
      (taken : attempt = resetAndDisableOffsets geo exchange id system world) :
      EntriesHold attempt.2.caches attempt.2.link ∧ (id ≠ 0 → OnlySlot id world attempt.2) ∧
      (attempt.1 = true → SlotAgrees geo attempt.2 id) := by
    obtain ⟨still, only, disabled⟩ :=
      resetAndDisableOffsets_spec geo exchange inRange system world entries
    rw [taken]
    refine ⟨still, fun _ => only, fun returned => .of_disabled geo (disabled returned) ?_⟩
    rw [World.adopts, only.context_eq, only.devices_eq]
    exact spurned
  cases present : world.devices id with
  | none =>
    have same : attempt = (true, world) := by
      simp only [attempt, applyDevice, present]
    have spurned : world.adopts id = false := by
      rw [World.adopts, present]
      exact Bool.and_false _
    rw [same]
    exact ⟨entries, fun _ => OnlySlot.refl id world, fun _ =>
      .of_disabled geo (applicable.device_or_disabled present) spurned⟩
  | some device =>
    have adopts := adopts_of_present present
    cases profile : world.context.enabled with
    | false =>
      refine reset [] (by rw [adopts, profile, Bool.false_and]) ?_
      simp only [attempt, applyDevice, present, profile, if_true]
    | true =>
      cases system : device.system id with
      | none =>
        refine reset [] (by rw [adopts, system]; exact Bool.and_false _) ?_
        simp [attempt, applyDevice, present, profile, system]
      | some name =>
        by_cases headset : id = 0
        · subst headset
          obtain ⟨still, agrees⟩ :=
            applyHeadset_spec geo exchange entries applicable present profile system
          exact ⟨still, fun other => absurd rfl other, agrees⟩
        · by_cases target : name = world.context.targetTrackingSystem
          · have adopted : world.adopts id = true := by
              rw [adopts, profile, system, target, decide_eq_true rfl]
              rfl
            have taken : attempt = sendDeviceTransformIfChanged exchange id
                (world.context.transformPayload geo (world.caches.lastApplied id) id) world := by
              simp [attempt, applyDevice, present, profile, system, headset, target]
            obtain ⟨still, only, holds⟩ := sendDeviceTransformIfChanged_spec exchange inRange
              (transformPayload_complete geo world.context (world.caches.lastApplied id) id) entries
            rw [taken]
            refine ⟨still, fun _ => only, fun returned => ?_⟩
            have held := holds returned fun _ cached => applicable.same_process adopted cached
            refine ⟨?_, ?_, ?_⟩
            · rw [World.adopts, only.context_eq, only.devices_eq]
              exact held.enabled_eq.trans adopted.symm
            · rw [only.context_eq]
              exact held.target_eq
            · rw [only.context_eq]
              exact held.scale_eq
          · refine reset name ?_ ?_
            · rw [adopts, system]
              simp [target]
            · simp [attempt, applyDevice, present, profile, system, headset, target]

/-! ### Runs -/

variable {geo}

/-- The entries hold, and the slots of the devices that were passed agree. -/
structure ScanInvariant (geo : OverlayGeometry Vec Rot) (world : World Vec Rot) : Prop where
  entries : EntriesHold world.caches world.link
  passed : ∀ id < world.phase.passed, SlotAgrees geo world id
  inRange : ∀ id, world.phase = .applying id → id < kMaxTrackedDeviceCount

omit [DecidableEq Vec] [DecidableEq Rot] in
/-- Outside a scan, or before its devices, the entries are all there is to keep. -/
theorem ScanInvariant.of_entries {world : World Vec Rot}
    (entries : EntriesHold world.caches world.link) (early : world.phase.passed = 0)
    (elsewhere : ∀ id, world.phase ≠ .applying id) : ScanInvariant geo world :=
  ⟨entries, fun _ before => absurd before (early ▸ Nat.not_lt_zero _),
    fun id applying => absurd applying (elsewhere id)⟩

omit [DecidableEq Vec] [DecidableEq Rot] in
/-- The invariant after a part of a scan, whether it returned or threw. -/
theorem ScanInvariant.settle {attempt : Attempt Vec Rot} {next : Phase Vec}
    (entries : EntriesHold attempt.2.caches attempt.2.link)
    (passed : attempt.1 = true → ∀ id < next.passed, SlotAgrees geo attempt.2 id)
    (inRange : ∀ id, next = .applying id → id < kMaxTrackedDeviceCount) :
    ScanInvariant geo (attempt.settle next) := by
  unfold Attempt.settle
  cases returned : attempt.1 with
  | false => exact .of_entries entries rfl nofun
  | true => exact ⟨entries, fun id before => (passed returned id before).congr rfl rfl rfl, inRange⟩

theorem scanInvariant_proceed {world after : World Vec Rot} {exchange : Exchange}
    (invariant : ScanInvariant geo world) (met : Undisturbed geo world (.scanProceeded exchange))
    (stepped : proceed geo exchange world = some after) : ScanInvariant geo after := by
  unfold proceed at stepped
  split at stepped
  · cases stepped
  · cases stepped
  · cases stepped
    exact .of_entries invariant.entries rfl nofun
  · rename_i first rest opening
    cases stepped
    exact .settle (openingExecute_entries geo exchange first invariant.entries)
      (fun _ _ before => absurd before (Nat.not_lt_zero _)) nofun
  · rename_i id checking
    have passed := invariant.passed
    rw [checking] at passed
    split at stepped
    · rename_i inRange
      cases stepped
      obtain ⟨entries, only⟩ := checkDevice_spec geo exchange inRange invariant.entries
      refine .settle entries (fun _ other before => ?_) fun _ same => Phase.applying.inj same ▸ inRange
      exact (passed other before).congr only.context_eq only.devices_eq
        (only.slot_eq other (Nat.ne_of_lt before))
    · rename_i last
      cases stepped
      refine ⟨invariant.entries, fun other before => ?_, nofun⟩
      obtain ⟨enabled, target, scale⟩ :=
        passed other (Nat.lt_of_lt_of_le before (Nat.not_lt.mp last))
      exact ⟨enabled, target, scale⟩
  · rename_i id applying
    cases stepped
    have passed := invariant.passed
    have applicable : Applicable geo world id := met id (by rw [applying]; rfl)
    rw [applying] at passed
    obtain ⟨entries, only, agrees⟩ := applyDevice_spec geo exchange
      (invariant.inRange id applying) invariant.entries applicable
    refine .settle entries (fun returned other before => ?_) nofun
    rcases Nat.lt_succ_iff_lt_or_eq.mp before with earlier | rfl
    · have frame := only (Nat.ne_of_gt (Nat.lt_of_le_of_lt (Nat.zero_le other) earlier))
      exact (passed other earlier).congr frame.context_eq frame.devices_eq
        (frame.slot_eq other (Nat.ne_of_lt earlier))
    · exact agrees returned

omit [DecidableEq Vec] [DecidableEq Rot] in
theorem scanInvariant_restart {world : World Vec Rot} (invariant : ScanInvariant geo world)
    (met : Undisturbed geo world .driverRestarted) :
    ScanInvariant geo { world with
      link := world.link.restart geo.toGeometry
      phase := if world.phase.resting then .idle else world.phase } := by
  have entries : EntriesHold world.caches (world.link.restart geo.toGeometry) :=
    invariant.entries.restart
  have disabled (id : Nat) (before : id < world.phase.passed)
      (off : (world.slot id).enabled = false) (phase : Phase Vec) : SlotAgrees geo { world with
        link := world.link.restart geo.toGeometry, phase := phase } id :=
    .of_disabled geo rfl ((invariant.passed id before).enabled_eq.symm.trans off)
  unfold Undisturbed at met
  cases phase : world.phase with
  | idle | completed | opening pending => exact .of_entries entries rfl nofun
  | checking next =>
    rw [phase] at met disabled
    exact ⟨entries, fun id before => disabled id before (met rfl id before) _, nofun⟩
  | applying next =>
    rw [phase] at met disabled
    refine ⟨entries, fun id before => disabled id before (met rfl id before) _, fun id same => ?_⟩
    exact invariant.inRange id (phase.trans same)

theorem scanInvariant_step {world after : World Vec Rot} {event : Event Vec}
    (invariant : ScanInvariant geo world) (met : Undisturbed geo world event)
    (stepped : step geo world event = some after) : ScanInvariant geo after := by
  cases event with
  | edited context | devicesChanged devices =>
    simp only [step] at stepped
    split at stepped
    · cases stepped
      exact .of_entries invariant.entries rfl nofun
    · cases stepped
  | baseStationsShifted =>
    simp only [step] at stepped
    split at stepped
    · cases stepped
      exact .of_entries (.of_none fun _ => rfl) rfl nofun
    · cases stepped
  | driverRestarted =>
    obtain rfl := Option.some.inj stepped
    exact scanInvariant_restart invariant met
  | scanStarted =>
    simp only [step] at stepped
    split at stepped
    · cases stepped
      exact .of_entries invariant.entries rfl nofun
    · cases stepped
  | scanProceeded exchange => exact scanInvariant_proceed invariant met stepped

/-- Overlay and driver agree on the per-device transforms: in every state reached by undisturbed
steps in which a scan has just returned, every slot of the driver is enabled exactly for a device of
the target system under an enabled profile, and aims at the calibrated transform and scale. -/
theorem transforms_agree {context : Context Vec} {world : World Vec Rot}
    (reached : Reaches (step geo) (Undisturbed geo) (initialWorld geo context) world)
    (returned : world.phase = .completed) : TransformsAgree geo world := by
  have invariant : ScanInvariant geo world :=
    reached.invariant (.of_entries (.of_none fun _ => rfl) rfl nofun)
      fun _ _ _ invariant met stepped => scanInvariant_step invariant met stepped
  have passed := invariant.passed
  rw [returned] at passed
  exact passed

end Invariant

/-! ### A tracker that goes, and a driver that restarts -/

def axisOverlay : OverlayGeometry Rat Unit :=
  { axis with eulerRotation := fun _ => () }

/-- A profile that moves the lighthouse system by seven metres. -/
def lighthouseProfile : Context Rat :=
  { validProfile := true
    referenceTrackingSystem := ascii "oculus"
    targetTrackingSystem := ascii "lighthouse"
    calibratedRotation := 0
    calibratedTranslation := 700
    alignmentSpeedParams := speeds }

def headset : Device :=
  { deviceClass := .hmd, serial := some (ascii "HMD-1"), trackingSystem := some (ascii "oculus") }

def tracker : Device :=
  { deviceClass := .genericTracker
    serial := some (ascii "LHR-1")
    trackingSystem := some (ascii "lighthouse") }

/-- A headset, and a tracker with number 3. -/
def bothPresent (id : Nat) : Option Device :=
  if id = 0 then some headset else if id = 3 then some tracker else none

def headsetOnly (id : Nat) : Option Device :=
  if id = 0 then some headset else none

/-- A whole scan of a profile without extras: three requests before the devices, and two steps for
each device. -/
def scan : List (Event Rat) :=
  .scanStarted :: List.replicate (3 + 1 + 2 * kMaxTrackedDeviceCount + 1) (.scanProceeded {})

theorem transforms_agree_scan : ∃ world : World Rat Unit,
    Reaches (step axisOverlay) (Undisturbed axisOverlay)
      (initialWorld axisOverlay lighthouseProfile) world ∧
    (world.slot 3).enabled = true ∧ world.phase = .completed ∧
    TransformsAgree axisOverlay world := by
  obtain ⟨world, reached, enabled, returned⟩ : ∃ world : World Rat Unit,
      Reaches (step axisOverlay) (Undisturbed axisOverlay)
        (initialWorld axisOverlay lighthouseProfile) world ∧
      (world.slot 3).enabled = true ∧ world.phase = .completed :=
    reaches_evaluates (.devicesChanged bothPresent :: scan) (by decide +kernel)
  exact ⟨world, reached, enabled, returned, transforms_agree reached returned⟩

/-- After a scan that enabled the tracker's slot, a second one does not disable it though the tracker
has gone, or does not enable it in the driver that has restarted. -/
theorem second_scan_disagrees :
    (∃ world : World Rat Unit, run (step axisOverlay) (initialWorld axisOverlay lighthouseProfile)
        (Event.devicesChanged bothPresent :: scan ++ Event.devicesChanged headsetOnly :: scan) =
          some world ∧
      world.phase = .completed ∧ world.devices 3 = none ∧ (world.slot 3).enabled = true ∧
      ¬TransformsAgree axisOverlay world) ∧
    ∃ world : World Rat Unit, run (step axisOverlay) (initialWorld axisOverlay lighthouseProfile)
        (Event.devicesChanged bothPresent :: scan ++ Event.driverRestarted :: scan) = some world ∧
      world.phase = .completed ∧ world.adopts 3 = true ∧ (world.slot 3).enabled = false ∧
      ¬TransformsAgree axisOverlay world := by
  refine ⟨?_, ?_⟩
  · obtain ⟨world, ran, returned, absent, enabled, spurned⟩ : ∃ world : World Rat Unit,
        run (step axisOverlay) (initialWorld axisOverlay lighthouseProfile)
          (Event.devicesChanged bothPresent :: scan ++ Event.devicesChanged headsetOnly :: scan) =
            some world ∧
        world.phase = .completed ∧ world.devices 3 = none ∧ (world.slot 3).enabled = true ∧
        world.adopts 3 = false :=
      run_evaluates (by decide +kernel)
    refine ⟨world, ran, returned, absent, enabled, fun agree => ?_⟩
    have agrees := (agree 3 (by decide)).enabled_eq
    rw [enabled, spurned] at agrees
    cases agrees
  · obtain ⟨world, ran, returned, adopted, disabled⟩ : ∃ world : World Rat Unit,
        run (step axisOverlay) (initialWorld axisOverlay lighthouseProfile)
          (Event.devicesChanged bothPresent :: scan ++ Event.driverRestarted :: scan) = some world ∧
        world.phase = .completed ∧ world.adopts 3 = true ∧ (world.slot 3).enabled = false :=
      run_evaluates (by decide +kernel)
    refine ⟨world, ran, returned, adopted, disabled, fun agree => ?_⟩
    have agrees := (agree 3 (by decide)).enabled_eq
    rw [adopted, disabled] at agrees
    cases agrees

end PairDriver.ProfileScan
