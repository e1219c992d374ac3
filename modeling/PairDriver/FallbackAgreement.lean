/-
This file proves when the driver's fallbacks are those of the overlay's context:
the target system of an enabled profile and the systems of the extras in use, each
with its calibration.

The overlay skips a fallback that equals the cached payload of its system, and
withdraws at most one, that of the former target system, behind the cache's back.
Agreement holds in runs where every scan finds nothing else enabled that it does
not submit, finds nothing disabled that the cache makes it skip, submits every
extra in use, and accepts the headset. The last section runs a target system that
is switched away and back.
-/

import PairDriver.FallbackTable
import PairDriver.TransformAgreement

namespace PairDriver.ProfileScan

open Provider

/-! ### Names on the wire -/

/-- The name fits its buffer with a terminator and has no terminator inside. -/
def WireSafe (name : Name) : Prop :=
  name.length < maxTrackingSystemNameLen ∧ ∀ byte ∈ name, byte ≠ 0

instance (name : Name) : Decidable (WireSafe name) :=
  inferInstanceAs (Decidable (_ ∧ _))

theorem bufferName_wireName {name : Name} (safe : WireSafe name) :
    bufferName (wireName name) = name := by
  obtain ⟨short, terminated⟩ := safe
  have fits : name.length ≤ maxTrackingSystemNameLen - 1 := Nat.le_sub_one_of_lt short
  have padded : wireName name = name ++ List.replicate (maxTrackingSystemNameLen - name.length) 0 := by
    rw [wireName, List.take_of_length_le fits, Nat.min_eq_left fits]
  have whole : (wireName name).length ≤ maxTrackingSystemNameLen := by
    rw [padded, List.length_append, List.length_replicate]
    omega
  rw [bufferName, List.take_of_length_le whole, padded, cString,
    List.takeWhile_append_of_pos (by simpa using terminated)]
  simp

section Agreement

variable {Vec Rot : Type} (geo : OverlayGeometry Vec Rot)

/-! ### What the context wants -/

/-- The fallbacks of the context: the target system of an enabled profile, and every extra in use. -/
def Context.wanted (context : Context Vec) : List (Submission Vec) :=
  (if context.enabled ∧ context.targetTrackingSystem ≠ [] then [context.primary] else []) ++
    (context.additionalCalibrations.filter AdditionalCalibration.active).map context.extra

/-- The slot has the values of a payload. -/
structure Carries (payload : SetTrackingSystemFallback Vec Rot) (slot : FallbackSlot Vec Rot) :
    Prop where
  transform_eq : slot.transform = ⟨payload.rotation, payload.translation⟩
  scale_eq : slot.scale = payload.scale
  recalibrateOnMovement_eq : slot.recalibrateOnMovement = payload.recalibrateOnMovement

def World.table (world : World Vec Rot) : List (FallbackSlot Vec Rot) :=
  world.link.driver.systemFallbacks

/-- The fallbacks enabled in the driver are exactly those of the context, with its values. -/
structure FallbacksAgree (world : World Vec Rot) : Prop where
  only : ∀ slot ∈ world.table, slot.enabled = true → ∃ submission ∈ world.context.wanted,
    slot.systemName = submission.systemName ∧ Carries (submission.payload geo) slot
  every : ∀ submission ∈ world.context.wanted, ∃ slot ∈ world.table,
    slot.systemName = submission.systemName ∧ slot.enabled = true

/-- The driver has an enabled fallback for the system. -/
def World.Live (world : World Vec Rot) (name : Name) : Prop :=
  ∃ slot ∈ world.table, slot.systemName = name ∧ slot.enabled = true

instance (world : World Vec Rot) (name : Name) : Decidable (world.Live name) :=
  inferInstanceAs (Decidable (∃ slot ∈ world.table, _))

/-- The context as a scan starts with it. -/
def Context.started (context : Context Vec) : Context Vec :=
  { context with enabled := context.validProfile }

/-- What a scan needs of the state it starts in. -/
structure Startable (systems : List Name) (world : World Vec Rot) : Prop where
  /-- The names of the context are among the given systems, and fit their buffers. -/
  named : ∀ name ∈ world.context.targetTrackingSystem ::
      world.context.additionalCalibrations.map AdditionalCalibration.targetTrackingSystem,
    name ≠ [] → WireSafe name ∧ name ∈ systems
  /-- An extra in use has the target system only if the profile is valid. -/
  covered : world.context.validProfile = false →
    ∀ extra ∈ world.context.additionalCalibrations, extra.active = true →
      extra.targetTrackingSystem ≠ world.context.targetTrackingSystem
  /-- What is enabled is submitted again, or is the former target system that is withdrawn. -/
  dropped : ∀ slot ∈ world.table, slot.enabled = true →
    (∃ submission ∈ world.context.started.submissions,
      submission.systemName = slot.systemName) ∨
    withdrawn world.context world.caches = some slot.systemName
  /-- What is submitted is enabled and not withdrawn, or one of its submissions is not cached. -/
  resumed : ∀ submission ∈ world.context.started.submissions,
    (world.Live submission.systemName ∧
      withdrawn world.context world.caches ≠ some submission.systemName) ∨
    ∃ other ∈ world.context.started.submissions, other.systemName = submission.systemName ∧
      world.caches.lastFallbacksBySystem submission.systemName ≠ some (other.payload geo)

/-- The headset a scan finds is of the reference system, where the target system's fallback depends
on it. -/
def HeadsetAccepted (world : World Vec Rot) : Prop :=
  world.context.enabled = true → world.context.targetTrackingSystem ≠ [] →
    ∀ device ∈ world.devices 0, ∀ system ∈ device.system 0,
      system = world.context.referenceTrackingSystem

/-- One driver process, requests that are answered, scans that find a startable state, and a headset
that is accepted. -/
def Consistent (systems : List Name) (world : World Vec Rot) : Event Vec → Prop
  | .driverRestarted => False
  | .scanStarted => Startable geo systems world
  | .scanProceeded exchange => exchange.connects = true ∧ exchange.transfers = true ∧
      (world.phase = .applying 0 → HeadsetAccepted world)
  | _ => True

instance [DecidableEq Vec] [DecidableEq Rot] (systems : List Name) (world : World Vec Rot) :
    Decidable (Startable geo systems world) :=
  decidable_of_iff
    ((∀ name ∈ world.context.targetTrackingSystem ::
        world.context.additionalCalibrations.map AdditionalCalibration.targetTrackingSystem,
      name ≠ [] → WireSafe name ∧ name ∈ systems) ∧
    (world.context.validProfile = false →
      ∀ extra ∈ world.context.additionalCalibrations, extra.active = true →
        extra.targetTrackingSystem ≠ world.context.targetTrackingSystem) ∧
    (∀ slot ∈ world.table, slot.enabled = true →
      (∃ submission ∈ world.context.started.submissions,
        submission.systemName = slot.systemName) ∨
      withdrawn world.context world.caches = some slot.systemName) ∧
    ∀ submission ∈ world.context.started.submissions,
      (world.Live submission.systemName ∧
        withdrawn world.context world.caches ≠ some submission.systemName) ∨
      ∃ other ∈ world.context.started.submissions, other.systemName = submission.systemName ∧
        world.caches.lastFallbacksBySystem submission.systemName ≠ some (other.payload geo))
    ⟨fun ⟨named, covered, dropped, resumed⟩ => ⟨named, covered, dropped, resumed⟩,
      fun ⟨named, covered, dropped, resumed⟩ => ⟨named, covered, dropped, resumed⟩⟩

instance (world : World Vec Rot) : Decidable (HeadsetAccepted world) :=
  inferInstanceAs (Decidable (_ → _ → ∀ device ∈ world.devices 0, ∀ system ∈ device.system 0, _))

instance [DecidableEq Vec] [DecidableEq Rot] (systems : List Name) (world : World Vec Rot)
    (event : Event Vec) : Decidable (Consistent geo systems world event) :=
  match event with
  | .driverRestarted => inferInstanceAs (Decidable False)
  | .scanStarted => inferInstanceAs (Decidable (Startable geo systems world))
  | .scanProceeded _ => inferInstanceAs (Decidable (_ ∧ _ ∧ _))
  | .edited _ | .devicesChanged _ | .baseStationsShifted => inferInstanceAs (Decidable True)

end Agreement

section Invariant

variable {Vec Rot : Type} {geo : OverlayGeometry Vec Rot} {systems : List Name}

/-! ### Submissions -/

theorem submissions_name {context : Context Vec} {submission : Submission Vec}
    (member : submission ∈ context.submissions) : submission.systemName ≠ [] ∧
      submission.systemName ∈ context.targetTrackingSystem ::
        context.additionalCalibrations.map AdditionalCalibration.targetTrackingSystem := by
  rcases List.mem_append.mp member with primary | extras
  · split at primary
    · rename_i submitted
      obtain rfl := List.mem_singleton.mp primary
      exact ⟨submitted.2, List.mem_cons_self⟩
    · cases primary
  · obtain ⟨extra, chosen, rfl⟩ := List.mem_map.mp extras
    obtain ⟨inContext, used⟩ := List.mem_filter.mp chosen
    simp only [AdditionalCalibration.active, Bool.and_eq_true, decide_eq_true_iff] at used
    exact ⟨used.1.2, List.mem_cons_of_mem _ (List.mem_map_of_mem inContext)⟩

theorem submissions_subset_wanted {context : Context Vec} {submission : Submission Vec}
    (member : submission ∈ context.submissions) : submission ∈ context.wanted := by
  rcases List.mem_append.mp member with primary | extras
  · exact List.mem_append_left _ primary
  · obtain ⟨extra, chosen, rfl⟩ := List.mem_map.mp extras
    obtain ⟨inContext, used⟩ := List.mem_filter.mp chosen
    refine List.mem_append_right _ (List.mem_map_of_mem (List.mem_filter.mpr ⟨inContext, ?_⟩))
    exact (Bool.and_eq_true_iff.mp used).1

/-- An extra in use has the target system only under an enabled profile. -/
def Context.Covered (context : Context Vec) : Prop :=
  ∀ extra ∈ context.additionalCalibrations, extra.active = true →
    extra.targetTrackingSystem = context.targetTrackingSystem → context.enabled = true

/-- Every system the context wants is then submitted. -/
theorem wanted_submitted {context : Context Vec} (covered : context.Covered)
    {wanted : Submission Vec} (member : wanted ∈ context.wanted) :
    ∃ submission ∈ context.submissions, submission.systemName = wanted.systemName := by
  rcases List.mem_append.mp member with primary | extras
  · exact ⟨wanted, List.mem_append_left _ primary, rfl⟩
  · obtain ⟨extra, chosen, rfl⟩ := List.mem_map.mp extras
    obtain ⟨inContext, used⟩ := List.mem_filter.mp chosen
    by_cases same : extra.targetTrackingSystem = context.targetTrackingSystem
    · have nonempty : context.targetTrackingSystem ≠ [] := by
        simp only [AdditionalCalibration.active, Bool.and_eq_true, decide_eq_true_iff] at used
        exact same ▸ used.2
      refine ⟨context.primary, List.mem_append_left _ ?_, same.symm⟩
      rw [if_pos ⟨covered extra inContext used same, nonempty⟩]
      exact List.mem_singleton_self _
    · refine ⟨context.extra extra, List.mem_append_right _ (List.mem_map_of_mem ?_), rfl⟩
      exact List.mem_filter.mpr ⟨inContext, by simp [used, same]⟩

/-! ### The invariant -/

/-- What holds in every state: the table is in order, a cached payload is what the slot of its system
carries, enabled or not, and the former target system fits its buffer. -/
structure Steady (systems : List Name) (world : World Vec Rot) : Prop where
  tabled : Tabled systems world.table
  cached : ∀ name payload, world.caches.lastFallbacksBySystem name = some payload →
    ∃ slot ∈ world.table, slot.systemName = name ∧ Carries payload slot
  former : world.caches.lastTargetSystem ≠ [] → WireSafe world.caches.lastTargetSystem

/-- The fallbacks of a scan that has the given submissions still to do. -/
structure Submitting (geo : OverlayGeometry Vec Rot) (systems : List Name) (world : World Vec Rot)
    (rest : List (Submission Vec)) : Prop where
  named : ∀ submission ∈ world.context.submissions,
    WireSafe submission.systemName ∧ submission.systemName ∈ systems
  covered : world.context.Covered
  subset : ∀ submission ∈ rest, submission ∈ world.context.submissions
  only : ∀ slot ∈ world.table, slot.enabled = true →
    ∃ submission ∈ world.context.submissions, submission.systemName = slot.systemName
  live : ∀ submission ∈ world.context.submissions, world.Live submission.systemName ∨
    ∃ other ∈ rest, other.systemName = submission.systemName ∧
      world.caches.lastFallbacksBySystem submission.systemName ≠ some (other.payload geo)
  valued : ∀ submission ∈ world.context.submissions,
    (∃ other ∈ rest, other.systemName = submission.systemName) ∨
    ∃ other ∈ world.context.submissions, other.systemName = submission.systemName ∧
      world.caches.lastFallbacksBySystem submission.systemName = some (other.payload geo)

/-- With nothing left to submit, the fallbacks agree. -/
theorem Submitting.agree {world : World Vec Rot} (submitting : Submitting geo systems world [])
    (steady : Steady systems world) : FallbacksAgree geo world where
  only slot member enabled := by
    obtain ⟨submission, submitted, named⟩ := submitting.only slot member enabled
    obtain ⟨_, missing, _⟩ | ⟨other, otherSubmitted, same, cached⟩ :=
      submitting.valued submission submitted
    · cases missing
    · obtain ⟨holder, inTable, holderNamed, carries⟩ := steady.cached _ _ cached
      have unique := steady.tabled.distinct.eq_of_name inTable member (holderNamed.trans named)
      exact ⟨other, submissions_subset_wanted otherSubmitted, (same.trans named).symm, unique ▸ carries⟩
  every wanted member := by
    obtain ⟨submission, submitted, named⟩ := wanted_submitted submitting.covered member
    obtain live | ⟨_, missing, _⟩ := submitting.live submission submitted
    · exact named ▸ live
    · cases missing

/-- Nothing of the fallbacks has changed. -/
structure SameFallbacks (before after : World Vec Rot) : Prop where
  table_eq : after.table = before.table
  cached_eq : after.caches.lastFallbacksBySystem = before.caches.lastFallbacksBySystem
  former_eq : after.caches.lastTargetSystem = before.caches.lastTargetSystem

theorem Steady.congr {before after : World Vec Rot} (steady : Steady systems before)
    (same : SameFallbacks before after) : Steady systems after where
  tabled := same.table_eq ▸ steady.tabled
  cached := by
    rw [same.table_eq, same.cached_eq]
    exact steady.cached
  former := by
    rw [same.former_eq]
    exact steady.former

theorem Submitting.congr {before after : World Vec Rot} {rest : List (Submission Vec)}
    (submitting : Submitting geo systems before rest) (same : SameFallbacks before after)
    (submissions : after.context.submissions = before.context.submissions)
    (covered : after.context.Covered) : Submitting geo systems after rest where
  named := by
    rw [submissions]
    exact submitting.named
  covered := covered
  subset := by
    rw [submissions]
    exact submitting.subset
  only := by
    rw [submissions, same.table_eq]
    exact submitting.only
  live := by
    simp only [World.Live, submissions, same.table_eq, same.cached_eq]
    exact submitting.live
  valued := by
    rw [submissions, same.cached_eq]
    exact submitting.valued

/-! ### Withdrawing the former target -/

variable (geo) in
theorem setTrackingSystemFallback_disable (now : Nat) {name : Name} (safe : WireSafe name)
    (nonempty : name ≠ []) (driver : Driver Vec Rot) :
    (driver.setTrackingSystemFallback now (disablePayload geo name)).systemFallbacks =
      modifySlot name (fun slot => { slot with enabled := false }) driver.systemFallbacks := by
  have onWire : bufferName (disablePayload geo name).systemName = name := bufferName_wireName safe
  unfold Driver.setTrackingSystemFallback
  dsimp only
  rw [onWire, if_neg nonempty]
  rfl

theorem Steady.disable {world after : World Vec Rot} (steady : Steady systems world) {name : Name}
    (table : after.table = modifySlot name (fun slot => { slot with enabled := false }) world.table)
    (cached : after.caches.lastFallbacksBySystem = world.caches.lastFallbacksBySystem)
    (former : after.caches.lastTargetSystem ≠ [] → WireSafe after.caches.lastTargetSystem) :
    Steady systems after where
  tabled := table ▸ steady.tabled.disable name
  cached system payload entry := by
    rw [cached] at entry
    obtain ⟨slot, member, named, carries⟩ := steady.cached system payload entry
    rw [table]
    by_cases same : slot.systemName = name
    · refine ⟨{ slot with enabled := false },
        (mem_modifySlot_iff steady.tabled.distinct).mpr (.inr ⟨slot, member, same, rfl⟩), named, ?_⟩
      exact ⟨carries.transform_eq, carries.scale_eq, carries.recalibrateOnMovement_eq⟩
    · exact ⟨slot, (mem_modifySlot_iff steady.tabled.distinct).mpr (.inl ⟨member, same⟩), named,
        carries⟩
  former := former

theorem withdrawn_some {context : Context Vec} {caches : Caches Vec Rot} {name : Name}
    (found : withdrawn context caches = some name) :
    caches.lastTargetSystem = name ∧ name ≠ [] ∧ context.targetTrackingSystem ≠ name := by
  unfold withdrawn at found
  split at found
  · rename_i changed
    obtain rfl := Option.some.inj found
    exact ⟨rfl, changed.2.1, changed.1⟩
  · cases found

/-- A startable state in which the former target has been withdrawn is ready for the submissions. -/
theorem Startable.submitting {world after : World Vec Rot}
    (startable : Startable geo systems world) (started : world.context.started = world.context)
    (context : after.context = world.context)
    (cached : after.caches.lastFallbacksBySystem = world.caches.lastFallbacksBySystem)
    (contents : ∀ slot, slot ∈ after.table ∧ slot.enabled = true ↔
      (slot ∈ world.table ∧ slot.enabled = true) ∧
        withdrawn world.context world.caches ≠ some slot.systemName) :
    Submitting geo systems after world.context.submissions := by
  have profile : world.context.enabled = world.context.validProfile :=
    congrArg Context.enabled started.symm
  have dropped := startable.dropped
  have resumed := startable.resumed
  rw [started] at dropped resumed
  refine ⟨?_, ?_, ?_, ?_, ?_, ?_⟩
  · rw [context]
    intro submission member
    obtain ⟨nonempty, inContext⟩ := submissions_name member
    exact startable.named _ inContext nonempty
  · rw [context]
    intro extra member used same
    by_contra disabled
    exact startable.covered (profile.symm.trans (Bool.eq_false_iff.mpr disabled)) extra member used same
  · rw [context]
    exact fun _ member => member
  · rw [context]
    intro slot member enabled
    obtain ⟨⟨old, _⟩, kept⟩ := (contents slot).mp ⟨member, enabled⟩
    exact (dropped slot old enabled).resolve_right kept
  · rw [context, cached]
    intro submission member
    rcases resumed submission member with ⟨⟨slot, old, named, enabled⟩, kept⟩ | differs
    · obtain ⟨inTable, _⟩ := (contents slot).mpr ⟨⟨old, enabled⟩, named ▸ kept⟩
      exact .inl ⟨slot, inTable, named, enabled⟩
    · exact .inr differs
  · rw [context]
    exact fun submission member => .inl ⟨submission, member, rfl⟩

/-- The step that withdraws the former target leaves the scan ready for its submissions. -/
theorem resetOnChange_spec {world : World Vec Rot} {exchange : Exchange}
    (connects : exchange.connects = true) (transfers : exchange.transfers = true)
    (steady : Steady systems world) (startable : Startable geo systems world)
    (started : world.context.started = world.context) :
    ∃ after : World Vec Rot, resetOnChange geo exchange world = (true, after) ∧
      after.context = world.context ∧ Steady systems after ∧
      Submitting geo systems after world.context.submissions := by
  have target (nonempty : world.context.targetTrackingSystem ≠ []) :
      WireSafe world.context.targetTrackingSystem :=
    (startable.named _ List.mem_cons_self nonempty).1
  have unchanged (after : World Vec Rot) (nothing : withdrawn world.context world.caches = none)
      (context : after.context = world.context) (table : after.table = world.table)
      (cached : after.caches.lastFallbacksBySystem = world.caches.lastFallbacksBySystem) :
      Submitting geo systems after world.context.submissions := by
    refine startable.submitting started context cached fun slot => ?_
    rw [table, nothing]
    exact ⟨fun enabled => ⟨enabled, nofun⟩, And.left⟩
  cases found : withdrawn world.context world.caches with
  | none =>
    unfold resetOnChange
    rw [found]
    split
    · exact ⟨_, rfl, rfl, ⟨steady.tabled, steady.cached, target⟩, unchanged _ found rfl rfl rfl⟩
    · exact ⟨world, rfl, rfl, steady, unchanged world found rfl rfl rfl⟩
  | some name =>
    obtain ⟨former, nonempty, changed⟩ := withdrawn_some found
    have safe : WireSafe name := former ▸ steady.former (former ▸ nonempty)
    obtain ⟨link, driver, sent⟩ := world.send_answered connects transfers
      (.setTrackingSystemFallback (disablePayload geo name)) (Caches.startOver world.context)
    have table : link.driver.systemFallbacks =
        modifySlot name (fun slot => { slot with enabled := false }) world.table := by
      rw [driver]
      exact setTrackingSystemFallback_disable geo exchange.now safe nonempty world.link.driver
    refine ⟨{ world with link := link, caches := world.caches.startOver world.context }, ?_, rfl,
      steady.disable table rfl target, startable.submitting started rfl rfl fun slot => ?_⟩
    · unfold resetOnChange
      rw [if_pos (.inl (former.symm ▸ changed)), found]
      exact sent
    · show slot ∈ link.driver.systemFallbacks ∧ slot.enabled = true ↔ _
      rw [table, mem_modifySlot_iff steady.tabled.distinct, found]
      constructor
      · rintro ⟨⟨member, different⟩ | ⟨old, _, _, rfl⟩, enabled⟩
        · exact ⟨⟨member, enabled⟩, fun same => different (Option.some.inj same).symm⟩
        · cases enabled
      · rintro ⟨⟨member, enabled⟩, different⟩
        exact ⟨.inl ⟨member, fun same => different (congrArg some same.symm)⟩, enabled⟩

/-! ### Submitting a fallback -/

variable (geo) in
theorem setTrackingSystemFallback_store (now : Nat) {submission : Submission Vec}
    (safe : WireSafe submission.systemName) (nonempty : submission.systemName ≠ [])
    (driver : Driver Vec Rot) :
    (driver.setTrackingSystemFallback now (submission.payload geo)).systemFallbacks =
      storeFallback (submission.payload geo) driver.systemFallbacks := by
  have onWire : bufferName (submission.payload geo).systemName = submission.systemName :=
    bufferName_wireName safe
  unfold Driver.setTrackingSystemFallback
  dsimp only
  rw [onWire, if_neg nonempty]
  rfl

/-- What a submission that is sent changes: the slot and the cached payload of its system. -/
structure Stored (geo : OverlayGeometry Vec Rot) (submission : Submission Vec)
    (before after : World Vec Rot) : Prop where
  context_eq : after.context = before.context
  others : ∀ slot : FallbackSlot Vec Rot, slot.systemName ≠ submission.systemName →
    (slot ∈ after.table ↔ slot ∈ before.table)
  own : ∃ slot ∈ after.table, slot.systemName = submission.systemName ∧ slot.enabled = true ∧
    Carries (submission.payload geo) slot
  cached_eq : after.caches.lastFallbacksBySystem = Function.update
    before.caches.lastFallbacksBySystem submission.systemName (some (submission.payload geo))

theorem Stored.steady {submission : Submission Vec} {before after : World Vec Rot}
    (stored : Stored geo submission before after) (steady : Steady systems before)
    (tabled : Tabled systems after.table)
    (former : after.caches.lastTargetSystem = before.caches.lastTargetSystem) :
    Steady systems after where
  tabled := tabled
  cached name payload entry := by
    rw [stored.cached_eq] at entry
    by_cases same : name = submission.systemName
    · subst same
      rw [Function.update_self] at entry
      obtain rfl := Option.some.inj entry
      obtain ⟨slot, member, named, _, carries⟩ := stored.own
      exact ⟨slot, member, named, carries⟩
    · rw [Function.update_of_ne same] at entry
      obtain ⟨slot, member, rfl, carries⟩ := steady.cached name payload entry
      exact ⟨slot, (stored.others slot same).mpr member, rfl, carries⟩
  former := by
    rw [former]
    exact steady.former

theorem Stored.submitting {submission : Submission Vec} {rest : List (Submission Vec)}
    {before after : World Vec Rot} (stored : Stored geo submission before after)
    (submitting : Submitting geo systems before (submission :: rest)) :
    Submitting geo systems after rest := by
  have head := submitting.subset submission List.mem_cons_self
  refine ⟨?_, ?_, ?_, ?_, ?_, ?_⟩ <;> rw [stored.context_eq]
  · exact submitting.named
  · exact submitting.covered
  · exact fun other member => submitting.subset other (List.mem_cons_of_mem _ member)
  · intro slot member enabled
    by_cases same : slot.systemName = submission.systemName
    · exact ⟨submission, head, same.symm⟩
    · exact submitting.only slot ((stored.others slot same).mp member) enabled
  · intro other member
    by_cases same : other.systemName = submission.systemName
    · obtain ⟨slot, inTable, named, enabled, _⟩ := stored.own
      exact .inl ⟨slot, inTable, named.trans same.symm, enabled⟩
    · rw [stored.cached_eq, Function.update_of_ne same]
      obtain ⟨slot, inTable, named, enabled⟩ | ⟨next, nextMember, named, differs⟩ :=
        submitting.live other member
      · exact .inl ⟨slot, (stored.others slot (named ▸ same)).mpr inTable, named, enabled⟩
      · rcases List.mem_cons.mp nextMember with rfl | inRest
        · exact absurd named.symm same
        · exact .inr ⟨next, inRest, named, differs⟩
  · intro other member
    by_cases same : other.systemName = submission.systemName
    · rw [stored.cached_eq, same, Function.update_self]
      exact .inr ⟨submission, head, rfl, rfl⟩
    · rw [stored.cached_eq, Function.update_of_ne same]
      obtain ⟨next, nextMember, named⟩ | valued := submitting.valued other member
      · rcases List.mem_cons.mp nextMember with rfl | inRest
        · exact absurd named.symm same
        · exact .inl ⟨next, inRest, named⟩
      · exact .inr valued

/-- A submission that equals the cached payload changes nothing. -/
theorem Submitting.skip {world : World Vec Rot} {submission : Submission Vec}
    {rest : List (Submission Vec)} (submitting : Submitting geo systems world (submission :: rest))
    (cached : world.caches.lastFallbacksBySystem submission.systemName =
      some (submission.payload geo)) : Submitting geo systems world rest where
  named := submitting.named
  covered := submitting.covered
  subset other member := submitting.subset other (List.mem_cons_of_mem _ member)
  only := submitting.only
  live other member := by
    obtain live | ⟨next, nextMember, named, differs⟩ := submitting.live other member
    · exact .inl live
    · rcases List.mem_cons.mp nextMember with rfl | inRest
      · exact absurd (named ▸ cached) differs
      · exact .inr ⟨next, inRest, named, differs⟩
  valued other member := by
    obtain ⟨next, nextMember, named⟩ | valued := submitting.valued other member
    · rcases List.mem_cons.mp nextMember with rfl | inRest
      · exact .inr ⟨next, submitting.subset next nextMember, named, named ▸ cached⟩
      · exact .inl ⟨next, inRest, named⟩
    · exact .inr valued

variable [DecidableEq Vec] [DecidableEq Rot]

/-- One submission is done. -/
theorem sendFallbackIfChanged_spec {world : World Vec Rot} {exchange : Exchange}
    (few : systems.length ≤ maxFallbackSlots) (connects : exchange.connects = true)
    (transfers : exchange.transfers = true) {submission : Submission Vec}
    {rest : List (Submission Vec)} (steady : Steady systems world)
    (submitting : Submitting geo systems world (submission :: rest)) :
    ∃ after : World Vec Rot, sendFallbackIfChanged geo exchange submission world = (true, after) ∧
      Steady systems after ∧ Submitting geo systems after rest := by
  unfold sendFallbackIfChanged
  dsimp only
  split
  · rename_i cached
    exact ⟨world, rfl, steady, submitting.skip cached⟩
  · have head := submitting.subset submission List.mem_cons_self
    obtain ⟨safe, known⟩ := submitting.named submission head
    have onWire : bufferName (submission.payload geo).systemName = submission.systemName :=
      bufferName_wireName safe
    obtain ⟨link, driver, sent⟩ := world.send_answered connects transfers
      (.setTrackingSystemFallback (submission.payload geo))
      (Caches.rememberFallback submission.systemName (submission.payload geo))
    have table : link.driver.systemFallbacks =
        storeFallback (submission.payload geo) world.table := by
      rw [driver]
      exact setTrackingSystemFallback_store geo exchange.now safe (submissions_name head).1 _
    have member : bufferName (submission.payload geo).systemName ∈ systems := onWire ▸ known
    obtain ⟨smoothness, contents⟩ := steady.tabled.mem_store_iff few member
    have stored : Stored geo submission world { world with
        link := link
        caches := world.caches.rememberFallback submission.systemName (submission.payload geo) } := by
      refine ⟨rfl, fun slot different => ?_, ?_, rfl⟩
      · show slot ∈ link.driver.systemFallbacks ↔ _
        rw [table, contents, onWire]
        constructor
        · rintro (⟨old, _⟩ | rfl)
          · exact old
          · exact absurd onWire different
        · exact fun old => .inl ⟨old, different⟩
      · refine ⟨requestedSlot (submission.payload geo) smoothness, ?_, onWire, rfl, ⟨rfl, rfl, rfl⟩⟩
        show _ ∈ link.driver.systemFallbacks
        rw [table, contents]
        exact .inr rfl
    have tabled : Tabled systems link.driver.systemFallbacks :=
      table ▸ steady.tabled.store few member
    exact ⟨_, sent, stored.steady steady tabled rfl, stored.submitting submitting⟩

/-! ### The devices -/

omit [DecidableEq Vec] [DecidableEq Rot] in
theorem setDeviceTransform_systemFallbacks (now : Nat) (payload : SetDeviceTransform Vec Rot)
    (driver : Driver Vec Rot) :
    (driver.setDeviceTransform now payload).systemFallbacks = driver.systemFallbacks := by
  unfold Driver.setDeviceTransform
  split <;> rfl

theorem sendDeviceTransformIfChanged_sameFallbacks (exchange : Exchange) (id : Nat)
    (payload : SetDeviceTransform Vec Rot) (world : World Vec Rot) :
    SameFallbacks world (sendDeviceTransformIfChanged exchange id payload world).2 ∧
      (sendDeviceTransformIfChanged exchange id payload world).2.context = world.context := by
  unfold sendDeviceTransformIfChanged
  split
  · exact ⟨⟨rfl, rfl, rfl⟩, rfl⟩
  · obtain ⟨link, _, ⟨driver, sent⟩ | ⟨driver, sent⟩⟩ := world.send_cases exchange
      (.setDeviceTransform payload) (Caches.rememberTransform world.link.process id payload)
    · rw [sent]
      refine ⟨⟨?_, rfl, rfl⟩, rfl⟩
      show link.driver.systemFallbacks = _
      rw [driver]
      exact setDeviceTransform_systemFallbacks exchange.now payload world.link.driver
    · rw [sent]
      refine ⟨⟨?_, rfl, rfl⟩, rfl⟩
      show link.driver.systemFallbacks = _
      rw [driver]
      rfl

variable (geo)

theorem checkDevice_sameFallbacks (exchange : Exchange) (id : Nat) (world : World Vec Rot) :
    SameFallbacks world (checkDevice geo exchange id world).2 ∧
      (checkDevice geo exchange id world).2.context = world.context := by
  unfold checkDevice
  dsimp only
  split
  · split
    · exact ⟨⟨rfl, rfl, rfl⟩, rfl⟩
    · exact ⟨⟨rfl, rfl, rfl⟩, rfl⟩
  · split
    · exact ⟨⟨rfl, rfl, rfl⟩, rfl⟩
    · split
      · exact ⟨⟨rfl, rfl, rfl⟩, rfl⟩
      · obtain ⟨same, context⟩ := sendDeviceTransformIfChanged_sameFallbacks exchange id
          (resetPayload geo id []) { world with caches := world.caches.forgetTransform id }
        split
        · exact ⟨⟨same.table_eq, same.cached_eq, same.former_eq⟩, context⟩
        · exact ⟨⟨same.table_eq, same.cached_eq, same.former_eq⟩, context⟩

/-- The context is the same, or the headset was not accepted and has disabled the profile. -/
def HeadsetChecked (id : Nat) (before after : World Vec Rot) : Prop :=
  after.context = before.context ∨
    (id = 0 ∧ before.context.enabled = true ∧
      (∃ device ∈ before.devices 0, ∃ system ∈ device.system 0,
        system ≠ before.context.referenceTrackingSystem) ∧
      after.context = { before.context with enabled := false })

theorem applyDevice_sameFallbacks (exchange : Exchange) (id : Nat) (world : World Vec Rot) :
    SameFallbacks world (applyDevice geo exchange id world).2 ∧
      HeadsetChecked id world (applyDevice geo exchange id world).2 := by
  have sent (payload : SetDeviceTransform Vec Rot) :
      SameFallbacks world (sendDeviceTransformIfChanged exchange id payload world).2 ∧
      HeadsetChecked id world (sendDeviceTransformIfChanged exchange id payload world).2 :=
    (sendDeviceTransformIfChanged_sameFallbacks exchange id payload world).imp_right Or.inl
  unfold applyDevice
  split
  · exact ⟨⟨rfl, rfl, rfl⟩, .inl rfl⟩
  · rename_i device present
    split
    · exact sent _
    · rename_i profile
      split
      · exact sent _
      · rename_i system known
        split
        · rename_i headset
          subst headset
          dsimp only
          split
          · rename_i mismatch
            obtain ⟨same, context⟩ := sendDeviceTransformIfChanged_sameFallbacks exchange 0
              (resetPayload geo 0 system)
              { world with context := { world.context with enabled := false } }
            exact ⟨⟨same.table_eq, same.cached_eq, same.former_eq⟩, .inr ⟨rfl,
              Bool.of_not_eq_false profile, ⟨device, present, system, known, mismatch⟩, context⟩⟩
          · exact sent _
        · split
          · exact sent _
          · exact sent _

/-! ### Runs -/

/-- What holds of the fallbacks at a phase of a scan. -/
def Underway (systems : List Name) (world : World Vec Rot) : Phase Vec → Prop
  | .idle => True
  | .opening pending =>
    (pending = world.context.openings ∧ world.context.started = world.context ∧
      Startable geo systems world) ∨
    ∃ rest, (pending = .alignmentSpeed :: rest.map .fallback ∨ pending = rest.map .fallback) ∧
      Submitting geo systems world rest
  | .checking _ | .applying _ | .completed => Submitting geo systems world []

structure FallbackInvariant (systems : List Name) (world : World Vec Rot) : Prop where
  steady : Steady systems world
  underway : Underway geo systems world world.phase

variable {geo}

omit [DecidableEq Vec] [DecidableEq Rot] in
theorem Submitting.setPhase {world : World Vec Rot} {rest : List (Submission Vec)}
    (submitting : Submitting geo systems world rest) (phase : Phase Vec) :
    Submitting geo systems { world with phase := phase } rest :=
  submitting.congr ⟨rfl, rfl, rfl⟩ rfl submitting.covered

omit [DecidableEq Vec] [DecidableEq Rot] in
/-- The invariant after a part of a scan, whether it returned or threw. -/
theorem FallbackInvariant.settle {attempt : Attempt Vec Rot} {next : Phase Vec}
    (steady : Steady systems attempt.2) (underway : Underway geo systems attempt.2 next) :
    FallbackInvariant geo systems (attempt.settle next) := by
  refine ⟨steady.congr ⟨rfl, rfl, rfl⟩, ?_⟩
  unfold Attempt.settle
  cases attempt.1 with
  | false => trivial
  | true =>
    cases next with
    | idle => trivial
    | opening pending =>
      obtain ⟨all, started, startable⟩ | ⟨rest, start, submitting⟩ := underway
      · exact .inl ⟨all, started, ⟨startable.named, startable.covered, startable.dropped,
          startable.resumed⟩⟩
      · exact .inr ⟨rest, start, submitting.setPhase _⟩
    | checking id | applying id | completed => exact Submitting.setPhase underway _

omit [DecidableEq Vec] [DecidableEq Rot] in
theorem sendAlignmentSpeed_spec {exchange : Exchange} (connects : exchange.connects = true)
    (transfers : exchange.transfers = true) (world : World Vec Rot) :
    ∃ after : World Vec Rot, sendAlignmentSpeed exchange world = (true, after) ∧
      SameFallbacks world after ∧ after.context = world.context := by
  unfold sendAlignmentSpeed
  dsimp only
  split
  · exact ⟨world, rfl, ⟨rfl, rfl, rfl⟩, rfl⟩
  · obtain ⟨link, driver, sent⟩ := world.send_answered connects transfers
      (.setAlignmentSpeedParams world.context.alignmentSpeedParams) fun caches =>
        { caches with lastAlignmentSpeed := some world.context.alignmentSpeedParams }
    exact ⟨_, sent, ⟨congrArg Driver.systemFallbacks driver, rfl, rfl⟩, rfl⟩

theorem fallbackInvariant_opening {world : World Vec Rot} {exchange : Exchange}
    {first : Opening Vec} {rest : List (Opening Vec)} (few : systems.length ≤ maxFallbackSlots)
    (connects : exchange.connects = true) (transfers : exchange.transfers = true)
    (steady : Steady systems world)
    (underway : Underway geo systems world (.opening (first :: rest))) :
    FallbackInvariant geo systems ((first.execute geo exchange world).settle (.opening rest)) := by
  obtain ⟨all, started, startable⟩ | ⟨pending, start | start, submitting⟩ := underway
  · obtain ⟨rfl, rfl⟩ := List.cons.inj all
    obtain ⟨after, done, context, steadyAfter, submitting⟩ :=
      resetOnChange_spec connects transfers steady startable started
    rw [Opening.execute, done]
    exact .settle steadyAfter (.inr ⟨world.context.submissions, .inl rfl, submitting⟩)
  · obtain ⟨rfl, rfl⟩ := List.cons.inj start
    obtain ⟨after, done, same, context⟩ := sendAlignmentSpeed_spec connects transfers world
    rw [Opening.execute, done]
    refine .settle (steady.congr same) (.inr ⟨pending, .inr rfl, ?_⟩)
    exact submitting.congr same (by rw [context]) (context ▸ submitting.covered)
  · cases pending with
    | nil => cases start
    | cons submission pending =>
      obtain ⟨rfl, rfl⟩ := List.cons.inj start
      obtain ⟨after, done, steadyAfter, submittingAfter⟩ :=
        sendFallbackIfChanged_spec few connects transfers steady submitting
      rw [Opening.execute, done]
      exact .settle steadyAfter (.inr ⟨pending, .inr rfl, submittingAfter⟩)

omit [DecidableEq Vec] [DecidableEq Rot] in
/-- The profile may be disabled under a scan that has no target system. -/
theorem Submitting.disableProfile {before after : World Vec Rot} {rest : List (Submission Vec)}
    (submitting : Submitting geo systems before rest) (same : SameFallbacks before after)
    (nameless : before.context.targetTrackingSystem = [])
    (context : after.context = { before.context with enabled := false }) :
    Submitting geo systems after rest := by
  refine submitting.congr same ?_ ?_
  · rw [context, Context.submissions, Context.submissions, if_neg fun named => named.2 nameless,
      if_neg fun named => named.2 nameless]
    rfl
  · rw [context]
    intro extra _ used named
    simp only [AdditionalCalibration.active, Bool.and_eq_true, decide_eq_true_iff] at used
    exact absurd (named.trans nameless) used.2

theorem fallbackInvariant_applying {world : World Vec Rot} {id : Nat} (exchange : Exchange)
    (accepted : id = 0 → HeadsetAccepted world) (steady : Steady systems world)
    (submitting : Submitting geo systems world []) :
    FallbackInvariant geo systems
      ((applyDevice geo exchange id world).settle (.checking (id + 1))) := by
  obtain ⟨same, context | ⟨headset, profile, ⟨device, present, system, known, mismatch⟩, context⟩⟩ :=
    applyDevice_sameFallbacks geo exchange id world
  · exact .settle (steady.congr same)
      (submitting.congr same (by rw [context]) (context ▸ submitting.covered))
  · have nameless : world.context.targetTrackingSystem = [] := by
      by_contra nonempty
      exact mismatch (accepted headset profile nonempty device present system known)
    exact .settle (steady.congr same) (submitting.disableProfile same nameless context)

theorem fallbackInvariant_proceed {world after : World Vec Rot} {exchange : Exchange}
    (few : systems.length ≤ maxFallbackSlots) (invariant : FallbackInvariant geo systems world)
    (met : Consistent geo systems world (.scanProceeded exchange))
    (stepped : proceed geo exchange world = some after) : FallbackInvariant geo systems after := by
  obtain ⟨connects, transfers, accepted⟩ := met
  obtain ⟨steady, underway⟩ := invariant
  unfold proceed at stepped
  split at stepped
  · cases stepped
  · cases stepped
  · rename_i opening
    cases stepped
    rw [opening] at underway
    obtain ⟨all, _⟩ | ⟨rest, start | start, submitting⟩ := underway
    · cases all
    · cases start
    · obtain rfl := List.map_eq_nil_iff.mp start.symm
      exact ⟨steady.congr ⟨rfl, rfl, rfl⟩, submitting.setPhase _⟩
  · rename_i opening
    cases stepped
    rw [opening] at underway
    exact fallbackInvariant_opening few connects transfers steady underway
  · rename_i checking
    rw [checking] at underway
    split at stepped
    · cases stepped
      obtain ⟨same, context⟩ := checkDevice_sameFallbacks geo exchange _ world
      refine .settle (steady.congr same) ?_
      exact Submitting.congr underway same (by rw [context]) (context ▸ underway.covered)
    · cases stepped
      exact ⟨steady.congr ⟨rfl, rfl, rfl⟩, Submitting.congr underway ⟨rfl, rfl, rfl⟩ rfl
        underway.covered⟩
  · rename_i id applying
    cases stepped
    rw [applying] at underway
    exact fallbackInvariant_applying exchange (fun headset => accepted (headset ▸ applying)) steady
      underway

theorem fallbackInvariant_step {world after : World Vec Rot} {event : Event Vec}
    (few : systems.length ≤ maxFallbackSlots) (invariant : FallbackInvariant geo systems world)
    (met : Consistent geo systems world event) (stepped : step geo world event = some after) :
    FallbackInvariant geo systems after := by
  cases event with
  | edited context | devicesChanged devices | baseStationsShifted =>
    simp only [step] at stepped
    split at stepped
    · cases stepped
      exact ⟨invariant.steady.congr ⟨rfl, rfl, rfl⟩, trivial⟩
    · cases stepped
  | driverRestarted => exact met.elim
  | scanStarted =>
    simp only [step] at stepped
    split at stepped
    · cases stepped
      refine ⟨invariant.steady.congr ⟨rfl, rfl, rfl⟩, .inl ⟨rfl, rfl, ?_⟩⟩
      exact ⟨met.named, met.covered, met.dropped, met.resumed⟩
    · cases stepped
  | scanProceeded exchange => exact fallbackInvariant_proceed few invariant met stepped

/-- Overlay and driver agree on the fallbacks: in every state reached by consistent steps in which a
scan has just returned, the fallbacks enabled in the driver are exactly those of the context. -/
theorem fallbacks_agree {context : Context Vec} {world : World Vec Rot}
    (few : systems.length ≤ maxFallbackSlots)
    (reached : Reaches (step geo) (Consistent geo systems) (initialWorld geo context) world)
    (returned : world.phase = .completed) : FallbacksAgree geo world := by
  have invariant : FallbackInvariant geo systems world := by
    have initial : Steady systems (initialWorld geo context) :=
      ⟨⟨List.nodup_nil, nofun⟩, nofun, fun named => absurd rfl named⟩
    refine reached.invariant ⟨initial, trivial⟩ ?_
    exact fun _ _ _ invariant met stepped => fallbackInvariant_step few invariant met stepped
  have underway := invariant.underway
  rw [returned] at underway
  exact Submitting.agree underway invariant.steady

end Invariant

/-! ### A target switched away and back -/

/-- The profile after its target was switched to another system. -/
def tundraProfile : Context Rat :=
  { lighthouseProfile with targetTrackingSystem := ascii "tundra" }

/-- A scan, the switch, and a second scan. -/
def switched : List (Event Rat) :=
  scan ++ Event.edited tundraProfile :: scan

theorem fallbacks_agree_switched : ∃ world : World Rat Unit,
    Reaches (step axisOverlay) (Consistent axisOverlay [ascii "lighthouse", ascii "tundra"])
      (initialWorld axisOverlay lighthouseProfile) world ∧
    world.phase = .completed ∧ world.Live (ascii "tundra") ∧ ¬world.Live (ascii "lighthouse") ∧
    FallbacksAgree axisOverlay world := by
  obtain ⟨world, reached, returned, live, dropped⟩ : ∃ world : World Rat Unit,
      Reaches (step axisOverlay) (Consistent axisOverlay [ascii "lighthouse", ascii "tundra"])
        (initialWorld axisOverlay lighthouseProfile) world ∧
      world.phase = .completed ∧ world.Live (ascii "tundra") ∧ ¬world.Live (ascii "lighthouse") :=
    reaches_evaluates switched (by decide +kernel)
  exact ⟨world, reached, returned, live, dropped, fallbacks_agree (by decide) reached returned⟩

/-- Switched back, the target's fallback stays disabled: the scan that withdrew it left its payload
in the cache, and the third scan finds that payload unchanged. -/
theorem switched_back_stays_disabled : ∃ world : World Rat Unit,
    run (step axisOverlay) (initialWorld axisOverlay lighthouseProfile)
      (switched ++ Event.edited lighthouseProfile :: scan) = some world ∧
    world.phase = .completed ∧ world.context.enabled = true ∧
    world.context.targetTrackingSystem = ascii "lighthouse" ∧
    ¬world.Live (ascii "lighthouse") ∧ ¬FallbacksAgree axisOverlay world := by
  obtain ⟨world, ran, returned, enabled, target, dropped⟩ : ∃ world : World Rat Unit,
      run (step axisOverlay) (initialWorld axisOverlay lighthouseProfile)
        (switched ++ Event.edited lighthouseProfile :: scan) = some world ∧
      world.phase = .completed ∧ world.context.enabled = true ∧
      world.context.targetTrackingSystem = ascii "lighthouse" ∧
      ¬world.Live (ascii "lighthouse") :=
    run_evaluates (by decide +kernel)
  refine ⟨world, ran, returned, enabled, target, dropped, fun agree => ?_⟩
  have wanted : world.context.primary ∈ world.context.wanted := by
    refine List.mem_append_left _ ?_
    rw [if_pos ⟨enabled, by rw [target]; decide⟩]
    exact List.mem_singleton_self _
  obtain ⟨slot, member, named, live⟩ := agree.every _ wanted
  exact dropped ⟨slot, member, named.trans target, live⟩

end PairDriver.ProfileScan
