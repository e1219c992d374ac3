/-
This file models how the driver publishes the statistics of its components to the overlay. The
shared segment has 256 slots; the driver gives a component the next free slot when it first
publishes it and keeps the assignment in its own memory. A slot whose handle is zero is empty.

A shutdown forgets the assignment and the components, and the segment keeps its slots as long
as the overlay has it mapped. A new session starts at the first slot again, so the slots of an
earlier session that had more components stay as they were.
-/

import Mathlib
import PairDriver.Machine

namespace PairDriver.InputHealth.Snapshots

/-! ### State -/

def slotCount : Nat := 256

/-- A slot of the segment, of whose statistics only the handle matters here. -/
structure Slot where
  generation : UInt64 := 0
  handle : UInt64 := 0
deriving DecidableEq

/-- The shared segment. -/
structure Segment where
  publishTick : UInt64 := 0
  slots : Fin slotCount → Slot := fun _ => {}

/-- The assignment of slots in the memory of the driver. -/
structure Table where
  handleToSlot : UInt64 → Option (Fin slotCount) := fun _ => none
  nextFreeSlot : Nat := 0
  loggedFullTable : Bool := false

/-- The driver with the handles of its components, and the segment. -/
structure System where
  running : Bool := false
  components : Finset UInt64 := ∅
  table : Table := {}
  segment : Segment := {}

/-! ### A tick -/

/-- `WriteSlot`: the generation is odd while the body is copied. -/
def writeSlot (segment : Segment) (slot : Fin slotCount) (handle : UInt64) : Segment :=
  { segment with
    slots := Function.update segment.slots slot
      ⟨(segment.slots slot).generation + 1 + 1, handle⟩ }

/-- The next free slot is given to a handle and written. -/
def giveSlot (state : Table × Segment) (handle : UInt64)
    (free : state.1.nextFreeSlot < slotCount) : Table × Segment :=
  ({ state.1 with
      handleToSlot := Function.update state.1.handleToSlot handle
        (some ⟨state.1.nextFreeSlot, free⟩)
      nextFreeSlot := state.1.nextFreeSlot + 1 },
    writeSlot state.2 ⟨state.1.nextFreeSlot, free⟩ handle)

/-- One staged component. -/
def publish (state : Table × Segment) (handle : UInt64) : Table × Segment :=
  match state.1.handleToSlot handle with
  | some slot => (state.1, writeSlot state.2 slot handle)
  | none =>
    if free : state.1.nextFreeSlot < slotCount then giveSlot state handle free
    else ({ state.1 with loggedFullTable := true }, state.2)

def bumpPublishTick (segment : Segment) : Segment :=
  { segment with publishTick := segment.publishTick + 1 }

/-- `PublishOneTick`, over the components in the order of the hash table. -/
def publishOneTick (order : List UInt64) (system : System) : System :=
  let (table, segment) := order.foldl publish (system.table, system.segment)
  { system with table := table, segment := bumpPublishTick segment }

/-! ### Runs -/

inductive Event where
  | init (created : Bool)
  | register (handle : UInt64)
  | tick (order : List UInt64)
  | shutdown

/-- A step of the driver. The module is initialised when it does not run, and the segment may fail
to be created. A component has a handle that is not zero. A tick goes over all components. -/
def step (system : System) : Event → Option System
  | .init created =>
    if system.running then none
    else if created then some { system with running := true, components := ∅, table := {} }
    else some { system with components := ∅ }
  | .register handle =>
    if handle = 0 then none
    else some { system with components := insert handle system.components }
  | .tick order =>
    if system.running ∧ order.Nodup ∧ order.toFinset = system.components then
      some (publishOneTick order system)
    else none
  | .shutdown =>
    if system.running then some { system with running := false, components := ∅, table := {} }
    else some { system with components := ∅ }

/-- No two used slots have one handle, and every used slot is that of a component. -/
def OneLiveSlot (system : System) : Prop :=
  (∀ first second, (system.segment.slots first).handle ≠ 0 →
    (system.segment.slots first).handle = (system.segment.slots second).handle →
      first = second) ∧
  ∀ slot, (system.segment.slots slot).handle ≠ 0 →
    (system.segment.slots slot).handle ∈ system.components

/-- The used slots are among the first, as many as there are components. -/
def Covered (system : System) : Prop :=
  ∀ slot, (system.segment.slots slot).handle ≠ 0 → slot.val < system.components.card

/-! ### The assignment -/

/-- The slots below the next free one are those of components, and hold their handles. -/
structure Assigned (components : Finset UInt64) (state : Table × Segment) : Prop where
  bounded : state.1.nextFreeSlot ≤ slotCount
  taken : ∀ slot : Fin slotCount, slot.val < state.1.nextFreeSlot ↔
    ∃ handle, state.1.handleToSlot handle = some slot
  registered : ∀ handle slot, state.1.handleToSlot handle = some slot → handle ∈ components
  written : ∀ handle slot, state.1.handleToSlot handle = some slot →
    (state.2.slots slot).handle = handle

theorem assigned_empty (components : Finset UInt64) (segment : Segment) :
    Assigned components ({}, segment) where
  bounded := Nat.zero_le _
  taken _ := iff_of_false (Nat.not_lt_zero _) fun ⟨_, owned⟩ => nomatch owned
  registered _ _ owned := nomatch owned
  written _ _ owned := nomatch owned

theorem Assigned.mono {components more : Finset UInt64} {state : Table × Segment}
    (assigned : Assigned components state) (subset : components ⊆ more) : Assigned more state where
  bounded := assigned.bounded
  taken := assigned.taken
  registered handle slot owned := subset (assigned.registered handle slot owned)
  written := assigned.written

theorem writeSlot_self (segment : Segment) (slot : Fin slotCount) (handle : UInt64) :
    ((writeSlot segment slot handle).slots slot).handle = handle := by
  unfold writeSlot
  dsimp only
  rw [Function.update_self]

theorem writeSlot_other (segment : Segment) {slot other : Fin slotCount} (handle : UInt64)
    (different : other ≠ slot) :
    (writeSlot segment slot handle).slots other = segment.slots other :=
  Function.update_of_ne different _ _

/-- What publishing leaves alone: assignments, and the slots that are still free. -/
structure Extends (before after : Table × Segment) : Prop where
  owners : ∀ handle, before.1.handleToSlot handle ≠ none → after.1.handleToSlot handle ≠ none
  next : before.1.nextFreeSlot ≤ after.1.nextFreeSlot
  free : ∀ slot : Fin slotCount, after.1.nextFreeSlot ≤ slot.val →
    after.2.slots slot = before.2.slots slot

theorem Extends.refl (state : Table × Segment) : Extends state state :=
  ⟨fun _ owned => owned, Nat.le_refl _, fun _ _ => rfl⟩

theorem Extends.trans {before middle after : Table × Segment} (first : Extends before middle)
    (second : Extends middle after) : Extends before after where
  owners handle owned := second.owners handle (first.owners handle owned)
  next := first.next.trans second.next
  free slot above := (second.free slot above).trans (first.free slot (second.next.trans above))

/-- A slot that has an owner is written with the handle of its owner. -/
theorem rewrite_assigned {components : Finset UInt64} {state : Table × Segment}
    (assigned : Assigned components state) {handle : UInt64} {slot : Fin slotCount}
    (owner : state.1.handleToSlot handle = some slot) :
    Assigned components (state.1, writeSlot state.2 slot handle) ∧
      Extends state (state.1, writeSlot state.2 slot handle) := by
  refine ⟨⟨assigned.bounded, assigned.taken, assigned.registered, ?_⟩,
    ⟨fun _ owned => owned, Nat.le_refl _, ?_⟩⟩
  · intro other place owned
    by_cases same : place = slot
    · have before := assigned.written other place owned
      rw [same, assigned.written handle slot owner] at before
      rw [same, writeSlot_self, before]
    · rw [writeSlot_other _ _ same]
      exact assigned.written other place owned
  · intro other above
    refine writeSlot_other _ _ ?_
    rintro rfl
    exact absurd ((assigned.taken other).mpr ⟨handle, owner⟩) (Nat.not_lt.mpr above)

theorem giveSlot_owner {state : Table × Segment} {handle : UInt64}
    {free : state.1.nextFreeSlot < slotCount} {other : UInt64} {slot : Fin slotCount}
    (owned : (giveSlot state handle free).1.handleToSlot other = some slot) :
    other = handle ∧ slot = ⟨state.1.nextFreeSlot, free⟩ ∨
      state.1.handleToSlot other = some slot := by
  unfold giveSlot at owned
  dsimp only at owned
  by_cases same : other = handle
  · rw [same, Function.update_self] at owned
    exact Or.inl ⟨same, (Option.some.inj owned).symm⟩
  · rw [Function.update_of_ne same] at owned
    exact Or.inr owned

theorem giveSlot_self (state : Table × Segment) (handle : UInt64)
    (free : state.1.nextFreeSlot < slotCount) :
    (giveSlot state handle free).1.handleToSlot handle = some ⟨state.1.nextFreeSlot, free⟩ :=
  Function.update_self _ _ _

/-- A handle that has a slot keeps it. -/
theorem giveSlot_other {state : Table × Segment} {handle : UInt64}
    (free : state.1.nextFreeSlot < slotCount) (owner : state.1.handleToSlot handle = none)
    {other : UInt64} (owned : state.1.handleToSlot other ≠ none) :
    (giveSlot state handle free).1.handleToSlot other = state.1.handleToSlot other := by
  refine Function.update_of_ne ?_ _ _
  rintro rfl
  exact owned owner

theorem giveSlot_extends {state : Table × Segment} {handle : UInt64}
    (free : state.1.nextFreeSlot < slotCount) (owner : state.1.handleToSlot handle = none) :
    Extends state (giveSlot state handle free) := by
  refine ⟨fun other owned => ?_, Nat.le_succ _, fun slot above => writeSlot_other _ _ ?_⟩
  · rw [giveSlot_other free owner owned]
    exact owned
  · rintro rfl
    exact Nat.lt_irrefl _ above

/-- The next free slot is given to a component that has none. -/
theorem giveSlot_assigned {components : Finset UInt64} {state : Table × Segment}
    (assigned : Assigned components state) {handle : UInt64} (member : handle ∈ components)
    (owner : state.1.handleToSlot handle = none) (free : state.1.nextFreeSlot < slotCount) :
    Assigned components (giveSlot state handle free) := by
  refine ⟨free, fun slot => ⟨fun below => ?_, ?_⟩, fun other slot owned => ?_,
    fun other slot owned => ?_⟩
  · rcases Nat.lt_succ_iff_lt_or_eq.mp below with earlier | last
    · obtain ⟨other, owned⟩ := (assigned.taken slot).mp earlier
      have kept := giveSlot_other free owner (by rw [owned]; exact Option.some_ne_none _)
      exact ⟨other, kept.trans owned⟩
    · have place : slot = ⟨state.1.nextFreeSlot, free⟩ := Fin.ext last
      exact ⟨handle, place ▸ giveSlot_self state handle free⟩
  · rintro ⟨other, owned⟩
    rcases giveSlot_owner owned with ⟨_, place⟩ | earlier
    · rw [place]
      exact Nat.lt_succ_self _
    · exact Nat.lt_succ_of_lt ((assigned.taken slot).mpr ⟨other, earlier⟩)
  · rcases giveSlot_owner owned with ⟨same, _⟩ | earlier
    · rw [same]
      exact member
    · exact assigned.registered other slot earlier
  · rcases giveSlot_owner owned with ⟨same, place⟩ | earlier
    · rw [same, place]
      exact writeSlot_self _ _ _
    · have below := (assigned.taken slot).mpr ⟨other, earlier⟩
      have different : slot ≠ ⟨state.1.nextFreeSlot, free⟩ := by
        rintro rfl
        exact Nat.lt_irrefl _ below
      exact (congrArg Slot.handle (writeSlot_other _ _ different)).trans
        (assigned.written other slot earlier)

/-- A component that is published has a slot afterwards, unless all are taken. -/
theorem publish_assigned {components : Finset UInt64} {state : Table × Segment}
    (assigned : Assigned components state) {handle : UInt64} (member : handle ∈ components) :
    Assigned components (publish state handle) ∧ Extends state (publish state handle) ∧
      ((publish state handle).1.handleToSlot handle ≠ none ∨
        (publish state handle).1.nextFreeSlot = slotCount) := by
  unfold publish
  cases owner : state.1.handleToSlot handle with
  | some slot =>
    obtain ⟨after, grown⟩ := rewrite_assigned assigned owner
    exact ⟨after, grown, Or.inl (by rw [owner]; exact Option.some_ne_none _)⟩
  | none =>
    dsimp only
    split
    · rename_i free
      refine ⟨giveSlot_assigned assigned member owner free, giveSlot_extends free owner, Or.inl ?_⟩
      rw [giveSlot_self]
      exact Option.some_ne_none _
    · rename_i full
      exact ⟨⟨assigned.bounded, assigned.taken, assigned.registered, assigned.written⟩,
        ⟨fun _ owned => owned, Nat.le_refl _, fun _ _ => rfl⟩,
        Or.inr (Nat.le_antisymm assigned.bounded (Nat.not_lt.mp full))⟩

/-- After a pass every component of the pass has a slot, unless all are taken. -/
theorem foldl_publish_assigned {components : Finset UInt64} {order : List UInt64}
    (members : ∀ handle ∈ order, handle ∈ components) {state : Table × Segment}
    (assigned : Assigned components state) :
    Assigned components (order.foldl publish state) ∧
      Extends state (order.foldl publish state) ∧
        ∀ handle ∈ order, (order.foldl publish state).1.handleToSlot handle ≠ none ∨
          (order.foldl publish state).1.nextFreeSlot = slotCount := by
  induction order generalizing state with
  | nil => exact ⟨assigned, Extends.refl state, fun _ member => nomatch member⟩
  | cons handle rest inductionHypothesis =>
    obtain ⟨member, later⟩ := List.forall_mem_cons.mp members
    obtain ⟨one, first, placed⟩ := publish_assigned assigned member
    obtain ⟨all, second, others⟩ := inductionHypothesis later one
    refine ⟨all, first.trans second, fun other earlier => ?_⟩
    rcases List.mem_cons.mp earlier with rfl | behind
    · rcases placed with owned | full
      · exact Or.inl (second.owners other owned)
      · exact Or.inr (Nat.le_antisymm all.bounded (full ▸ second.next))
    · exact others other behind

theorem Assigned.owner {components : Finset UInt64} {state : Table × Segment}
    (assigned : Assigned components state) {slot : Fin slotCount}
    (below : slot.val < state.1.nextFreeSlot) :
    state.1.handleToSlot (state.2.slots slot).handle = some slot := by
  obtain ⟨handle, owned⟩ := (assigned.taken slot).mp below
  rw [assigned.written handle slot owned]
  exact owned

/-- When every component has a slot or all are taken, the taken slots are as many as the
components, as far as there are slots. -/
theorem Assigned.lt_card_iff {components : Finset UInt64} {state : Table × Segment}
    (assigned : Assigned components state)
    (placed : ∀ handle ∈ components, state.1.handleToSlot handle ≠ none ∨
      state.1.nextFreeSlot = slotCount) (slot : Fin slotCount) :
    slot.val < state.1.nextFreeSlot ↔ slot.val < components.card := by
  let held : Fin state.1.nextFreeSlot → UInt64 := fun place =>
    (state.2.slots (place.castLE assigned.bounded)).handle
  have owner : ∀ place, state.1.handleToSlot (held place) =
      some (place.castLE assigned.bounded) := fun place => assigned.owner place.isLt
  have size : (Finset.univ.image held).card = state.1.nextFreeSlot := by
    rw [Finset.card_image_of_injective, Finset.card_univ, Fintype.card_fin]
    intro first second same
    have both := owner first
    rw [same, owner second] at both
    exact (Fin.castLE_injective assigned.bounded (Option.some.inj both)).symm
  constructor
  · intro below
    refine below.trans_le (size ▸ Finset.card_le_card fun handle member => ?_)
    obtain ⟨place, _, rfl⟩ := Finset.mem_image.mp member
    exact assigned.registered _ _ (owner place)
  · intro below
    by_cases full : state.1.nextFreeSlot = slotCount
    · rw [full]
      exact slot.isLt
    · refine below.trans_le (size ▸ Finset.card_le_card fun handle member => ?_)
      obtain ⟨place, owned⟩ :=
        Option.ne_none_iff_exists'.mp ((placed handle member).resolve_right full)
      have low := (assigned.taken place).mpr ⟨handle, owned⟩
      exact Finset.mem_image.mpr ⟨⟨place.val, low⟩, Finset.mem_univ _,
        assigned.written handle place owned⟩

/-- A pass over all components leaves one live slot for each exactly if every used slot was among
the first, as many as there are components. -/
theorem publishOneTick_iff {system : System} {order : List UInt64}
    (assigned : Assigned system.components (system.table, system.segment))
    (inOrder : ∀ handle, handle ∈ order ↔ handle ∈ system.components) :
    OneLiveSlot (publishOneTick order system) ↔ Covered system := by
  obtain ⟨done, grown, each⟩ := foldl_publish_assigned (fun handle => (inOrder handle).mp) assigned
  have placed := fun handle member => each handle ((inOrder handle).mpr member)
  unfold OneLiveSlot publishOneTick bumpPublishTick
  dsimp only
  generalize order.foldl publish (system.table, system.segment) = state at *
  have below := done.lt_card_iff placed
  have kept : ∀ slot : Fin slotCount, ¬slot.val < system.components.card →
      state.2.slots slot = system.segment.slots slot :=
    fun slot above => grown.free slot (Nat.not_lt.mp fun low => above ((below slot).mp low))
  constructor
  · rintro ⟨single, registered⟩ slot used
    by_contra above
    rw [← kept slot above] at used
    rcases placed _ (registered slot used) with owned | full
    · obtain ⟨place, owner⟩ := Option.ne_none_iff_exists'.mp owned
      have same := single slot place used (done.written _ place owner).symm
      rw [same] at above
      exact above ((below place).mp ((done.taken place).mpr ⟨_, owner⟩))
    · exact above ((below slot).mp (by rw [full]; exact slot.isLt))
  · intro covered
    have low : ∀ slot, (state.2.slots slot).handle ≠ 0 → slot.val < state.1.nextFreeSlot := by
      intro slot used
      by_contra above
      have stale := fun few => above ((below slot).mpr few)
      rw [kept slot stale] at used
      exact stale (covered slot used)
    refine ⟨fun first second used same => ?_, fun slot used => ?_⟩
    · have one := done.owner (low first used)
      rw [same, done.owner (low second fun empty => used (same.trans empty))] at one
      exact (Option.some.inj one).symm
    · exact done.registered _ _ (done.owner (low slot used))

/-! ### Runs -/

theorem step_tick_iff {system after : System} {order : List UInt64} :
    step system (.tick order) = some after ↔
      (system.running = true ∧ order.Nodup ∧ order.toFinset = system.components) ∧
        publishOneTick order system = after := by
  show (if _ then some (publishOneTick order system) else none) = some after ↔ _
  rw [Option.ite_none_right_eq_some, Option.some.injEq]

/-- The assignment is that of the components, and a driver that does not run has none. -/
structure Consistent (system : System) : Prop where
  assigned : Assigned system.components (system.table, system.segment)
  idle : system.running = false → system.table = {}

theorem step_consistent {system after : System} {event : Event} (consistent : Consistent system)
    (stepped : step system event = some after) : Consistent after := by
  cases event with
  | init created =>
    unfold step at stepped
    dsimp only at stepped
    split at stepped
    · cases stepped
    · rename_i stopped
      have empty := consistent.idle (Bool.not_eq_true _ ▸ stopped)
      split at stepped
      · obtain rfl := Option.some.inj stepped
        exact ⟨assigned_empty _ _, fun _ => rfl⟩
      · obtain rfl := Option.some.inj stepped
        refine ⟨?_, fun _ => empty⟩
        dsimp only
        rw [empty]
        exact assigned_empty _ _
  | register handle =>
    unfold step at stepped
    dsimp only at stepped
    split at stepped
    · cases stepped
    · obtain rfl := Option.some.inj stepped
      exact ⟨consistent.assigned.mono (Finset.subset_insert _ _), consistent.idle⟩
  | tick order =>
    obtain ⟨⟨running, _, all⟩, rfl⟩ := step_tick_iff.mp stepped
    have members : ∀ handle ∈ order, handle ∈ system.components :=
      fun handle member => all ▸ List.mem_toFinset.mpr member
    obtain ⟨done, _, _⟩ := foldl_publish_assigned members consistent.assigned
    refine ⟨⟨done.bounded, done.taken, done.registered, done.written⟩, fun stopped => ?_⟩
    exact absurd (running.symm.trans stopped) Bool.noConfusion
  | shutdown =>
    unfold step at stepped
    dsimp only at stepped
    split at stepped
    · obtain rfl := Option.some.inj stepped
      exact ⟨assigned_empty _ _, fun _ => rfl⟩
    · rename_i stopped
      have empty := consistent.idle (Bool.not_eq_true _ ▸ stopped)
      obtain rfl := Option.some.inj stepped
      refine ⟨?_, fun _ => empty⟩
      dsimp only
      rw [empty]
      exact assigned_empty _ _

theorem run_consistent {events : List Event} {start system : System}
    (consistent : Consistent start) (ran : run step start events = some system) :
    Consistent system := by
  induction events generalizing start with
  | nil => exact Option.some.inj ran ▸ consistent
  | cons event rest inductionHypothesis =>
    obtain ⟨after, stepped, later⟩ := Option.bind_eq_some_iff.mp ran
    exact inductionHypothesis (step_consistent consistent stepped) later

/-- In every run, after each tick there is one live slot for each component, exactly if before
each tick the used slots are among the first, as many as there are components. -/
theorem one_live_slot_iff {events : List Event} {system : System}
    (ran : run step {} events = some system) :
    (∀ earlier order after, earlier ++ [.tick order] <+: events →
        run step {} (earlier ++ [.tick order]) = some after → OneLiveSlot after) ↔
      ∀ earlier order before, earlier ++ [.tick order] <+: events →
        run step {} earlier = some before → Covered before := by
  have fresh : Consistent {} := ⟨assigned_empty _ _, fun _ => rfl⟩
  have tick : ∀ {earlier order}, earlier ++ [.tick order] <+: events →
      ∃ before after, run step {} earlier = some before ∧
        run step {} (earlier ++ [.tick order]) = some after ∧
          (OneLiveSlot after ↔ Covered before) := by
    rintro earlier order ⟨rest, rfl⟩
    rw [run_append] at ran
    obtain ⟨after, reached, _⟩ := Option.bind_eq_some_iff.mp ran
    have both := reached
    rw [run_append] at both
    obtain ⟨before, start, ticked⟩ := Option.bind_eq_some_iff.mp both
    obtain ⟨same, stepped, last⟩ := Option.bind_eq_some_iff.mp ticked
    obtain rfl := Option.some.inj last
    obtain ⟨⟨_, _, all⟩, rfl⟩ := step_tick_iff.mp stepped
    refine ⟨before, _, start, reached, publishOneTick_iff (run_consistent fresh start).assigned ?_⟩
    intro handle
    rw [← all, List.mem_toFinset]
  constructor
  · intro single earlier order before within start
    obtain ⟨_, after, same, reached, exactly⟩ := tick within
    obtain rfl := Option.some.inj (start.symm.trans same)
    exact exactly.mp (single earlier order after within reached)
  · intro covered earlier order after within reached
    obtain ⟨before, _, start, same, exactly⟩ := tick within
    obtain rfl := Option.some.inj (reached.symm.trans same)
    exact exactly.mpr (covered earlier order before within start)

/-! ### Two sessions -/

/-- A session with three components up to its first tick. -/
def firstSession : List Event :=
  [.init true, .register 1, .register 2, .register 3]

/-- The first session comes to its tick, and after a restart one component is back. -/
def twoSessions : List Event :=
  firstSession ++ [.tick [1, 2, 3], .shutdown, .init true, .register 3, .tick [3]]

theorem one_live_slot_first :
    ∃ after, run step {} (firstSession ++ [.tick [1, 2, 3]]) = some after ∧ OneLiveSlot after := by
  have ends : ∃ after, run step {} (firstSession ++ [.tick [1, 2, 3]]) = some after ∧ True :=
    run_evaluates (by decide +kernel)
  obtain ⟨after, ran, _⟩ := ends
  refine ⟨after, ran, (one_live_slot_iff ran).mpr ?_ firstSession _ after (List.prefix_refl _) ran⟩
  intro earlier order before within start
  rcases List.prefix_concat_iff.mp within with whole | early
  · obtain ⟨rfl, _⟩ := List.append_inj' whole rfl
    obtain rfl := Option.some.inj start
    exact fun _ used => absurd rfl used
  · have member := early.subset (List.mem_append_right earlier List.mem_cons_self)
    simp [firstSession] at member

/-- The second session writes the first slot and leaves the other two, so that one component has
two slots and one slot is that of a component that is gone. -/
theorem one_live_slot_restart :
    ∃ after, run step {} twoSessions = some after ∧ ¬OneLiveSlot after := by
  have ends : ∃ after, run step {} twoSessions = some after ∧
      (after.segment.slots ⟨0, by decide⟩).handle = 3 ∧
        (after.segment.slots ⟨2, by decide⟩).handle = 3 :=
    run_evaluates (by decide +kernel)
  obtain ⟨after, ran, first, third⟩ := ends
  refine ⟨after, ran, fun single => ?_⟩
  have same := single.1 _ _ (by rw [first]; decide) (first.trans third.symm)
  exact absurd (congrArg Fin.val same) (by decide)

end PairDriver.InputHealth.Snapshots
