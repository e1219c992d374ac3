/-
This file proves when overlay and driver agree on the input corrections after a
reconnect. The replay pushes every correction the overlay has and takes none
back, so what decides is that no stale entry is left in the driver: in runs where
the push that takes an entry back is applied whenever the driver has the entry,
every entry of the driver belongs to a ready record of a device with corrections
enabled. A replay whose pushes are all applied then makes the two equal. A path
that is unlearned while the pipe is closed stays corrected for good; the last
section runs this.
-/

import PairDriver.InputCompensation

namespace PairDriver.InputHealth

section Replay

variable {Number Single : Type} [Zero Number] (narrow : Number → Single)

/-! ### What the overlay wants -/

/-- The entry the driver should have: that of a ready record, with corrections enabled. -/
def System.wanted (system : System Number Single) (key : Key) :
    Option (CompensationEntry Single) :=
  match system.records.lookup key with
  | some record =>
    if record.ready && system.corrections key.serial then
      some (compensationEntry narrow key record true)
    else none
  | none => none

def recordReady (records : Records Number) (key : Key) : Bool :=
  (records.lookup key).any PathState.ready

/-- A key an entry reaches the driver under: its path fits the buffer. -/
structure Deliverable (key : Key) : Prop where
  serial_ne : key.serial ≠ 0
  classified : isCompensationPath (classifyInputPath key.path) = true
  fits : key.path.length < inputHealthPathLen
  nonzero : (0 : UInt8) ∉ key.path

theorem Deliverable.path_ne {key : Key} (deliverable : Deliverable key) : key.path ≠ [] := by
  intro empty
  have classified := deliverable.classified
  rw [empty] at classified
  exact absurd classified (by decide)

theorem Deliverable.carriedPath_eq {key : Key} (deliverable : Deliverable key) :
    carriedPath key.path = key.path := by
  have fits : key.path.length ≤ inputHealthPathLen - 1 := Nat.le_sub_one_of_lt deliverable.fits
  unfold carriedPath cString
  rw [List.take_of_length_le fits, List.takeWhile_eq_self_iff]
  intro character member
  exact decide_eq_true fun zero => deliverable.nonzero (zero ▸ member)

theorem tracked_deliverable {key : Key} (seen : tracked key = true)
    (fits : key.path.length < inputHealthPathLen) : Deliverable key := by
  simp only [tracked, Bool.and_eq_true, decide_eq_true_eq, Bool.not_eq_true',
    List.contains_eq_mem, decide_eq_false_iff_not] at seen
  exact ⟨seen.1.1.1, seen.1.1.2, fits, seen.2⟩

/-! ### The driver -/

omit [Zero Number] in
theorem setCompensation_of_deliverable {key : Key} (deliverable : Deliverable key)
    (state : PathState Number) (enabled : Bool) (comp : Compensation Single) :
    setInputHealthCompensation (compensationEntry narrow key state enabled) comp =
      Function.update comp key
        (if enabled then some (compensationEntry narrow key state enabled) else none) := by
  have path := deliverable.carriedPath_eq
  unfold setInputHealthCompensation
  simp only [compensationEntry, path, deliverable.serial_ne, deliverable.path_ne, or_self, if_false,
    deliverable.classified, Bool.not_true, Bool.false_eq_true]

omit [Zero Number] in
/-- An entry of the driver was there before, or it is the one that was sent. -/
theorem setCompensation_present {key other : Key} {state : PathState Number} {enabled : Bool}
    {comp : Compensation Single}
    (present : setInputHealthCompensation (compensationEntry narrow key state enabled) comp other ≠
      none) :
    comp other ≠ none ∨ (enabled = true ∧ other = ⟨key.serial, carriedPath key.path⟩) := by
  unfold setInputHealthCompensation at present
  split at present
  · exact Or.inl present
  · split at present
    · exact Or.inl present
    · by_cases same : other = ⟨key.serial, carriedPath key.path⟩
      · right
        refine ⟨?_, same⟩
        dsimp only [compensationEntry] at present
        rw [same, Function.update_self] at present
        by_contra disabled
        exact present (if_neg disabled)
      · left
        dsimp only [compensationEntry] at present
        rwa [Function.update_of_ne same] at present

/-! ### Pushes -/

/-- Everything but the pipe and the driver is the same. -/
structure SameOverlay (before after : System Number Single) : Prop where
  corrections_eq : after.corrections = before.corrections
  records_eq : after.records = before.records
  states_eq : after.states = before.states

omit [Zero Number] in
theorem SameOverlay.refl (system : System Number Single) : SameOverlay system system :=
  ⟨rfl, rfl, rfl⟩

omit [Zero Number] in
theorem SameOverlay.trans {first second third : System Number Single}
    (left : SameOverlay first second) (right : SameOverlay second third) :
    SameOverlay first third :=
  ⟨right.corrections_eq.trans left.corrections_eq, right.records_eq.trans left.records_eq,
    right.states_eq.trans left.states_eq⟩

omit [Zero Number] in
theorem pushCompensation_sameOverlay (outcome : Outcome) (key : Key) (state : PathState Number)
    (enabled : Bool) (system : System Number Single) :
    SameOverlay system (system.pushCompensation narrow outcome key state enabled) := by
  unfold System.pushCompensation
  split
  · exact SameOverlay.refl system
  · exact ⟨rfl, rfl, rfl⟩

omit [Zero Number] in
theorem pushAll_cons (outcomes : Key → Outcome) (enabled : Bool)
    (record : Sigma fun _ : Key => PathState Number)
    (rest : List (Sigma fun _ : Key => PathState Number)) (system : System Number Single) :
    system.pushAll narrow outcomes enabled (record :: rest) =
      (system.pushCompensation narrow (outcomes record.1) record.1 record.2 enabled).pushAll narrow
        outcomes enabled rest :=
  rfl

omit [Zero Number] in
theorem pushCompensation_eq_pushAll (outcome : Outcome) (key : Key) (state : PathState Number)
    (enabled : Bool) (system : System Number Single) :
    system.pushCompensation narrow outcome key state enabled =
      system.pushAll narrow (fun _ => outcome) enabled [⟨key, state⟩] :=
  rfl

omit [Zero Number] in
theorem pushAll_sameOverlay (outcomes : Key → Outcome) (enabled : Bool)
    (records : List (Sigma fun _ : Key => PathState Number)) (system : System Number Single) :
    SameOverlay system (system.pushAll narrow outcomes enabled records) := by
  induction records generalizing system with
  | nil => exact SameOverlay.refl system
  | cons record rest inductionHypothesis =>
    exact (pushCompensation_sameOverlay narrow (outcomes record.1) record.1 record.2 enabled
      system).trans (inductionHypothesis _)

omit [Zero Number] in
theorem pushCompensation_present {outcome : Outcome} {key other : Key} {state : PathState Number}
    {enabled : Bool} {system : System Number Single}
    (present : (system.pushCompensation narrow outcome key state enabled).inputHealthComp other ≠
      none) :
    system.inputHealthComp other ≠ none ∨
      (enabled = true ∧ system.corrections key.serial = true ∧
        other = ⟨key.serial, carriedPath key.path⟩) := by
  unfold System.pushCompensation System.send at present
  split at present
  · exact Or.inl present
  · dsimp only at present
    split at present
    · rcases setCompensation_present narrow present with before | ⟨sent, same⟩
      · exact Or.inl before
      · rw [Bool.and_eq_true] at sent
        exact Or.inr ⟨sent.1, sent.2, same⟩
    · exact Or.inl present

omit [Zero Number] in
/-- An entry of the driver after some pushes was there before, or one of them has sent it. -/
theorem pushAll_present {outcomes : Key → Outcome} {enabled : Bool}
    {records : List (Sigma fun _ : Key => PathState Number)} {system : System Number Single}
    {other : Key}
    (present : (system.pushAll narrow outcomes enabled records).inputHealthComp other ≠ none) :
    system.inputHealthComp other ≠ none ∨
      (enabled = true ∧ system.corrections other.serial = true ∧
        ∃ record ∈ records, other = ⟨record.1.serial, carriedPath record.1.path⟩) := by
  induction records generalizing system with
  | nil => exact Or.inl present
  | cons record rest inductionHypothesis =>
    rcases inductionHypothesis present with before | ⟨on, corrected, sent, member, same⟩
    · rcases pushCompensation_present narrow before with earlier | ⟨on, corrected, same⟩
      · exact Or.inl earlier
      · refine Or.inr ⟨on, ?_, record, List.mem_cons_self, same⟩
        rw [same]
        exact corrected
    · have overlay := pushCompensation_sameOverlay narrow (outcomes record.1) record.1 record.2
        enabled system
      rw [overlay.corrections_eq] at corrected
      exact Or.inr ⟨on, corrected, sent, List.mem_cons_of_mem record member, same⟩

/-- The keys whose pushes the driver applies. The first that closes the pipe is the last. -/
def delivered (outcomes : Key → Outcome) : Bool → List Key → List Key
  | _, [] => []
  | connected, key :: rest =>
    if connected then
      if (outcomes key).applied then key :: delivered outcomes (outcomes key).isOpen rest
      else delivered outcomes (outcomes key).isOpen rest
    else []

omit [Zero Number] in
/-- A push over an open pipe that the driver applies. -/
theorem pushCompensation_applied {outcome : Outcome} {key : Key} {state : PathState Number}
    {enabled : Bool} {system : System Number Single} (connected : system.connected = true)
    (applied : outcome.applied = true) (deliverable : Deliverable key) :
    (system.pushCompensation narrow outcome key state enabled).inputHealthComp =
      Function.update system.inputHealthComp key
        (if enabled && system.corrections key.serial then
          some (compensationEntry narrow key state (enabled && system.corrections key.serial))
        else none) := by
  unfold System.pushCompensation System.send
  rw [connected, applied]
  exact setCompensation_of_deliverable narrow deliverable state _ _

omit [Zero Number] in
theorem pushCompensation_connected {outcome : Outcome} {key : Key} {state : PathState Number}
    {enabled : Bool} {system : System Number Single} (connected : system.connected = true) :
    (system.pushCompensation narrow outcome key state enabled).connected = outcome.isOpen := by
  unfold System.pushCompensation System.send
  rw [connected]
  rfl

/-- The first of some keys is among the delivered ones, or the rest goes on without it. -/
theorem mem_delivered_cons {outcomes : Key → Outcome} {connected : Bool} {key first : Key}
    {rest : List Key} (member : key ∈ delivered outcomes connected (first :: rest)) :
    connected = true ∧ ((key = first ∧ (outcomes first).applied = true) ∨
      key ∈ delivered outcomes (outcomes first).isOpen rest) := by
  unfold delivered at member
  split at member
  · rename_i isOpen
    refine ⟨isOpen, ?_⟩
    split at member
    · rename_i applied
      rcases List.mem_cons.mp member with same | later
      · exact Or.inl ⟨same, applied⟩
      · exact Or.inr later
    · exact Or.inr member
  · cases member

theorem delivered_subset {outcomes : Key → Outcome} {connected : Bool} {keys : List Key} {key : Key}
    (member : key ∈ delivered outcomes connected keys) : key ∈ keys := by
  induction keys generalizing connected with
  | nil => cases member
  | cons first rest inductionHypothesis =>
    obtain ⟨-, ⟨rfl, -⟩ | later⟩ := mem_delivered_cons member
    · exact List.mem_cons_self
    · exact List.mem_cons_of_mem first (inductionHypothesis later)

omit [Zero Number] in
/-- What is taken back is gone. -/
theorem pushAll_taken_back {outcomes : Key → Outcome}
    {records : List (Sigma fun _ : Key => PathState Number)} {system : System Number Single}
    {key : Key} (deliverable : Deliverable key)
    (member : key ∈ delivered outcomes system.connected (records.map Sigma.fst)) :
    (system.pushAll narrow outcomes false records).inputHealthComp key = none := by
  induction records generalizing system with
  | nil => cases member
  | cons record rest inductionHypothesis =>
    obtain ⟨connected, here | later⟩ := mem_delivered_cons member
    · obtain ⟨rfl, applied⟩ := here
      rw [pushAll_cons]
      by_contra present
      rcases pushAll_present narrow present with before | ⟨off, -⟩
      · apply before
        rw [pushCompensation_applied narrow connected applied deliverable, Function.update_self]
        rfl
      · cases off
    · apply inductionHypothesis
      rw [pushCompensation_connected narrow connected]
      exact later

omit [Zero Number] in
/-- Keys that are not among those pushed keep their entries. -/
theorem pushAll_of_notMem {outcomes : Key → Outcome} {enabled : Bool}
    {records : List (Sigma fun _ : Key => PathState Number)} {system : System Number Single}
    {key : Key} (deliverable : ∀ record ∈ records, Deliverable record.1)
    (other : key ∉ records.map Sigma.fst) :
    (system.pushAll narrow outcomes enabled records).inputHealthComp key =
      system.inputHealthComp key := by
  induction records generalizing system with
  | nil => rfl
  | cons record rest inductionHypothesis =>
    rw [List.map_cons, List.mem_cons, not_or] at other
    rw [pushAll_cons, inductionHypothesis
      (fun record member => deliverable record (List.mem_cons_of_mem _ member)) other.2]
    unfold System.pushCompensation System.send
    split
    · rfl
    · dsimp only
      split
      · rw [setCompensation_of_deliverable narrow (deliverable record List.mem_cons_self)]
        exact Function.update_of_ne other.1 _ _
      · rfl

omit [Zero Number] in
/-- A replay that delivers a record leaves its entry in the driver. -/
theorem pushAll_delivers {outcomes : Key → Outcome}
    {records : List (Sigma fun _ : Key => PathState Number)} {system : System Number Single}
    (distinct : records.NodupKeys) (deliverable : ∀ record ∈ records, Deliverable record.1)
    {record : Sigma fun _ : Key => PathState Number} (sent : record ∈ records)
    (corrected : system.corrections record.1.serial = true)
    (member : record.1 ∈ delivered outcomes system.connected (records.map Sigma.fst)) :
    (system.pushAll narrow outcomes true records).inputHealthComp record.1 =
      some (compensationEntry narrow record.1 record.2 true) := by
  induction records generalizing system with
  | nil => cases sent
  | cons first rest inductionHypothesis =>
    have rest_deliverable : ∀ record ∈ rest, Deliverable record.1 :=
      fun record member => deliverable record (List.mem_cons_of_mem _ member)
    obtain ⟨first_notMem, rest_distinct⟩ := List.nodupKeys_cons.mp distinct
    obtain ⟨connected, delivery⟩ := mem_delivered_cons member
    rw [pushAll_cons]
    rcases List.mem_cons.mp sent with rfl | later
    · have applied : (outcomes record.1).applied = true := by
        rcases delivery with ⟨-, applied⟩ | absent
        · exact applied
        · exact absurd (delivered_subset absent) first_notMem
      rw [pushAll_of_notMem narrow rest_deliverable first_notMem,
        pushCompensation_applied narrow connected applied (deliverable record List.mem_cons_self),
        Function.update_self, corrected]
      rfl
    · have different : record.1 ≠ first.1 := fun same =>
        first_notMem (same ▸ List.mem_keys_of_mem later)
      apply inductionHypothesis rest_distinct rest_deliverable later
      · rw [(pushCompensation_sameOverlay narrow _ _ _ _ _).corrections_eq]
        exact corrected
      · rw [pushCompensation_connected narrow connected]
        exact delivery.resolve_left fun here => different here.1

/-! ### Records -/

omit [Zero Number] in
theorem recordReady_iff {records : Records Number} {key : Key} :
    recordReady records key = true ↔
      ∃ record, records.lookup key = some record ∧ record.ready = true :=
  Option.any_eq_true _ _

omit [Zero Number] in
theorem recordReady_insert (records : Records Number) (key : Key) (state : PathState Number)
    (other : Key) :
    recordReady (records.insert key state) other =
      if other = key then state.ready else recordReady records other := by
  unfold recordReady
  split
  · rename_i same
    rw [same, AList.lookup_insert]
    rfl
  · rename_i different
    rw [AList.lookup_insert_ne different]

omit [Zero Number] in
/-- The records of a device are gone, those of the others are as they were. -/
theorem lookup_withoutDevice (serial : Nat) (records : Records Number) (key : Key) :
    (withoutDevice serial records).lookup key =
      if key.serial = serial then none else records.lookup key := by
  split
  · rename_i same
    rw [AList.lookup_eq_none]
    intro member
    obtain ⟨state, found⟩ := List.mem_keys.mp member
    exact of_decide_eq_true (List.mem_filter.mp found).2 same
  · rename_i different
    refine Option.ext fun state => ?_
    change state ∈ (withoutDevice serial records).lookup key ↔ state ∈ records.lookup key
    rw [AList.mem_lookup_iff, AList.mem_lookup_iff]
    exact List.mem_filter.trans (and_iff_left (decide_eq_true different))

omit [Zero Number] in
/-- A key with a record is among those of its device. -/
theorem mem_recordsOf {system : System Number Single} {key : Key}
    (ready : recordReady system.records key = true) :
    key ∈ (system.recordsOf key.serial).map Sigma.fst := by
  obtain ⟨record, found, -⟩ := recordReady_iff.mp ready
  have member : ⟨key, record⟩ ∈ system.records.entries := AList.mem_lookup_iff.mp found
  exact List.mem_map_of_mem (List.mem_filter.mpr ⟨member, decide_eq_true rfl⟩)

/-! ### The invariant -/

/-- The engine and its records: a state that is kept is ready when its record is, and every ready
record reaches the driver. -/
structure Synced (system : System Number Single) : Prop where
  cached : ∀ key state, system.states.lookup key = some state →
    state.ready = recordReady system.records key
  deliverable : ∀ key, recordReady system.records key = true → Deliverable key

/-- Every entry of the driver belongs to a ready record of a device with corrections enabled. -/
def NoStale (system : System Number Single) : Prop :=
  ∀ key, system.inputHealthComp key ≠ none →
    recordReady system.records key = true ∧ system.corrections key.serial = true

structure Consistent (system : System Number Single) : Prop where
  synced : Synced system
  noStale : NoStale system

omit [Zero Number] in
theorem Synced.of_sameOverlay {before after : System Number Single} (synced : Synced before)
    (same : SameOverlay before after) : Synced after where
  cached := by
    rw [same.states_eq, same.records_eq]
    exact synced.cached
  deliverable := by
    rw [same.records_eq]
    exact synced.deliverable

theorem Synced.stateFor_ready {system : System Number Single} (synced : Synced system) (key : Key) :
    (system.stateFor key).ready = recordReady system.records key := by
  unfold System.stateFor
  cases found : system.states.lookup key with
  | some state => exact synced.cached key state found
  | none =>
    dsimp only
    unfold recordReady
    cases system.records.lookup key with
    | some record => rfl
    | none => rfl

omit [Zero Number] in
/-- Pushes of ready records keep the invariant. -/
theorem Consistent.pushAll {system : System Number Single} (consistent : Consistent system)
    {outcomes : Key → Outcome} {enabled : Bool}
    {records : List (Sigma fun _ : Key => PathState Number)}
    (ready : ∀ record ∈ records, recordReady system.records record.1 = true) :
    Consistent (system.pushAll narrow outcomes enabled records) where
  synced := consistent.synced.of_sameOverlay (pushAll_sameOverlay narrow _ _ _ _)
  noStale := by
    intro key present
    have overlay := pushAll_sameOverlay narrow outcomes enabled records system
    rw [overlay.records_eq, overlay.corrections_eq]
    rcases pushAll_present narrow present with before | ⟨-, corrected, record, member, same⟩
    · exact consistent.noStale key before
    · have deliverable := consistent.synced.deliverable record.1 (ready record member)
      rw [deliverable.carriedPath_eq] at same
      obtain rfl : key = record.1 := same
      exact ⟨ready record member, corrected⟩

/-! ### Taking entries back -/

/-- The pushes take back every entry the driver has under the keys. -/
def System.takenBack (outcomes : Key → Outcome) (keys : List Key) (system : System Number Single) :
    Bool :=
  keys.all fun key =>
    (system.inputHealthComp key).isNone || decide (key ∈ delivered outcomes system.connected keys)

omit [Zero Number] in
/-- An entry left by pushes that take back was there before, under none of their keys. -/
theorem Consistent.present_of_takenBack {system changed : System Number Single}
    (consistent : Consistent system) {outcomes : Key → Outcome}
    {records : List (Sigma fun _ : Key => PathState Number)} {key : Key}
    (present : (changed.pushAll narrow outcomes false records).inputHealthComp key ≠ none)
    (connected : changed.connected = system.connected)
    (comp : changed.inputHealthComp = system.inputHealthComp)
    (taken : system.takenBack outcomes (records.map Sigma.fst) = true) :
    recordReady system.records key = true ∧ system.corrections key.serial = true ∧
      key ∉ records.map Sigma.fst := by
  rcases pushAll_present narrow present with before | ⟨off, -⟩
  · rw [comp] at before
    obtain ⟨ready, corrected⟩ := consistent.noStale key before
    refine ⟨ready, corrected, fun member => present ?_⟩
    have taken := List.all_eq_true.mp taken key member
    rcases Bool.or_eq_true_iff.mp taken with absent | applied
    · exact absurd (Option.isNone_iff_eq_none.mp absent) before
    · have applied := of_decide_eq_true applied
      rw [← connected] at applied
      exact pushAll_taken_back narrow (consistent.synced.deliverable key ready) applied
  · cases off

/-! ### Steps -/

omit [Zero Number] in
/-- What the records say after a state is kept; holding back is for a state that changes nothing. -/
theorem recordReady_keep {system : System Number Single} {key : Key} {state : PathState Number}
    {sync : Bool} (held : sync = false → state.ready = recordReady system.records key)
    (other : Key) :
    recordReady (system.keep key state sync).records other =
      if other = key then state.ready else recordReady system.records other := by
  cases sync with
  | true => exact recordReady_insert system.records key state other
  | false =>
    change recordReady system.records other = _
    split
    · rename_i same
      rw [same]
      exact (held rfl).symm
    · rfl

omit [Zero Number] in
theorem Synced.keep {system : System Number Single} (synced : Synced system) {key : Key}
    {state : PathState Number} {sync : Bool}
    (held : sync = false → state.ready = recordReady system.records key)
    (deliverable : state.ready = true → Deliverable key) :
    Synced (system.keep key state sync) where
  cached := by
    intro other cached found
    rw [recordReady_keep held]
    change (system.states.insert key state).lookup other = some cached at found
    split
    · rename_i same
      rw [same, AList.lookup_insert] at found
      rw [Option.some.inj found]
    · rename_i different
      rw [AList.lookup_insert_ne different] at found
      exact synced.cached other cached found
  deliverable := by
    intro other ready
    rw [recordReady_keep held] at ready
    split at ready
    · rename_i same
      rw [same]
      exact deliverable ready
    · exact synced.deliverable other ready

omit [Zero Number] in
/-- Keeping a state takes no correction away unless it says so. -/
theorem Consistent.keep {system : System Number Single} (consistent : Consistent system) {key : Key}
    {state : PathState Number} {sync : Bool}
    (held : sync = false → state.ready = recordReady system.records key)
    (deliverable : state.ready = true → Deliverable key)
    (still : recordReady system.records key = true → state.ready = true) :
    Consistent (system.keep key state sync) where
  synced := consistent.synced.keep held deliverable
  noStale := by
    intro other present
    obtain ⟨ready, corrected⟩ := consistent.noStale other present
    refine ⟨?_, corrected⟩
    rw [recordReady_keep held]
    split
    · rename_i same
      rw [same] at ready
      exact still ready
    · exact ready

omit [Zero Number] in
theorem Consistent.learn {system : System Number Single} (consistent : Consistent system)
    {key : Key} {state : PathState Number} {outcome : Outcome} (ready : state.ready = true)
    (deliverable : Deliverable key) :
    Consistent ((system.keep key state true).pushCompensation narrow outcome key state true) := by
  have kept : Consistent (system.keep key state true) :=
    consistent.keep (fun off => nomatch off) (fun _ => deliverable) (fun _ => ready)
  rw [pushCompensation_eq_pushAll]
  refine kept.pushAll narrow fun record member => ?_
  rw [List.mem_singleton.mp member]
  change recordReady (system.records.insert key state) key = true
  rw [recordReady_insert, if_pos rfl, ready]

omit [Zero Number] in
theorem Consistent.drift {system : System Number Single} (consistent : Consistent system)
    {key : Key} {state : PathState Number} {outcome : Outcome} (cleared : state.ready = false)
    (taken : system.takenBack (fun _ => outcome) [key] = true) :
    Consistent ((system.keep key state true).pushCompensation narrow outcome key state false) where
  synced := by
    refine Synced.of_sameOverlay ?_ (pushCompensation_sameOverlay narrow _ _ _ _ _)
    refine consistent.synced.keep (fun off => nomatch off) fun ready => ?_
    rw [cleared] at ready
    cases ready
  noStale := by
    intro other present
    have overlay := pushCompensation_sameOverlay narrow outcome key state false
      (system.keep key state true)
    rw [overlay.records_eq, overlay.corrections_eq]
    rw [pushCompensation_eq_pushAll] at present
    obtain ⟨ready, corrected, other_ne⟩ :=
      consistent.present_of_takenBack narrow present rfl rfl taken
    refine ⟨?_, corrected⟩
    change recordReady (system.records.insert key state) other = true
    rw [recordReady_insert, if_neg fun same => other_ne (List.mem_singleton.mpr same)]
    exact ready

omit [Zero Number] in
/-- Paths are forgotten in the engine and in its records. -/
theorem Synced.forget {before after : System Number Single} (synced : Synced before)
    (forgotten : ∀ key, (after.records.lookup key = none ∧ after.states.lookup key = none) ∨
      (after.records.lookup key = before.records.lookup key ∧
        after.states.lookup key = before.states.lookup key)) : Synced after where
  cached := by
    intro key state found
    rcases forgotten key with ⟨-, gone⟩ | ⟨records, states⟩
    · rw [gone] at found
      cases found
    · unfold recordReady
      rw [records]
      exact synced.cached key state (states ▸ found)
  deliverable := by
    intro key ready
    unfold recordReady at ready
    rcases forgotten key with ⟨gone, -⟩ | ⟨records, -⟩
    · rw [gone] at ready
      cases ready
    · rw [records] at ready
      exact synced.deliverable key ready

theorem Consistent.unlearnPath {system : System Number Single} (consistent : Consistent system)
    {key : Key} {outcome : Outcome} (taken : system.takenBack (fun _ => outcome) [key] = true) :
    Consistent (system.unlearnPath narrow key outcome) := by
  unfold System.unlearnPath
  split
  · exact consistent
  · rw [pushCompensation_eq_pushAll]
    have overlay := pushAll_sameOverlay narrow (fun _ => outcome) false
      [⟨key, system.clearState key⟩]
      { system with records := system.records.erase key, states := system.states.erase key }
    constructor
    · refine Synced.of_sameOverlay (consistent.synced.forget fun other => ?_) overlay
      by_cases same : other = key
      · rw [same]
        exact Or.inl ⟨AList.lookup_erase key _, AList.lookup_erase key _⟩
      · exact Or.inr ⟨AList.lookup_erase_ne same, AList.lookup_erase_ne same⟩
    · intro other present
      rw [overlay.records_eq, overlay.corrections_eq]
      obtain ⟨ready, corrected, other_ne⟩ :=
        consistent.present_of_takenBack narrow present rfl rfl taken
      refine ⟨?_, corrected⟩
      change ((system.records.erase key).lookup other).any PathState.ready = true
      rw [AList.lookup_erase_ne fun same => other_ne (List.mem_singleton.mpr same)]
      exact ready

theorem Consistent.unlearnDevice {system : System Number Single} (consistent : Consistent system)
    {serial : Nat} {outcomes : Key → Outcome}
    (taken : system.takenBack outcomes ((system.recordsOf serial).map Sigma.fst) = true) :
    Consistent (system.unlearnDevice narrow serial outcomes) := by
  unfold System.unlearnDevice
  split
  · exact consistent
  · dsimp only
    have overlay := pushAll_sameOverlay narrow outcomes false
      ((system.recordsOf serial).map fun record =>
        ⟨record.1, ⟨record.2.kind, false, clearedLearned⟩⟩) system
    rw [overlay.records_eq, overlay.states_eq]
    constructor
    · refine consistent.synced.forget fun other => ?_
      dsimp only
      rw [lookup_withoutDevice, lookup_withoutDevice]
      by_cases same : other.serial = serial
      · rw [if_pos same, if_pos same]
        exact Or.inl ⟨rfl, rfl⟩
      · rw [if_neg same, if_neg same]
        exact Or.inr ⟨rfl, rfl⟩
    · intro other present
      have keys : ((system.recordsOf serial).map fun record =>
          (⟨record.1, ⟨record.2.kind, false, clearedLearned⟩⟩ :
            Sigma fun _ : Key => PathState Number)).map Sigma.fst =
          (system.recordsOf serial).map Sigma.fst := by
        rw [List.map_map]
        rfl
      obtain ⟨ready, corrected, other_notMem⟩ :=
        consistent.present_of_takenBack narrow present rfl rfl (keys ▸ taken)
      rw [keys] at other_notMem
      have different : other.serial ≠ serial := fun same =>
        other_notMem (same ▸ mem_recordsOf ready)
      dsimp only
      rw [overlay.corrections_eq]
      refine ⟨?_, corrected⟩
      unfold recordReady
      rw [lookup_withoutDevice, if_neg different]
      exact ready

omit [Zero Number] in
theorem Consistent.setDeviceCorrectionsEnabled {system : System Number Single}
    (consistent : Consistent system) {serial : Nat} {enabled : Bool} {outcomes : Key → Outcome}
    (taken : enabled = true ∨
      system.takenBack outcomes ((system.recordsOf serial).map Sigma.fst) = true) :
    Consistent (system.setDeviceCorrectionsEnabled narrow serial enabled outcomes) := by
  unfold System.setDeviceCorrectionsEnabled
  split
  · exact consistent
  · dsimp only
    have synced : Synced { system with
        corrections := Function.update system.corrections serial enabled } :=
      ⟨consistent.synced.cached, consistent.synced.deliverable⟩
    cases enabled with
    | true =>
      have corrected : Consistent { system with
          corrections := Function.update system.corrections serial true } := by
        refine ⟨synced, fun key present => ?_⟩
        obtain ⟨ready, corrected⟩ := consistent.noStale key present
        refine ⟨ready, ?_⟩
        dsimp only
        by_cases same : key.serial = serial
        · rw [same, Function.update_self]
        · rw [Function.update_of_ne same]
          exact corrected
      refine corrected.pushAll narrow fun record member => ?_
      obtain ⟨ofDevice, ready⟩ := List.mem_filter.mp member
      have found : system.records.lookup record.1 = some record.2 :=
        AList.mem_lookup_iff.mpr (List.mem_filter.mp ofDevice).1
      exact recordReady_iff.mpr ⟨record.2, found, ready⟩
    | false =>
      have taken := taken.resolve_left Bool.false_ne_true
      have all : (system.recordsOf serial).filter
          (fun record => !false || record.2.ready) = system.recordsOf serial :=
        List.filter_eq_self.mpr fun _ _ => rfl
      rw [all]
      have overlay := pushAll_sameOverlay narrow outcomes false (system.recordsOf serial)
        { system with corrections := Function.update system.corrections serial false }
      refine ⟨synced.of_sameOverlay overlay, fun key present => ?_⟩
      rw [overlay.records_eq, overlay.corrections_eq]
      obtain ⟨ready, corrected, key_notMem⟩ :=
        consistent.present_of_takenBack narrow present rfl rfl taken
      have different : key.serial ≠ serial := fun same =>
        key_notMem (same ▸ mem_recordsOf ready)
      refine ⟨ready, ?_⟩
      dsimp only
      rw [Function.update_of_ne different]
      exact corrected

/-! ### Runs -/

omit [Zero Number] in
/-- Requests that are no pushes leave the overlay and the driver as they are. -/
theorem Consistent.of_untouched {before after : System Number Single}
    (consistent : Consistent before) (same : SameOverlay before after)
    (comp : after.inputHealthComp = before.inputHealthComp) :
    Consistent after := by
  refine ⟨consistent.synced.of_sameOverlay same, fun key present => ?_⟩
  rw [comp] at present
  rw [same.records_eq, same.corrections_eq]
  exact consistent.noStale key present

omit [Zero Number] in
theorem sendOther_untouched (outcome : Outcome) (system : System Number Single) :
    SameOverlay system (system.sendOther outcome) ∧
      (system.sendOther outcome).inputHealthComp = system.inputHealthComp := by
  unfold System.sendOther System.send
  split
  · exact ⟨⟨rfl, rfl, rfl⟩, ite_self _⟩
  · exact ⟨SameOverlay.refl system, rfl⟩

omit [Zero Number] in
theorem heartbeat_untouched (succeeds : Bool) (handshake : Outcome)
    (system : System Number Single) :
    SameOverlay system (system.heartbeat succeeds handshake) ∧
      (system.heartbeat succeeds handshake).inputHealthComp = system.inputHealthComp := by
  have connected : SameOverlay system (system.connect succeeds) ∧
      (system.connect succeeds).inputHealthComp = system.inputHealthComp := by
    unfold System.connect
    split
    · exact ⟨SameOverlay.refl system, rfl⟩
    · exact ⟨⟨rfl, rfl, rfl⟩, rfl⟩
  obtain ⟨same, comp⟩ := sendOther_untouched handshake (system.connect succeeds)
  exact ⟨connected.1.trans same, comp.trans connected.2⟩

omit [Zero Number] in
theorem replayStart_untouched (succeeds : Bool) (handshake config : Outcome)
    (system : System Number Single) :
    SameOverlay system (system.replayStart succeeds handshake config) ∧
      (system.replayStart succeeds handshake config).inputHealthComp = system.inputHealthComp := by
  obtain ⟨beat, beat_comp⟩ := heartbeat_untouched succeeds handshake system
  obtain ⟨same, comp⟩ := sendOther_untouched config
    { system.heartbeat succeeds handshake with
      observedGeneration := (system.heartbeat succeeds handshake).generation }
  have observed : SameOverlay system { system.heartbeat succeeds handshake with
      observedGeneration := (system.heartbeat succeeds handshake).generation } :=
    ⟨beat.corrections_eq, beat.records_eq, beat.states_eq⟩
  exact ⟨observed.trans same, comp.trans beat_comp⟩

omit [Zero Number] in
theorem mem_readyRecords {system : System Number Single}
    {record : Sigma fun _ : Key => PathState Number} :
    record ∈ system.readyRecords ↔ system.records.lookup record.1 = some record.2 ∧
      system.corrections record.1.serial = true ∧ record.2.ready = true := by
  unfold System.readyRecords
  rw [List.mem_filter, Bool.and_eq_true]
  exact and_congr_left fun _ => AList.mem_lookup_iff.symm

omit [Zero Number] in
theorem Consistent.pushReadyCompensations {system : System Number Single}
    (consistent : Consistent system) (outcomes : Key → Outcome) :
    Consistent (system.pushReadyCompensations narrow outcomes) := by
  refine consistent.pushAll narrow fun record member => ?_
  obtain ⟨found, -, ready⟩ := mem_readyRecords.mp member
  exact recordReady_iff.mpr ⟨record.2, found, ready⟩

/-- The condition on a step. A path that becomes ready fits its buffer; where a path drifts or is
unlearned, or a device is unlearned or its corrections are switched off, the pushes take back what
the driver has. -/
def Conveyed (system : System Number Single) : Event Number → Bool
  | .learn key _ _ _ => key.path.length < inputHealthPathLen
  | .drift key _ outcome => system.takenBack (fun _ => outcome) [key]
  | .unlearnPath key outcome => system.takenBack (fun _ => outcome) [key]
  | .setDeviceCorrectionsEnabled serial enabled outcomes =>
    enabled || system.takenBack outcomes ((system.recordsOf serial).map Sigma.fst)
  | .unlearnDevice serial outcomes =>
    system.takenBack outcomes ((system.recordsOf serial).map Sigma.fst)
  | .observe _ _ _ | .disconnect | .maintain _ _ _ _ => true

theorem Consistent.step {before after : System Number Single} {event : Event Number}
    (consistent : Consistent before) (conveyed : Conveyed before event = true)
    (stepped : step narrow before event = some after) : Consistent after := by
  cases event with
  | learn key kind learned outcome =>
    dsimp only [InputHealth.step] at stepped
    split at stepped
    · rename_i enabled
      obtain rfl := Option.some.inj stepped
      rw [Bool.and_eq_true] at enabled
      exact consistent.learn narrow rfl
        (tracked_deliverable enabled.1 (of_decide_eq_true conveyed))
    · cases stepped
  | drift key kind outcome =>
    dsimp only [InputHealth.step] at stepped
    split at stepped
    · obtain rfl := Option.some.inj stepped
      exact consistent.drift narrow rfl conveyed
    · cases stepped
  | observe key kind sync =>
    dsimp only [InputHealth.step] at stepped
    split at stepped
    · obtain rfl := Option.some.inj stepped
      have ready := consistent.synced.stateFor_ready key
      refine consistent.keep (fun _ => ready) (fun on => ?_) (fun on => ready.trans on)
      exact consistent.synced.deliverable key (ready.symm.trans on)
    · cases stepped
  | setDeviceCorrectionsEnabled serial enabled outcomes =>
    obtain rfl := Option.some.inj stepped
    exact consistent.setDeviceCorrectionsEnabled narrow (Bool.or_eq_true_iff.mp conveyed)
  | unlearnPath key outcome =>
    obtain rfl := Option.some.inj stepped
    exact consistent.unlearnPath narrow conveyed
  | unlearnDevice serial outcomes =>
    obtain rfl := Option.some.inj stepped
    exact consistent.unlearnDevice narrow conveyed
  | disconnect =>
    obtain rfl := Option.some.inj stepped
    exact consistent.of_untouched ⟨rfl, rfl, rfl⟩ rfl
  | maintain succeeds handshake config outcomes =>
    obtain rfl := Option.some.inj stepped
    unfold System.maintainDriverConnection
    split
    · obtain ⟨same, comp⟩ := replayStart_untouched succeeds handshake config before
      exact (consistent.of_untouched same comp).pushReadyCompensations narrow outcomes
    · obtain ⟨same, comp⟩ := heartbeat_untouched succeeds handshake before
      exact consistent.of_untouched same comp

omit [Zero Number] in
/-- The overlay starts with the profiles it has loaded, and the driver with an empty map. -/
theorem Consistent.launch {corrections : Nat → Bool} {records : Records Number}
    (deliverable : ∀ key, recordReady records key = true → Deliverable key) :
    Consistent ({ corrections := corrections, records := records } : System Number Single) where
  synced := ⟨fun _ _ found => (nomatch found), deliverable⟩
  noStale := fun _ present => absurd rfl present

omit [Zero Number] in
/-- A replay whose pushes are all applied makes the driver have what the overlay wants. -/
theorem Consistent.replay_agrees {system : System Number Single} (consistent : Consistent system)
    {outcomes : Key → Outcome}
    (applied : ∀ record ∈ system.readyRecords, record.1 ∈ delivered outcomes system.connected
      (system.readyRecords.map Sigma.fst)) (key : Key) :
    (system.pushReadyCompensations narrow outcomes).inputHealthComp key =
      system.wanted narrow key := by
  have distinct : system.readyRecords.NodupKeys :=
    List.NodupKeys.sublist List.filter_sublist system.records.nodupKeys
  have deliverable : ∀ record ∈ system.readyRecords, Deliverable record.1 := by
    intro record member
    obtain ⟨found, -, ready⟩ := mem_readyRecords.mp member
    exact consistent.synced.deliverable _ (recordReady_iff.mpr ⟨record.2, found, ready⟩)
  by_cases wanted : recordReady system.records key = true ∧ system.corrections key.serial = true
  · obtain ⟨ready, corrected⟩ := wanted
    obtain ⟨record, found, record_ready⟩ := recordReady_iff.mp ready
    have member : ⟨key, record⟩ ∈ system.readyRecords :=
      mem_readyRecords.mpr ⟨found, corrected, record_ready⟩
    have delivers := pushAll_delivers narrow distinct deliverable member corrected
      (applied _ member)
    refine Eq.trans delivers ?_
    unfold System.wanted
    rw [found]
    dsimp only
    rw [record_ready, corrected]
    rfl
  · have absent : (system.pushReadyCompensations narrow outcomes).inputHealthComp key = none := by
      by_contra present
      have after := (consistent.pushReadyCompensations narrow outcomes).noStale key present
      have overlay := pushAll_sameOverlay narrow outcomes true system.readyRecords system
      unfold System.pushReadyCompensations at after
      rw [overlay.records_eq, overlay.corrections_eq] at after
      exact wanted after
    rw [absent]
    unfold System.wanted
    cases found : system.records.lookup key with
    | none => rfl
    | some record =>
      dsimp only
      rw [if_neg]
      intro both
      rw [Bool.and_eq_true] at both
      exact wanted ⟨recordReady_iff.mpr ⟨record, found, both.1⟩, both.2⟩

omit [Zero Number] in
theorem SameOverlay.wanted_eq {before after : System Number Single}
    (same : SameOverlay before after) (key : Key) :
    after.wanted narrow key = before.wanted narrow key := by
  unfold System.wanted
  rw [same.records_eq, same.corrections_eq]

/-- The heartbeat replays, and the driver applies every push of the replay. -/
def System.fullyReplays (succeeds : Bool) (handshake config : Outcome) (outcomes : Key → Outcome)
    (system : System Number Single) : Bool :=
  let start := system.replayStart succeeds handshake config
  let keys := start.readyRecords.map Sigma.fst
  system.replays succeeds handshake &&
    keys.all fun key => decide (key ∈ delivered outcomes start.connected keys)

/-- After every run whose steps meet the condition, a full replay leaves the driver with an entry
exactly for the ready records of devices with corrections enabled, with their values. -/
theorem replayed_driver_agrees {corrections : Nat → Bool} {records : Records Number}
    (deliverable : ∀ key, recordReady records key = true → Deliverable key)
    {state after : System Number Single}
    (reached : Reaches (step narrow) (fun system event => Conveyed system event = true)
      { corrections := corrections, records := records } state)
    {succeeds : Bool} {handshake config : Outcome} {outcomes : Key → Outcome}
    (replayed : state.fullyReplays succeeds handshake config outcomes = true)
    (stepped : step narrow state (.maintain succeeds handshake config outcomes) = some after)
    (key : Key) : after.inputHealthComp key = after.wanted narrow key := by
  have consistent : Consistent state :=
    reached.invariant (Consistent.launch deliverable) fun before event after held conveyed moved =>
      held.step narrow conveyed moved
  obtain ⟨same, comp⟩ := replayStart_untouched succeeds handshake config state
  have started := consistent.of_untouched same comp
  obtain ⟨replays, applied⟩ := (Bool.and_eq_true _ _).mp replayed
  obtain rfl : state.maintainDriverConnection narrow succeeds handshake config outcomes = after :=
    Option.some.inj stepped
  unfold System.maintainDriverConnection
  rw [if_pos replays]
  have overlay := pushAll_sameOverlay narrow outcomes true
    (state.replayStart succeeds handshake config).readyRecords
    (state.replayStart succeeds handshake config)
  refine Eq.trans ?_ (overlay.wanted_eq narrow key).symm
  refine started.replay_agrees narrow (fun record member => ?_) key
  exact of_decide_eq_true (List.all_eq_true.mp applied record.1 (List.mem_map_of_mem member))

end Replay

/-! ### A trigger -/

def trigger : Key := ⟨1, ascii "/input/trigger/value"⟩

def triggerRange : PathState Int := ⟨.scalarSingle, true, ⟨0, 0, 1, 2, 0, 0⟩⟩

/-- A heartbeat that opens the pipe, and everything it sends is applied. -/
def cleanHeartbeat : Event Int := .maintain true {} {} fun _ => {}

/-- A range learned while the pipe is closed is in the driver after the reconnect. -/
theorem replayed_driver_agrees_trigger :
    ∃ state after : System Int Int,
      Reaches (step id) (fun system event => Conveyed system event = true) { records := ∅ } state ∧
      step id state cleanHeartbeat = some after ∧
      after.wanted id trigger = some (compensationEntry id trigger triggerRange true) ∧
      after.inputHealthComp trigger = after.wanted id trigger := by
  obtain ⟨state, reached, replayed, wanted⟩ : ∃ state : System Int Int,
      Reaches (step id) (fun system event => Conveyed system event = true) { records := ∅ } state ∧
      state.fullyReplays true {} {} (fun _ => {}) = true ∧
      (state.maintainDriverConnection id true {} {} fun _ => {}).wanted id trigger =
        some (compensationEntry id trigger triggerRange true) :=
    reaches_evaluates
      [cleanHeartbeat, .disconnect, .learn trigger .scalarSingle triggerRange.learned {}]
      (by decide +kernel)
  have none_ready : ∀ key, recordReady (∅ : Records Int) key = true → Deliverable key :=
    fun _ ready => absurd ready Bool.false_ne_true
  exact ⟨state, _, reached, rfl, wanted,
    replayed_driver_agrees id none_ready reached replayed rfl trigger⟩

/-- A path that is unlearned while the pipe is closed: the replay after the reconnect pushes all the
overlay has, and the driver goes on to correct with the old range. -/
theorem unlearned_path_stays_corrected :
    ∃ state after : System Int Int,
      run (step id) { records := ∅ } [cleanHeartbeat,
        .learn trigger .scalarSingle triggerRange.learned {}, .disconnect,
        .unlearnPath trigger {}] = some state ∧
      state.fullyReplays true {} {} (fun _ => {}) = true ∧
      step id state cleanHeartbeat = some after ∧
      after.inputHealthComp trigger = some (compensationEntry id trigger triggerRange true) ∧
      after.records.lookup trigger = none := by
  obtain ⟨state, ran, replayed, stale, gone⟩ : ∃ state : System Int Int,
      run (step id) { records := ∅ } [cleanHeartbeat,
        .learn trigger .scalarSingle triggerRange.learned {}, .disconnect,
        .unlearnPath trigger {}] = some state ∧
      state.fullyReplays true {} {} (fun _ => {}) = true ∧
      (state.maintainDriverConnection id true {} {} fun _ => {}).inputHealthComp trigger =
        some (compensationEntry id trigger triggerRange true) ∧
      (state.maintainDriverConnection id true {} {} fun _ => {}).records.lookup trigger =
        none :=
    run_evaluates (by decide +kernel)
  exact ⟨state, _, ran, replayed, rfl, stale, gone⟩

end PairDriver.InputHealth
