/-
This file proves when the driver's suppression of the prediction follows the
policy of the smoothing plugin. Between its calls every device is covered: the
driver applies the policy to it already, or a replay is due and will tell the
value saved for it, or its lock is new and will be told. The plugin keeps this
up by itself; it is lost by changes it does not look out for. A lock that ends,
a device without a saved value that takes over an id, and a driver that is
restarted and connected again inside a request all leave a stale value behind.
-/

import PairDriver.PredictionOverlay

namespace PairDriver.Prediction

open Provider (Geometry Driver SetDevicePrediction initialDriver kMaxTrackedDeviceCount axis)

section Proof

variable {Vec Rot : Type} {geo : Geometry Vec Rot}

/-! ### What is known between the calls -/

/-- There is a value saved for the device. -/
def Overlay.Saves (overlay : Overlay Vec Rot) (device : Device) : Prop :=
  device.serial ≠ "" ∧ (overlay.trackerSmoothness device.serial).isSome = true

instance (overlay : Overlay Vec Rot) (device : Device) : Decidable (overlay.Saves device) :=
  inferInstanceAs (Decidable (_ ∧ _))

/-- A replay is due: the pipe does not lead to the driver that runs, or the devices are not those
last scanned. -/
def Overlay.ReplayDue (overlay : Overlay Vec Rot) : Prop :=
  ¬overlay.link.Alive ∨ (overlay.lastPredictionDeviceSignature ≠ "" ∧
    buildPredictionDeviceSignature overlay.devices ≠ overlay.lastPredictionDeviceSignature)

instance (overlay : Overlay Vec Rot) : Decidable overlay.ReplayDue :=
  inferInstanceAs (Decidable (_ ∨ _))

/-- The driver applies the policy to the device, or a call to come will see to it. -/
def Overlay.CoversAt (overlay : Overlay Vec Rot) (id : Nat) (device : Device) : Prop :=
  suppression overlay.link id = overlay.policy device ∨
    (overlay.Saves device ∧ overlay.ReplayDue) ∨ (overlay.newlyLocked device).isSome = true

instance (overlay : Overlay Vec Rot) (id : Nat) (device : Device) :
    Decidable (overlay.CoversAt id device) :=
  inferInstanceAs (Decidable (_ ∨ _ ∨ _))

def Overlay.Covers (overlay : Overlay Vec Rot) : Prop :=
  ∀ id < kMaxTrackedDeviceCount, ∀ device ∈ deviceAt overlay.devices id, overlay.CoversAt id device

instance (overlay : Overlay Vec Rot) : Decidable overlay.Covers :=
  inferInstanceAs (Decidable (∀ _ < _, ∀ _ ∈ _, _))

/-- Replays filter the devices as the tab does. -/
def FiltersAgree (devices : Option (Nat → Option Device)) : Prop :=
  ∀ id < kMaxTrackedDeviceCount, ∀ device ∈ deviceAt devices id, device.replayListed = device.listed

instance (devices : Option (Nat → Option Device)) : Decidable (FiltersAgree devices) :=
  inferInstanceAs (Decidable (∀ _ < _, ∀ _ ∈ _, _))

/-! ### The condition -/

/-- An open pipe leads to the driver that runs. -/
def Current (link : Ipc.Link (Driver Vec Rot)) : Prop :=
  link.pipe = none ∨ link.Alive

instance (link : Ipc.Link (Driver Vec Rot)) : Decidable (Current link) :=
  inferInstanceAs (Decidable (_ ∨ _))

/-- Every request of a loop stays with its driver. -/
def StayEach (current : Prop) (answers : Nat → Ipc.Sending) : Prop :=
  ∀ id < kMaxTrackedDeviceCount, (answers id).exchange.Stays current

instance (current : Prop) [Decidable current] (answers : Nat → Ipc.Sending) :
    Decidable (StayEach current answers) :=
  inferInstanceAs (Decidable (∀ _ < _, _))

def Connection.Stays (current : Prop) (answers : Connection) : Prop :=
  answers.config.exchange.Stays current ∧ StayEach current answers.replay

instance (current : Prop) [Decidable current] (answers : Connection) :
    Decidable (answers.Stays current) :=
  inferInstanceAs (Decidable (_ ∧ _))

variable (geo) in
/-- A row that changes a value: the value is within the bounds of the slider, no other device has
the same serial number, and a value that is no longer saved is answered, unless the driver has none
for the device. -/
def Overlay.RowKeeps (overlay : Overlay Vec Rot) (id : Nat) (edit : Option Int)
    (sending : Ipc.Sending) : Prop :=
  ∀ device ∈ deviceAt overlay.devices id, ∀ value ∈ overlay.rowEdit edit device,
    value ≤ 100 ∧
      (∀ other < kMaxTrackedDeviceCount, other ≠ id → ∀ twin ∈ deviceAt overlay.devices other,
        twin.serial ≠ device.serial) ∧
      (value ≤ 0 → suppression overlay.link id = 0 ∨
        (sendDevicePrediction geo overlay.smartSmoothing sending id value overlay.link).Alive)

instance (overlay : Overlay Vec Rot) (id : Nat) (edit : Option Int) (sending : Ipc.Sending) :
    Decidable (overlay.RowKeeps geo id edit sending) :=
  inferInstanceAs (Decidable (∀ _ ∈ _, ∀ _ ∈ _, _ ∧ (∀ _ < _, _ ≠ _ → ∀ _ ∈ _, _) ∧ (_ → _)))

variable (geo) in
/-- The condition on the steps. A change of the devices or of the locks leaves every device covered,
and the filters of the tab and of a replay agree on the devices. No request that finds its pipe
broken is answered by a driver that was started since. Rows keep to their condition. -/
def Noticed (overlay : Overlay Vec Rot) : Event → Prop
  | .devicesChange devices =>
    Overlay.Covers { overlay with devices := devices } ∧ FiltersAgree devices
  | .locksChange serials => Overlay.Covers { overlay with locks := serials.toFinset.erase "" }
  | .restart => True
  | .start answers => answers.Stays (Current overlay.link)
  | .tick answers => answers.connection.Stays (Current overlay.link) ∧
      StayEach (Current overlay.link) answers.restore ∧
      StayEach (Current overlay.link) answers.lockClear
  | .drawRow id edit sending =>
    sending.exchange.Stays (Current overlay.link) ∧ overlay.RowKeeps geo id edit sending
  | .smartToggle _ answers => StayEach (Current overlay.link) answers

instance (overlay : Overlay Vec Rot) (event : Event) : Decidable (Noticed geo overlay event) :=
  match event with
  | .devicesChange _ => inferInstanceAs (Decidable (_ ∧ _))
  | .locksChange _ => inferInstanceAs (Decidable (Overlay.Covers _))
  | .restart => isTrue trivial
  | .start _ => inferInstanceAs (Decidable (Connection.Stays _ _))
  | .tick _ => inferInstanceAs (Decidable (_ ∧ _ ∧ _))
  | .drawRow _ _ _ => inferInstanceAs (Decidable (_ ∧ _))
  | .smartToggle _ _ => inferInstanceAs (Decidable (StayEach _ _))

/-! ### One request -/

/-- What a number of requests do to the driver: each slot is as before, or as told, or that of a
driver no open pipe leads to. Over a pipe that still leads to the driver everything was told. -/
structure Pushed (sent : Nat → Prop) (wanted : Nat → Nat)
    (before after : Ipc.Link (Driver Vec Rot)) : Prop where
  formed : after.Formed
  pipe : after.pipe = none ∨ (before.pipe ≠ none ∧ (after.Alive ↔ before.Alive))
  kept : ∀ id, suppression after id = suppression before id ∨
    (sent id ∧ suppression after id = wanted id) ∨ (¬after.Alive ∧ suppression after id = 0)
  told : after.Alive → ∀ id, sent id → suppression after id = wanted id

/-- A pipe that was open is closed, or as current as at the start of the call. -/
def Standing (current : Prop) (link : Ipc.Link (Driver Vec Rot)) : Prop :=
  link.pipe = none ∨ (link.Alive ↔ current)

theorem standing_current (link : Ipc.Link (Driver Vec Rot)) : Standing (Current link) link := by
  by_cases closed : link.pipe = none
  · exact Or.inl closed
  · exact Or.inr ⟨Or.inr, fun current => current.resolve_left closed⟩

section Pushed

variable {sent other : Nat → Prop} {wanted : Nat → Nat}
  {before middle after link : Ipc.Link (Driver Vec Rot)}

theorem Pushed.alive (pushed : Pushed sent wanted before after) (alive : after.Alive) :
    before.Alive := by
  rcases pushed.pipe with closed | ⟨_, same⟩
  · exact absurd alive (Ipc.not_alive_of_closed closed)
  · exact same.mp alive

theorem Pushed.standing {current : Prop} (pushed : Pushed sent wanted before after)
    (standing : Standing current before) : Standing current after := by
  rcases pushed.pipe with closed | ⟨opened, same⟩
  · exact Or.inl closed
  · exact Or.inr (same.trans (standing.resolve_left opened))

theorem Pushed.refl (formed : link.Formed) : Pushed (fun _ => False) wanted link link := by
  refine ⟨formed, ?_, fun _ => Or.inl rfl, fun _ _ nothing => nothing.elim⟩
  by_cases closed : link.pipe = none
  · exact Or.inl closed
  · exact Or.inr ⟨closed, Iff.rfl⟩

theorem Pushed.trans (first : Pushed sent wanted before middle)
    (second : Pushed other wanted middle after) :
    Pushed (fun id => sent id ∨ other id) wanted before after := by
  refine ⟨second.formed, ?_, fun id => ?_, fun alive id told => ?_⟩
  · rcases second.pipe with closed | ⟨opened, same⟩
    · exact Or.inl closed
    · obtain ⟨begun, earlier⟩ := first.pipe.resolve_left opened
      exact Or.inr ⟨begun, same.trans earlier⟩
  · rcases second.kept id with same | ⟨told, value⟩ | cleared
    · rcases first.kept id with unchanged | ⟨told, value⟩ | ⟨dead, zero⟩
      · exact Or.inl (same.trans unchanged)
      · exact Or.inr (Or.inl ⟨Or.inl told, same.trans value⟩)
      · exact Or.inr (Or.inr ⟨fun alive => dead (second.alive alive), same.trans zero⟩)
    · exact Or.inr (Or.inl ⟨Or.inr told, value⟩)
    · exact Or.inr (Or.inr cleared)
  · rcases told with earlier | later
    · have value := first.told (second.alive alive) id earlier
      rcases second.kept id with same | ⟨_, again⟩ | ⟨dead, _⟩
      · exact same.trans value
      · exact again
      · exact absurd alive dead
    · exact second.told alive id later

theorem Pushed.congr (pushed : Pushed sent wanted before after)
    (same : ∀ id, sent id ↔ other id) : Pushed other wanted before after := by
  refine ⟨pushed.formed, pushed.pipe, fun id => ?_, fun alive id told => ?_⟩
  · rw [← same id]
    exact pushed.kept id
  · exact pushed.told alive id ((same id).mpr told)

end Pushed

/-- The slots after a request has arrived a number of times. -/
def slotsAfter (request : Request) (count : Nat) (driver : Driver Vec Rot) (id : Nat) : Nat :=
  (((Ipc.apply handleRequest (some request))^[count] driver).transforms id).predictionSmoothness

/-- A request over a pipe that stays with its driver, given what it does to the slots. -/
theorem send_pushed {current : Prop} {sending : Ipc.Sending} {request : Request}
    {sent : Nat → Prop} {wanted : Nat → Nat} {link : Ipc.Link (Driver Vec Rot)}
    (formed : link.Formed) (standing : Standing current link)
    (stays : sending.exchange.Stays current)
    (kept : ∀ count (driver : Driver Vec Rot) id,
      slotsAfter request count driver id = (driver.transforms id).predictionSmoothness ∨
        (sent id ∧ slotsAfter request count driver id = wanted id))
    (told : ∀ count (driver : Driver Vec Rot) id, 0 < count → sent id →
      slotsAfter request count driver id = wanted id) :
    Pushed sent wanted link (send geo sending request link) := by
  unfold send
  split
  · rename_i closed
    exact ⟨formed, Or.inl closed, fun _ => Or.inl rfl, fun alive =>
      absurd alive (Ipc.not_alive_of_closed closed)⟩
  · rename_i opened
    cases moved : link.sendBlocking (initialDriver geo) handleRequest sending (some request) with
    | mk ok after =>
      rw [Ipc.Link.sendBlocking, if_neg opened] at moved
      have exchanged := Ipc.exchange_sent formed moved
      obtain ⟨count, positive, touched⟩ := exchanged.touched
      cases ok with
      | true =>
        have stayed : sending.exchange.Stays link.Alive := by
          intro opens
          exact ⟨(standing.resolve_left opened).mpr (stays opens).1, (stays opens).2⟩
        obtain ⟨alive, process⟩ := Ipc.exchange_stays formed stayed moved
        have driver : after.driver =
            (Ipc.apply handleRequest (some request))^[count] link.driver := by
          rcases touched.driver with ⟨_, applied⟩ | ⟨later, _⟩
          · exact applied
          · exact absurd process later.ne'
        have slots : ∀ id, suppression after id = slotsAfter request count link.driver id := by
          intro id
          rw [suppression, driver, slotsAfter]
        refine ⟨touched.formed, Or.inr ⟨opened, iff_of_true (exchanged.answered rfl) alive⟩, ?_, ?_⟩
        · intro id
          rw [slots]
          exact (kept count link.driver id).imp_right Or.inl
        · intro _ id chosen
          rw [slots]
          exact told count link.driver id (positive rfl) chosen
      | false =>
        have closed := exchanged.closed rfl
        have dead := Ipc.not_alive_of_closed closed
        refine ⟨touched.formed, Or.inl closed, fun id => ?_, fun alive => absurd alive dead⟩
        rcases touched.driver with ⟨_, applied⟩ | ⟨_, applied⟩
        · have slots : suppression after id = slotsAfter request count link.driver id := by
            rw [suppression, applied, slotsAfter]
          show suppression after id = _ ∨ _
          rw [slots]
          exact (kept count link.driver id).imp_right Or.inl
        · have slots : suppression after id = slotsAfter request count (initialDriver geo) id := by
            rw [suppression, applied, slotsAfter]
          show suppression after id = _ ∨ _
          rw [slots]
          rcases kept count (initialDriver geo) id with zero | chosen
          · exact Or.inr (Or.inr ⟨dead, zero⟩)
          · exact Or.inr (Or.inl chosen)

theorem slotsAfter_setFingerSmoothing (count : Nat) (driver : Driver Vec Rot) (id : Nat) :
    slotsAfter .setFingerSmoothing count driver id =
      (driver.transforms id).predictionSmoothness := by
  rw [slotsAfter, Function.iterate_fixed rfl]

theorem setDevicePrediction_smoothness {request : SetDevicePrediction}
    (known : request.openVRID < kMaxTrackedDeviceCount) (driver : Driver Vec Rot) (id : Nat) :
    ((driver.setDevicePrediction request).transforms id).predictionSmoothness =
      if id = request.openVRID then request.predictionSmoothness
      else (driver.transforms id).predictionSmoothness := by
  rw [Driver.setDevicePrediction, if_neg (Nat.not_le.mpr known)]
  dsimp only [Driver.setTransform]
  by_cases same : id = request.openVRID
  · rw [if_pos same, same, Function.update_self]
  · rw [if_neg same, Function.update_of_ne same]

theorem slotsAfter_setDevicePrediction {request : SetDevicePrediction}
    (known : request.openVRID < kMaxTrackedDeviceCount) (count : Nat) (driver : Driver Vec Rot)
    (id : Nat) : slotsAfter (.setDevicePrediction request) count driver id =
      if id = request.openVRID ∧ 0 < count then request.predictionSmoothness
      else (driver.transforms id).predictionSmoothness := by
  induction count with
  | zero => rw [if_neg fun both => absurd both.2 (lt_irrefl 0)]; rfl
  | succ count inductionHypothesis =>
    unfold slotsAfter at inductionHypothesis ⊢
    rw [Function.iterate_succ_apply']
    refine (setDevicePrediction_smoothness known _ id).trans ?_
    by_cases same : id = request.openVRID
    · rw [if_pos same, if_pos ⟨same, Nat.succ_pos count⟩]
    · rw [if_neg same, inductionHypothesis, if_neg fun both => same both.1,
        if_neg fun both => same both.1]

variable (geo) in
theorem sendConfig_pushed (wanted : Nat → Nat) {current : Prop} {sending : Ipc.Sending}
    {link : Ipc.Link (Driver Vec Rot)} (formed : link.Formed) (standing : Standing current link)
    (stays : sending.exchange.Stays current) :
    Pushed (fun _ => False) wanted link (send geo sending .setFingerSmoothing link) :=
  send_pushed formed standing stays
    (fun count driver id => Or.inl (slotsAfter_setFingerSmoothing count driver id))
    fun _ _ _ _ nothing => nothing.elim

variable (geo) in
theorem sendDevicePrediction_pushed (wanted : Nat → Nat) {current : Prop} {sending : Ipc.Sending}
    {id : Nat} {link : Ipc.Link (Driver Vec Rot)} (formed : link.Formed)
    (standing : Standing current link) (stays : sending.exchange.Stays current)
    (known : id < kMaxTrackedDeviceCount) (smart : Bool) (smoothness : Int)
    (value : wanted id = min smoothness.toNat 100) :
    Pushed (fun other => other = id) wanted link
      (sendDevicePrediction geo smart sending id smoothness link) := by
  refine send_pushed formed standing stays (fun count driver other => ?_)
    fun count driver other positive same => ?_
  · rw [slotsAfter_setDevicePrediction known]
    split
    · rename_i both
      obtain ⟨rfl, _⟩ := both
      exact Or.inr ⟨rfl, value.symm⟩
    · exact Or.inl rfl
  · rw [slotsAfter_setDevicePrediction known, if_pos ⟨same, positive⟩, same, value]

/-- A loop tells what its requests tell one by one. -/
theorem foldl_pushed (chosen : Nat → Prop) {current : Prop} {wanted : Nat → Nat}
    {tell : Ipc.Link (Driver Vec Rot) → Nat → Ipc.Link (Driver Vec Rot)}
    (tells : ∀ id < kMaxTrackedDeviceCount, ∀ link, link.Formed → Standing current link →
      Pushed (fun other => other = id ∧ chosen other) wanted link (tell link id))
    (ids : List Nat) {link : Ipc.Link (Driver Vec Rot)}
    (known : ∀ id ∈ ids, id < kMaxTrackedDeviceCount) (formed : link.Formed)
    (standing : Standing current link) :
    Pushed (fun id => id ∈ ids ∧ chosen id) wanted link (ids.foldl tell link) := by
  induction ids generalizing link with
  | nil =>
    refine (Pushed.refl formed).congr fun id => ?_
    exact ⟨False.elim, fun both => List.not_mem_nil both.1⟩
  | cons id rest inductionHypothesis =>
    rw [List.foldl_cons]
    have head := tells id (known id List.mem_cons_self) link formed standing
    have later : ∀ other ∈ rest, other < kMaxTrackedDeviceCount :=
      fun other member => known other (List.mem_cons_of_mem id member)
    have tail := inductionHypothesis later head.formed (head.standing standing)
    refine (head.trans tail).congr fun other => ?_
    rw [List.mem_cons, or_and_right]

variable (geo) in
/-- A loop over the ids tells what it has to tell. -/
theorem sendEach_pushed (smart : Bool) {current : Prop} {answers : Nat → Ipc.Sending}
    (devices : Option (Nat → Option Device)) (value : Device → Option Nat)
    {link : Ipc.Link (Driver Vec Rot)} (formed : link.Formed) (standing : Standing current link)
    (stays : StayEach current answers) :
    Pushed (fun id => id < kMaxTrackedDeviceCount ∧
        ((deviceAt devices id).bind value).isSome = true)
      (fun id => min (((deviceAt devices id).bind value).getD 0) 100) link
      (sendEach geo smart answers devices value link) := by
  unfold sendEach
  refine (foldl_pushed (fun id => ((deviceAt devices id).bind value).isSome = true)
    (fun id known link formed standing => ?_) _ (fun id member => List.mem_range.mp member)
    formed standing).congr fun id => ?_
  · cases tells : (deviceAt devices id).bind value with
    | none =>
      refine (Pushed.refl formed).congr fun other => ⟨False.elim, ?_⟩
      rintro ⟨rfl, told⟩
      rw [tells] at told
      cases told
    | some smoothness =>
      refine (sendDevicePrediction_pushed geo _ formed standing (stays id known) known smart
        smoothness (by rw [tells]; rfl)).congr fun other => ⟨fun same => ⟨same, ?_⟩, And.left⟩
      rw [same, tells]
      rfl
  · rw [List.mem_range]

/-! ### Covering -/

/-- Saved values are in the range of the wire. -/
def Overlay.InRange (overlay : Overlay Vec Rot) : Prop :=
  ∀ serial, ∀ value ∈ overlay.trackerSmoothness serial, value ≤ 100

/-- What a replay needs: devices without a saved value are not suppressed. -/
structure Overlay.Ready (overlay : Overlay Vec Rot) : Prop where
  formed : overlay.link.Formed
  inRange : overlay.InRange
  agrees : FiltersAgree overlay.devices
  unsaved : ∀ id < kMaxTrackedDeviceCount, ∀ device ∈ deviceAt overlay.devices id,
    ¬overlay.Saves device → suppression overlay.link id = 0

/-- What holds between the calls. -/
structure Overlay.Sound (overlay : Overlay Vec Rot) : Prop where
  formed : overlay.link.Formed
  inRange : overlay.InRange
  agrees : FiltersAgree overlay.devices
  covers : overlay.Covers

/-- The policy suppresses no device without a saved value. -/
theorem policy_of_unsaved {overlay : Overlay Vec Rot} {device : Device}
    (unsaved : ¬overlay.Saves device) : overlay.policy device = 0 := by
  unfold Overlay.policy
  split
  · rfl
  · rename_i listed
    have unknown : ¬(overlay.trackerSmoothness device.serial).isSome = true :=
      fun known => unsaved ⟨fun empty => listed (Or.inl empty), known⟩
    rw [Option.not_isSome_iff_eq_none.mp unknown]
    rfl

theorem newlyLocked_isSome_iff {overlay : Overlay Vec Rot} {device : Device} :
    (overlay.newlyLocked device).isSome = true ↔ overlay.Saves device ∧
      device.serial ∈ overlay.locks ∧ device.serial ∉ overlay.lastKnownCalibrationLocks := by
  unfold Overlay.newlyLocked
  constructor
  · intro locked
    split at locked
    · rename_i found
      obtain ⟨nonempty, member, fresh⟩ := found
      obtain ⟨known, saved⟩ := Finset.mem_filter.mp member
      exact ⟨⟨nonempty, saved⟩, known, fresh⟩
    · cases locked
  · rintro ⟨⟨nonempty, saved⟩, known, fresh⟩
    rw [if_pos ⟨nonempty, Finset.mem_filter.mpr ⟨known, saved⟩, fresh⟩]
    rfl

theorem Overlay.Sound.ready {overlay : Overlay Vec Rot} (sound : overlay.Sound) : overlay.Ready := by
  refine ⟨sound.formed, sound.inRange, sound.agrees, fun id known device found unsaved => ?_⟩
  rcases sound.covers id known device found with settled | ⟨saves, _⟩ | locked
  · exact settled.trans (policy_of_unsaved unsaved)
  · exact absurd saves unsaved
  · exact absurd (newlyLocked_isSome_iff.mp locked).1 unsaved

/-- While no pipe leads to the driver a replay is due, and covers every device. -/
theorem Overlay.Ready.sound {overlay : Overlay Vec Rot} (ready : overlay.Ready)
    (dead : ¬overlay.link.Alive) : overlay.Sound := by
  refine ⟨ready.formed, ready.inRange, ready.agrees, fun id known device found => ?_⟩
  by_cases saves : overlay.Saves device
  · exact Or.inr (Or.inl ⟨saves, Or.inl dead⟩)
  · exact Or.inl ((ready.unsaved id known device found saves).trans (policy_of_unsaved saves).symm)

/-- A call that tells a device nothing, or what the policy wants, keeps it covered. -/
theorem Overlay.CoversAt.pushed {overlay : Overlay Vec Rot} {after : Ipc.Link (Driver Vec Rot)}
    {sent : Nat → Prop} {wanted : Nat → Nat} {id : Nat} {device : Device}
    (covers : overlay.CoversAt id device) (pushed : Pushed sent wanted overlay.link after)
    (wants : sent id → wanted id = overlay.policy device) :
    Overlay.CoversAt { overlay with link := after } id device := by
  rcases pushed.kept id with same | ⟨told, value⟩ | ⟨dead, zero⟩
  · rcases covers with settled | ⟨saves, due⟩ | locked
    · exact Or.inl (same.trans settled)
    · exact Or.inr (Or.inl ⟨saves, due.imp_left fun dead alive => dead (pushed.alive alive)⟩)
    · exact Or.inr (Or.inr locked)
  · exact Or.inl (value.trans (wants told))
  · by_cases saves : overlay.Saves device
    · exact Or.inr (Or.inl ⟨saves, Or.inl dead⟩)
    · exact Or.inl (zero.trans (policy_of_unsaved saves).symm)

/-- A request that tells nothing leaves the devices ready for a replay. -/
theorem Overlay.Ready.pushed {overlay : Overlay Vec Rot} {after : Ipc.Link (Driver Vec Rot)}
    (ready : overlay.Ready) (pushed : Pushed (fun _ => False) (fun _ => 0) overlay.link after) :
    Overlay.Ready { overlay with link := after } := by
  refine ⟨pushed.formed, ready.inRange, ready.agrees, fun id known device found unsaved => ?_⟩
  rcases pushed.kept id with same | ⟨nothing, _⟩ | ⟨_, zero⟩
  · exact same.trans (ready.unsaved id known device found unsaved)
  · exact nothing.elim
  · exact zero

/-- A call that tells every device with a saved value what the policy wants covers all of them. -/
theorem Overlay.Ready.told {overlay : Overlay Vec Rot} {after : Ipc.Link (Driver Vec Rot)}
    {sent : Nat → Prop} {wanted : Nat → Nat} (ready : overlay.Ready)
    (pushed : Pushed sent wanted overlay.link after)
    (wants : ∀ id < kMaxTrackedDeviceCount, ∀ device ∈ deviceAt overlay.devices id, sent id →
      wanted id = overlay.policy device)
    (every : ∀ id < kMaxTrackedDeviceCount, ∀ device ∈ deviceAt overlay.devices id,
      overlay.Saves device → sent id) : Overlay.Sound { overlay with link := after } := by
  refine ⟨pushed.formed, ready.inRange, ready.agrees, fun id known device found => ?_⟩
  by_cases saves : overlay.Saves device
  · by_cases alive : after.Alive
    · have sent := every id known device found saves
      exact Or.inl ((pushed.told alive id sent).trans (wants id known device found sent))
    · exact Or.inr (Or.inl ⟨saves, Or.inl alive⟩)
  · left
    rcases pushed.kept id with same | ⟨told, value⟩ | ⟨_, zero⟩
    · exact (same.trans (ready.unsaved id known device found saves)).trans
        (policy_of_unsaved saves).symm
    · exact value.trans (wants id known device found told)
    · exact zero.trans (policy_of_unsaved saves).symm

/-- A replay tells what the policy wants. -/
theorem replayed_policy {overlay : Overlay Vec Rot} {device : Device} {value : Nat}
    (inRange : overlay.InRange) (agrees : device.replayListed = device.listed)
    (tells : overlay.replayed device = some value) : min value 100 = overlay.policy device := by
  unfold Overlay.replayed at tells
  unfold Overlay.policy
  split at tells
  · cases tells
  · rename_i nonempty
    split at tells
    · rename_i hidden
      obtain ⟨_, _, rfl⟩ := Option.map_eq_some_iff.mp tells
      rw [if_pos]
      · rfl
      · simp only [Bool.or_eq_true, Bool.not_eq_true', decide_eq_true_eq] at hidden
        rcases hidden with (unlisted | hmd) | locked
        · exact Or.inr (Or.inr (Or.inl (agrees ▸ unlisted)))
        · exact Or.inr (Or.inl hmd)
        · exact Or.inr (Or.inr (Or.inr locked))
    · rename_i shown
      rw [if_neg]
      · rw [tells]
        exact Nat.min_eq_left (inRange device.serial value tells)
      · rw [← agrees]
        simp only [Bool.or_eq_true, Bool.not_eq_true', decide_eq_true_eq] at shown
        rintro (empty | hmd | unlisted | locked)
        · exact nonempty empty
        · exact shown (Or.inl (Or.inr hmd))
        · exact shown (Or.inl (Or.inl unlisted))
        · exact shown (Or.inr locked)

/-- A replay tells every device with a saved value. -/
theorem replayed_of_saves {overlay : Overlay Vec Rot} {device : Device}
    (saves : overlay.Saves device) : (overlay.replayed device).isSome = true := by
  unfold Overlay.replayed
  rw [if_neg saves.1]
  split
  · rw [Option.isSome_map]
    exact saves.2
  · exact saves.2

theorem bind_of_found {devices : Option (Nat → Option Device)} {id : Nat} {device : Device}
    (found : device ∈ deviceAt devices id) (value : Device → Option Nat) :
    (deviceAt devices id).bind value = value device := by
  rw [Option.mem_def.mp found, Option.bind_some]

/-- A replay covers every device, whatever becomes of it. -/
theorem replay_sound {overlay : Overlay Vec Rot} {current : Prop} {answers : Nat → Ipc.Sending}
    (ready : overlay.Ready) (standing : Standing current overlay.link)
    (stays : StayEach current answers) :
    (overlay.replayDevicePredictions geo answers).Sound ∧
      Standing current (overlay.replayDevicePredictions geo answers).link := by
  have pushed := sendEach_pushed geo overlay.smartSmoothing overlay.devices overlay.replayed
    ready.formed standing stays
  refine ⟨ready.told pushed (fun id known device found told => ?_)
    (fun id known device found saves => ⟨known, ?_⟩), pushed.standing standing⟩
  · rw [bind_of_found found] at told ⊢
    obtain ⟨value, tells⟩ := Option.isSome_iff_exists.mp told.2
    rw [tells]
    exact replayed_policy ready.inRange (ready.agrees id known device found) tells
  · rw [bind_of_found found]
    exact replayed_of_saves saves

/-! ### The start and the tick -/

variable (geo) in
/-- Connecting leaves a driver that is as before or blank, and devices ready for a replay. -/
theorem connect_ready {overlay : Overlay Vec Rot} (sound : overlay.Sound)
    (connecting : Ipc.Connecting) :
    (overlay.connectIfNeeded geo connecting).2.Ready ∧
      Standing (Current overlay.link) (overlay.connectIfNeeded geo connecting).2.link ∧
      ((overlay.connectIfNeeded geo connecting).1 = false →
        (overlay.connectIfNeeded geo connecting).2.Sound) := by
  unfold Overlay.connectIfNeeded
  split
  · exact ⟨sound.ready, standing_current overlay.link, fun _ => sound⟩
  · rename_i notOpen
    have closed : overlay.link.pipe = none := of_not_not notOpen
    dsimp only
    cases moved : overlay.link.connect (initialDriver geo) handleRequest connecting with
    | mk ok after =>
      obtain ⟨touched, outcome⟩ := Ipc.connect_touched (some .setFingerSmoothing) sound.formed moved
      have ready : Overlay.Ready { overlay with link := after } := by
        refine ⟨touched.formed, sound.inRange, sound.agrees, fun id known device found unsaved => ?_⟩
        rcases touched.driver with ⟨_, same⟩ | ⟨_, blank⟩
        · show (after.driver.transforms id).predictionSmoothness = 0
          rw [same]
          exact sound.ready.unsaved id known device found unsaved
        · show (after.driver.transforms id).predictionSmoothness = 0
          rw [blank]
          rfl
      rcases outcome with ⟨rfl, alive, _⟩ | ⟨rfl, shut⟩
      · exact ⟨ready, Or.inr (iff_of_true alive (Or.inl closed)), fun failed => by cases failed⟩
      · exact ⟨ready, Or.inl shut, fun _ => ready.sound (Ipc.not_alive_of_closed shut)⟩

variable (geo) in
/-- The pushes over a new connection. -/
theorem connected_sound {overlay : Overlay Vec Rot} {current : Prop} {answers : Connection}
    (ready : overlay.Ready) (standing : Standing current overlay.link)
    (stays : answers.Stays current) :
    ((overlay.sendConfig geo answers.config).replayDevicePredictions geo answers.replay).Sound ∧
      Standing current
        ((overlay.sendConfig geo answers.config).replayDevicePredictions geo answers.replay).link := by
  have pushed := sendConfig_pushed geo (fun _ => 0) ready.formed standing stays.1
  have configured : (overlay.sendConfig geo answers.config).Ready := ready.pushed pushed
  exact replay_sound configured (pushed.standing standing) stays.2

theorem onStart_sound {overlay : Overlay Vec Rot} (sound : overlay.Sound) {answers : Connection}
    (stays : answers.Stays (Current overlay.link)) : (overlay.onStart geo answers).Sound := by
  obtain ⟨ready, standing, _⟩ := connect_ready geo sound answers.connecting
  have pushed := (connected_sound geo ready standing stays).1
  exact ⟨pushed.formed, pushed.inRange, pushed.agrees, pushed.covers⟩

variable (geo) in
theorem tickConnection_sound {overlay : Overlay Vec Rot} (sound : overlay.Sound)
    {answers : Connection} (stays : answers.Stays (Current overlay.link)) :
    (overlay.tickConnection geo answers).Sound ∧
      Standing (Current overlay.link) (overlay.tickConnection geo answers).link := by
  obtain ⟨ready, standing, failed⟩ := connect_ready geo sound answers.connecting
  unfold Overlay.tickConnection
  cases connected : overlay.connectIfNeeded geo answers.connecting with
  | mk fresh after =>
    rw [connected] at ready standing failed
    cases fresh with
    | true => exact connected_sound geo ready standing stays
    | false => exact ⟨failed rfl, standing⟩

theorem tickConnection_scan (overlay : Overlay Vec Rot) (answers : Connection) :
    (overlay.tickConnection geo answers).lastPredictionReplayScan =
      overlay.lastPredictionReplayScan := by
  unfold Overlay.tickConnection Overlay.connectIfNeeded
  by_cases opened : overlay.link.pipe ≠ none
  · rw [if_pos opened]
  · rw [if_neg opened]
    cases overlay.link.connect (initialDriver geo) handleRequest answers.connecting with
    | mk ok after =>
      cases ok with
      | true | false => rfl

/-- The devices have been scanned; a list of none is not remembered. -/
def Overlay.Scanned (overlay : Overlay Vec Rot) : Prop :=
  buildPredictionDeviceSignature overlay.devices = "" ∨
    buildPredictionDeviceSignature overlay.devices = overlay.lastPredictionDeviceSignature

section Scan

variable {overlay : Overlay Vec Rot} (now : Nat) (signature : String)

/-- The first list of devices is remembered without a replay. -/
theorem Overlay.Sound.scan (sound : overlay.Sound)
    (unknown : overlay.lastPredictionDeviceSignature = "") :
    Overlay.Sound { overlay with
      lastPredictionReplayScan := now
      lastPredictionDeviceSignature := signature } := by
  refine ⟨sound.formed, sound.inRange, sound.agrees, fun id known device found => ?_⟩
  rcases sound.covers id known device found with settled | ⟨saves, due⟩ | locked
  · exact Or.inl settled
  · exact Or.inr (Or.inl ⟨saves, Or.inl (due.resolve_right fun changed => changed.1 unknown)⟩)
  · exact Or.inr (Or.inr locked)

theorem Overlay.Ready.scan (ready : overlay.Ready) :
    Overlay.Ready { overlay with
      lastPredictionReplayScan := now
      lastPredictionDeviceSignature := signature } :=
  ⟨ready.formed, ready.inRange, ready.agrees, ready.unsaved⟩

theorem Overlay.Sound.rescan (sound : overlay.Sound) :
    Overlay.Sound { overlay with lastPredictionReplayScan := now } :=
  ⟨sound.formed, sound.inRange, sound.agrees, sound.covers⟩

end Scan

theorem tickPredictionRestore_sound {overlay : Overlay Vec Rot} {current : Prop} (now : Nat)
    {answers : Nat → Ipc.Sending} (sound : overlay.Sound) (standing : Standing current overlay.link)
    (stays : StayEach current answers) :
    (overlay.tickPredictionRestore geo now answers).Sound ∧
      Standing current (overlay.tickPredictionRestore geo now answers).link := by
  unfold Overlay.tickPredictionRestore
  dsimp only
  split
  · exact ⟨sound, standing⟩
  split
  · exact ⟨sound, standing⟩
  split
  · exact ⟨sound.rescan now, standing⟩
  split
  · rename_i unknown
    exact ⟨sound.scan now _ unknown, standing⟩
  split
  · exact ⟨sound.rescan now, standing⟩
  · exact replay_sound (sound.ready.scan now _) standing stays

/-- Once the interval has passed the devices are scanned, if the pipe is open. -/
theorem tickPredictionRestore_scanned {overlay : Overlay Vec Rot} {now : Nat}
    {answers : Nat → Ipc.Sending}
    (passed : rescanIntervalMs ≤ now - overlay.lastPredictionReplayScan)
    (alive : (overlay.tickPredictionRestore geo now answers).link.Alive) :
    (overlay.tickPredictionRestore geo now answers).Scanned := by
  have opened : overlay.link.pipe ≠ none := by
    intro closed
    rw [Overlay.tickPredictionRestore, if_pos closed] at alive
    exact Ipc.not_alive_of_closed closed alive
  unfold Overlay.tickPredictionRestore
  rw [if_neg opened, if_neg (Nat.not_lt.mpr passed)]
  dsimp only
  split
  · rename_i empty
    exact Or.inl empty
  split
  · exact Or.inr (Eq.refl (buildPredictionDeviceSignature overlay.devices))
  split
  · rename_i same
    exact Or.inr same
  · exact Or.inr (Eq.refl (buildPredictionDeviceSignature overlay.devices))

theorem newlyLocked_policy {overlay : Overlay Vec Rot} {device : Device}
    (locked : (overlay.newlyLocked device).isSome = true) : overlay.policy device = 0 :=
  if_pos (Or.inr (Or.inr (Or.inr (newlyLocked_isSome_iff.mp locked).2.1)))

theorem newlyLocked_getD (overlay : Overlay Vec Rot) (device : Device) :
    (overlay.newlyLocked device).getD 0 = 0 := by
  unfold Overlay.newlyLocked
  split
  · rfl
  · rfl

/-- The last part of a tick covers every device, and leaves no new lock over an open pipe. -/
theorem tickCalibrationLockClear_sound {overlay : Overlay Vec Rot} {current : Prop}
    {answers : Nat → Ipc.Sending} (sound : overlay.Sound) (standing : Standing current overlay.link)
    (stays : StayEach current answers) :
    (overlay.tickCalibrationLockClear geo answers).Sound ∧
      ((overlay.tickCalibrationLockClear geo answers).link.Alive → overlay.link.Alive ∧
        ∀ id, ∀ device ∈ deviceAt (overlay.tickCalibrationLockClear geo answers).devices id,
          ¬((overlay.tickCalibrationLockClear geo answers).newlyLocked device).isSome = true) := by
  unfold Overlay.tickCalibrationLockClear
  split
  · rename_i same
    refine ⟨sound, fun alive => ⟨alive, fun id device _ locked => ?_⟩⟩
    obtain ⟨saves, known, fresh⟩ := newlyLocked_isSome_iff.mp locked
    exact fresh (same ▸ Finset.mem_filter.mpr ⟨known, saves.2⟩)
  split
  · rename_i unable
    refine ⟨sound, fun alive => ⟨alive, fun id device found => ?_⟩⟩
    rcases Bool.or_eq_true_iff.mp unable with none | closed
    · rw [Option.isNone_iff_eq_none.mp none, deviceAt] at found
      split at found
      · cases found
      · cases found
    · exact absurd alive (Ipc.not_alive_of_closed (of_decide_eq_true closed))
  · have pushed := sendEach_pushed geo overlay.smartSmoothing overlay.devices overlay.newlyLocked
      sound.formed standing stays
    have wants : ∀ id < kMaxTrackedDeviceCount, ∀ device ∈ deviceAt overlay.devices id,
        (id < kMaxTrackedDeviceCount ∧
          ((deviceAt overlay.devices id).bind overlay.newlyLocked).isSome = true) →
        min (((deviceAt overlay.devices id).bind overlay.newlyLocked).getD 0) 100 =
          overlay.policy device := by
      intro id _ device found told
      rw [bind_of_found found] at told ⊢
      rw [newlyLocked_policy told.2, newlyLocked_getD]
      rfl
    refine ⟨⟨pushed.formed, sound.inRange, sound.agrees, fun id known device found => ?_⟩, ?_⟩
    · have covers := sound.covers id known device found
      rcases covers.pushed pushed (wants id known device found) with settled | due | locked
      · exact Or.inl settled
      · exact Or.inr (Or.inl due)
      · have locked : (overlay.newlyLocked device).isSome = true := locked
        by_cases alive : (sendEach geo overlay.smartSmoothing answers overlay.devices
            overlay.newlyLocked overlay.link).Alive
        · have told : ((deviceAt overlay.devices id).bind overlay.newlyLocked).isSome = true := by
            rwa [bind_of_found found]
          exact Or.inl ((pushed.told alive id ⟨known, told⟩).trans
            (wants id known device found ⟨known, told⟩))
        · exact Or.inr (Or.inl ⟨(newlyLocked_isSome_iff.mp locked).1, Or.inl alive⟩)
    · refine fun alive => ⟨pushed.alive alive, fun id device found locked => ?_⟩
      obtain ⟨saves, known, fresh⟩ := newlyLocked_isSome_iff.mp locked
      exact fresh (Finset.mem_filter.mpr ⟨known, saves.2⟩)

/-- A list with a device whose serial number can be read has a signature. -/
theorem signature_ne_empty {devices : Option (Nat → Option Device)} {id : Nat} {device : Device}
    (known : id < kMaxTrackedDeviceCount) (found : device ∈ deviceAt devices id)
    (named : device.serial ≠ "") : buildPredictionDeviceSignature devices ≠ "" := by
  have entry : signatureEntry id (deviceAt devices id) ≠ "" := by
    rw [Option.mem_def.mp found, signatureEntry, if_neg named]
    intro empty
    exact absurd (String.append_eq_empty_iff.mp empty).2 (by decide)
  have loop : ∀ (ids : List Nat) (start : String), id ∈ ids ∨ start ≠ "" →
      ids.foldl (fun signature id => signature ++ signatureEntry id (deviceAt devices id)) start ≠
        "" := by
    intro ids
    induction ids with
    | nil =>
      intro start started
      exact started.resolve_left List.not_mem_nil
    | cons other rest inductionHypothesis =>
      intro start started
      rw [List.foldl_cons]
      refine inductionHypothesis _ ?_
      rcases started with member | started
      · rcases List.mem_cons.mp member with rfl | later
        · exact Or.inr fun empty => entry (String.append_eq_empty_iff.mp empty).2
        · exact Or.inl later
      · exact Or.inr fun empty => started (String.append_eq_empty_iff.mp empty).1
  exact loop _ "" (Or.inl (List.mem_range.mpr known))

theorem tick_sound {overlay : Overlay Vec Rot} (sound : overlay.Sound) {answers : Ticking}
    (noticed : Noticed geo overlay (.tick answers)) : (overlay.tick geo answers).Sound := by
  obtain ⟨connects, restores, clears⟩ := noticed
  obtain ⟨connected, standing⟩ := tickConnection_sound geo sound connects
  obtain ⟨restored, standing⟩ := tickPredictionRestore_sound answers.now connected standing restores
  exact (tickCalibrationLockClear_sound restored standing clears).1

variable (geo) in
theorem tickCalibrationLockClear_frame (overlay : Overlay Vec Rot) (answers : Nat → Ipc.Sending) :
    (overlay.tickCalibrationLockClear geo answers).devices = overlay.devices ∧
      (overlay.tickCalibrationLockClear geo answers).lastPredictionDeviceSignature =
        overlay.lastPredictionDeviceSignature := by
  unfold Overlay.tickCalibrationLockClear
  split
  · exact ⟨rfl, rfl⟩
  · split
    · exact ⟨rfl, rfl⟩
    · exact ⟨rfl, rfl⟩

/-- After a tick that has scanned the devices, the driver at the other end of the pipe applies the
policy to all of them. -/
theorem tick_follows {overlay : Overlay Vec Rot} (sound : overlay.Sound) {answers : Ticking}
    (noticed : Noticed geo overlay (.tick answers))
    (passed : rescanIntervalMs ≤ answers.now - overlay.lastPredictionReplayScan)
    (alive : (overlay.tick geo answers).link.Alive) : (overlay.tick geo answers).Follows := by
  have covers := (tick_sound sound noticed).covers
  obtain ⟨connects, restores, clears⟩ := noticed
  obtain ⟨connected, standing⟩ := tickConnection_sound geo sound connects
  obtain ⟨restored, standing⟩ := tickPredictionRestore_sound answers.now connected standing restores
  obtain ⟨before, unlocked⟩ := (tickCalibrationLockClear_sound restored standing clears).2 alive
  rw [← tickConnection_scan overlay answers.connection] at passed
  have scanned := tickPredictionRestore_scanned passed before
  obtain ⟨devices, signature⟩ := tickCalibrationLockClear_frame geo
    ((overlay.tickConnection geo answers.connection).tickPredictionRestore geo answers.now
      answers.restore) answers.lockClear
  intro id known device found
  rcases covers id known device found with settled | ⟨saves, dead | changed⟩ | locked
  · exact settled
  · exact absurd alive dead
  · unfold Overlay.tick at changed found
    rw [devices] at changed found
    rw [signature] at changed
    rcases scanned with empty | same
    · exact absurd empty (signature_ne_empty known found saves.1)
    · exact absurd same changed.2
  · exact absurd locked (unlocked id device found)

/-! ### The rows of the tab -/

theorem save_other {overlay : Overlay Vec Rot} {serial other : String} (value : Int)
    (different : other ≠ serial) :
    (overlay.save serial value).trackerSmoothness other = overlay.trackerSmoothness other :=
  Function.update_of_ne different _ _

theorem save_same (overlay : Overlay Vec Rot) (serial : String) (value : Int) :
    (overlay.save serial value).trackerSmoothness serial =
      if value ≤ 0 then none else some value.toNat :=
  Function.update_self serial _ _

/-- A saved value changes nothing for a device with another serial number. -/
theorem Overlay.CoversAt.save {overlay : Overlay Vec Rot} {id : Nat} {device : Device}
    {serial : String} (covers : overlay.CoversAt id device) (value : Int)
    (different : device.serial ≠ serial) : (overlay.save serial value).CoversAt id device := by
  have saves : (overlay.save serial value).Saves device ↔ overlay.Saves device := by
    rw [Overlay.Saves, save_other value different, Overlay.Saves]
  have policy : (overlay.save serial value).policy device = overlay.policy device := by
    rw [Overlay.policy, save_other value different]
    rfl
  rcases covers with settled | ⟨saved, due⟩ | locked
  · exact Or.inl (settled.trans policy.symm)
  · exact Or.inr (Or.inl ⟨saves.mpr saved, due⟩)
  · right
    right
    obtain ⟨saved, known, fresh⟩ := newlyLocked_isSome_iff.mp locked
    exact newlyLocked_isSome_iff.mpr ⟨saves.mpr saved, known, fresh⟩

/-- A row that changes a value saves what the policy then wants. -/
theorem rowEdit_policy {overlay : Overlay Vec Rot} {edit : Option Int} {device : Device}
    {value : Int} (edited : overlay.rowEdit edit device = some value) :
    device.serial ≠ "" ∧ (overlay.save device.serial value).policy device = value.toNat := by
  unfold Overlay.rowEdit at edited
  split at edited
  · cases edited
  · rename_i nonempty
    refine ⟨nonempty, ?_⟩
    unfold Overlay.policy
    split at edited
    · rename_i hidden
      obtain ⟨_, _, rfl⟩ := Option.map_eq_some_iff.mp edited
      rw [if_pos]
      · rfl
      · exact Or.inr (Or.inr (Or.inl (by simpa using hidden)))
    · rename_i listed
      split at edited
      · cases edited
      · rename_i unlocked
        simp only [Bool.or_eq_true, decide_eq_true_eq, not_or] at unlocked
        rw [if_neg, save_same]
        · split
          · rename_i erased
            exact (Int.toNat_of_nonpos erased).symm
          · rfl
        · rintro (empty | hmd | unlisted | locked)
          · exact nonempty empty
          · exact unlocked.1 hmd
          · exact listed (by rw [unlisted]; rfl)
          · exact unlocked.2 locked

theorem drawRow_sound {overlay : Overlay Vec Rot} {id : Nat} {edit : Option Int}
    {sending : Ipc.Sending} (sound : overlay.Sound)
    (stays : sending.exchange.Stays (Current overlay.link))
    (keeps : overlay.RowKeeps geo id edit sending) :
    (overlay.drawRow geo id edit sending).Sound := by
  unfold Overlay.drawRow
  cases found : deviceAt overlay.devices id with
  | none => exact sound
  | some device =>
    dsimp only
    cases edited : overlay.rowEdit edit device with
    | none => exact sound
    | some value =>
      dsimp only
      obtain ⟨small, alone, erased⟩ := keeps device found value edited
      obtain ⟨nonempty, policy⟩ := rowEdit_policy edited
      have known : id < kMaxTrackedDeviceCount := by
        by_contra unknown
        rw [deviceAt, if_neg unknown] at found
        cases found
      have value_min : min value.toNat 100 = value.toNat := Nat.min_eq_left (by omega)
      have pushed := sendDevicePrediction_pushed geo (fun _ => value.toNat) sound.formed
        (standing_current overlay.link) stays known overlay.smartSmoothing value value_min.symm
      refine ⟨pushed.formed, fun serial saved member => ?_, sound.agrees,
        fun other otherKnown twin otherFound => ?_⟩
      · by_cases same : serial = device.serial
        · subst same
          rw [Option.mem_def] at member
          have member := (save_same overlay device.serial value).symm.trans member
          split at member
          · cases member
          · obtain rfl := Option.some.inj member
            omega
        · exact sound.inRange serial saved ((save_other value same).symm.trans member)
      · by_cases same : other = id
        · subst same
          obtain rfl := Option.some.inj (found.symm.trans otherFound)
          by_cases alive : (sendDevicePrediction geo overlay.smartSmoothing sending other value
              overlay.link).Alive
          · exact Or.inl ((pushed.told alive other rfl).trans policy.symm)
          · by_cases kept : value ≤ 0
            · left
              have zero : value.toNat = 0 := Int.toNat_of_nonpos kept
              refine Eq.trans ?_ (policy.trans zero).symm
              rcases pushed.kept other with unchanged | ⟨_, told⟩ | ⟨_, cleared⟩
              · exact unchanged.trans ((erased kept).resolve_right alive)
              · exact told.trans zero
              · exact cleared
            · refine Or.inr (Or.inl ⟨⟨nonempty, ?_⟩, Or.inl alive⟩)
              show ((overlay.save device.serial value).trackerSmoothness device.serial).isSome = true
              rw [save_same, if_neg kept]
              rfl
        · have covers := (sound.covers other otherKnown twin otherFound).save value
            (alone other otherKnown same twin otherFound)
          exact covers.pushed pushed fun chosen => absurd chosen same

/-! ### Every run -/

theorem restart_sound {overlay : Overlay Vec Rot} (sound : overlay.Sound) :
    Overlay.Sound { overlay with link := overlay.link.restart (initialDriver geo) } := by
  have formed : (overlay.link.restart (initialDriver geo)).Formed :=
    fun process member => (sound.formed process member).trans (Nat.le_succ _)
  refine Overlay.Ready.sound ⟨formed, sound.inRange, sound.agrees, fun _ _ _ _ _ => rfl⟩ ?_
  intro alive
  exact absurd (sound.formed _ alive) (Nat.not_succ_le_self _)

theorem step_sound {overlay after : Overlay Vec Rot} {event : Event} (sound : overlay.Sound)
    (noticed : Noticed geo overlay event) (stepped : step geo overlay event = some after) :
    after.Sound := by
  cases event with
  | devicesChange devices =>
    obtain rfl := Option.some.inj stepped
    exact ⟨sound.formed, sound.inRange, noticed.2, noticed.1⟩
  | locksChange serials =>
    obtain rfl := Option.some.inj stepped
    exact ⟨sound.formed, sound.inRange, sound.agrees, noticed⟩
  | restart =>
    obtain rfl := Option.some.inj stepped
    exact restart_sound sound
  | start answers =>
    dsimp only [step] at stepped
    split at stepped
    · cases stepped
    · obtain rfl := Option.some.inj stepped
      exact onStart_sound sound noticed
  | tick answers =>
    dsimp only [step] at stepped
    split at stepped
    · obtain rfl := Option.some.inj stepped
      exact tick_sound sound noticed
    · cases stepped
  | drawRow id edit sending =>
    dsimp only [step] at stepped
    split at stepped
    · obtain rfl := Option.some.inj stepped
      exact drawRow_sound sound noticed.1 noticed.2
    · cases stepped
  | smartToggle enabled answers =>
    dsimp only [step] at stepped
    split at stepped
    · obtain rfl := Option.some.inj stepped
      have before := sound.ready
      have ready : Overlay.Ready { overlay with smartSmoothing := enabled } :=
        ⟨before.formed, before.inRange, before.agrees, before.unsaved⟩
      exact (replay_sound ready (standing_current overlay.link) noticed).1
    · cases stepped

theorem loadTrackerSmoothness_le (lines : List (String × Int)) (serial : String) :
    ∀ value ∈ loadTrackerSmoothness lines serial, value ≤ 100 := by
  have loop : ∀ (lines : List (String × Int)) (saved : String → Option Nat),
      (∀ serial, ∀ value ∈ saved serial, value ≤ 100) →
      ∀ value ∈ lines.foldl (fun (saved : String → Option Nat) (line : String × Int) =>
        let value := min line.2.toNat 100
        if value > 0 then Function.update saved line.1 (some value) else saved) saved serial,
        value ≤ 100 := by
    intro lines
    induction lines with
    | nil =>
      intro saved bounded
      exact bounded serial
    | cons line rest inductionHypothesis =>
      intro saved bounded
      rw [List.foldl_cons]
      refine inductionHypothesis _ fun other value member => ?_
      split at member
      · by_cases same : other = line.1
        · rw [same, Function.update_self] at member
          obtain rfl := Option.some.inj member
          exact Nat.min_le_right _ _
        · rw [Function.update_of_ne same] at member
          exact bounded other value member
      · exact bounded other value member
  exact loop lines (fun _ => none) fun _ _ member => absurd member (Option.not_mem_none _)

variable (geo) in
theorem initial_sound (lines : List (String × Int)) : (initialOverlay geo lines).Sound := by
  have closed : (initialOverlay geo lines).link.pipe = none := rfl
  refine Overlay.Ready.sound ⟨?_, fun serial => ?_, ?_, fun _ _ _ _ _ => rfl⟩
    (Ipc.not_alive_of_closed closed)
  · intro process member
    rw [closed] at member
    cases member
  · exact loadTrackerSmoothness_le lines serial
  · intro id _ device found
    rw [deviceAt] at found
    split at found
    · cases found
    · cases found

variable (geo) in
/-- The driver follows the policy: in a run whose steps all meet the condition, after a tick that
comes when the rescan interval has passed, and at whose end the pipe leads to the driver that runs,
the suppression of every device is what the policy says. -/
theorem prediction_follows_policy (lines : List (String × Int)) {overlay after : Overlay Vec Rot}
    {answers : Ticking}
    (reached : Reaches (step geo) (Noticed geo) (initialOverlay geo lines) overlay)
    (noticed : Noticed geo overlay (.tick answers))
    (stepped : step geo overlay (.tick answers) = some after)
    (passed : rescanIntervalMs ≤ answers.now - overlay.lastPredictionReplayScan)
    (alive : after.link.Alive) : after.Follows := by
  have sound : overlay.Sound := reached.invariant (initial_sound geo lines)
    fun _ _ _ before met moved => step_sound before met moved
  dsimp only [step] at stepped
  split at stepped
  · obtain rfl := Option.some.inj stepped
    exact tick_follows sound noticed passed alive
  · cases stepped

end Proof

/-! ### Runs of two trackers -/

/-- Two trackers that come and go. -/
def trackers (first second : Option String) : Option (Nat → Option Device) :=
  some fun id =>
    if id = 1 then first.map fun serial => { serial := serial }
    else if id = 2 then second.map fun serial => { serial := serial }
    else none

/-- An answer that never comes, as the driver is gone. -/
def gone : Ipc.Sending :=
  { exchange := { reopening := { opening := { works := false } } } }

/-- Calibration locks a tracker, the driver is restarted, a request finds the pipe broken and cannot
connect again; the next tick connects. The locked tracker is not suppressed, the other one is, as
is one that appears and whose value was saved before. -/
theorem prediction_follows_lock_and_restart :
    ∃ after : Overlay Rat Unit, after.Follows ∧ suppression after.link 1 = 0 ∧
      suppression after.link 2 = 30 := by
  obtain ⟨overlay, reached, noticed, after, stepped, passed, alive, first, second⟩ :
      ∃ overlay, Reaches (step axis) (Noticed axis)
        (initialOverlay axis [("LHR-1", 50), ("LHR-2", 30)]) overlay ∧
        Noticed axis overlay (.tick { now := 9000 }) ∧
        ∃ after ∈ step axis overlay (.tick { now := 9000 }),
          rescanIntervalMs ≤ 9000 - overlay.lastPredictionReplayScan ∧ after.link.Alive ∧
            suppression after.link 1 = 0 ∧ suppression after.link 2 = 30 :=
    reaches_evaluates [.devicesChange (trackers (some "LHR-1") none), .start {},
      .tick { now := 3000 }, .locksChange ["LHR-1"], .restart, .smartToggle true fun _ => gone,
      .tick { now := 6000 }, .devicesChange (trackers (some "LHR-1") (some "LHR-2"))]
      (by decide +kernel)
  exact ⟨after, prediction_follows_policy axis [("LHR-1", 50), ("LHR-2", 30)] reached noticed stepped
    passed alive, first, second⟩

/-- After a tick over an open pipe that has scanned the devices, the tracker whose lock has ended is
not suppressed as it was; one without a saved value is suppressed like the one whose id it took; and
after a restart that a slider's request has repaired, the other tracker is not suppressed. -/
theorem prediction_left_stale :
    (∃ after, run (step axis) (initialOverlay axis [("LHR-1", 50)])
      [.devicesChange (trackers (some "LHR-1") none), .start {}, .tick { now := 3000 },
        .locksChange ["LHR-1"], .tick { now := 6000 }, .locksChange [], .tick { now := 9000 }] =
          some after ∧
      after.link.Alive ∧ after.lastPredictionReplayScan = 9000 ∧ ¬after.Follows) ∧
    (∃ after, run (step axis) (initialOverlay axis [("LHR-1", 50)])
      [.devicesChange (trackers (some "LHR-1") none), .start {}, .tick { now := 3000 },
        .devicesChange (trackers (some "LHR-2") none), .tick { now := 6000 }] = some after ∧
      after.link.Alive ∧ after.lastPredictionReplayScan = 6000 ∧ ¬after.Follows) ∧
    ∃ after, run (step axis) (initialOverlay axis [("LHR-1", 50)])
      [.devicesChange (trackers (some "LHR-1") (some "LHR-2")), .start {}, .tick { now := 3000 },
        .restart, .drawRow 2 (some 30) {}, .tick { now := 6000 }] = some after ∧
      after.link.Alive ∧ after.lastPredictionReplayScan = 6000 ∧ ¬after.Follows := by
  refine ⟨?_, ?_, ?_⟩
  · exact run_evaluates (by decide +kernel)
  · exact run_evaluates (by decide +kernel)
  · exact run_evaluates (by decide +kernel)

end PairDriver.Prediction
