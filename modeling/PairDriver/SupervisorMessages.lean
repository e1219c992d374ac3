/-
This file models the control messages of the two host supervisors: the selected
module of the face-tracking one and the configuration of the captions one. Each
keeps a pending message and a flag that says it was sent, both under a mutex that
the write to the control pipe is not made under.

The machine joins the supervisor of the base class with the hooks `OnHostReady` and
`OnHostExited`, the setters, and any number of `TrySend` calls in progress, each of
which takes its message, writes it and then marks it as sent. A write that succeeds
reaches the host the supervisor tracks or is attached to. The flag can be trusted as
long as nothing comes between a `TrySend` and its mark that changes what has to be
delivered, or to whom; `sent_is_received` says so.
-/

import PairDriver.SupervisorHosts

namespace PairDriver.Supervisor

/-! ### The host that is running -/

/-- A host a message can reach: one the supervisor spawned, or the one it found running. -/
inductive Recipient where
  | spawned (host : Nat)
  | existing
deriving DecidableEq

/-- The host the supervisor tracks or is attached to. -/
def recipient (state : State) : Option Recipient :=
  if ∃ host ∈ state.handle, Live state host then state.handle.map .spawned
  else if state.attachedToExisting then some .existing
  else none

/-- A `Spawn` starts a host or attaches to one. -/
def spawnStarts (env : Environment) (state : State) : Bool :=
  !decide (∃ host ∈ state.handle, Live state host) &&
    if env.canConnect && env.mutexHeld then !state.attachedToExisting else env.created

/-- The step gives the supervisor a host it did not have. -/
def startsHost (state : State) : Event → Bool
  | .startSpawn env | .restartSpawn env => spawnStarts env state
  | .monitor env => state.monitor == .respawn && spawnStarts env state
  | _ => false

/-! ### How the running host changes -/

/-- A supervisor that is attached tracks no live host of its own. -/
def Exclusive (state : State) : Prop :=
  state.attachedToExisting = true → ∀ host, state.handle = some host → ¬Live state host

theorem Exclusive.spawn {state : State} (exclusive : Exclusive state) (env : Environment) :
    Exclusive (spawn env state).2 := by
  obtain ⟨_, _, _, kept⟩ | ⟨dead, attached | created | ⟨_, failed⟩⟩ := spawn_cases env state
  · rw [kept]
    exact exclusive
  · rw [attached]
    exact fun _ => dead
  · rw [created]
    exact fun attached => Bool.noConfusion attached
  · rw [failed]
    exact exclusive

theorem Exclusive.congr {before after : State} (exclusive : Exclusive before)
    (hosts_eq : after.hosts = before.hosts) (spawned_eq : after.spawned = before.spawned)
    (handle_of : ∀ host, after.handle = some host → before.handle = some host)
    (attached_of : after.attachedToExisting = true → before.attachedToExisting = true) :
    Exclusive after := by
  intro attached host held live
  refine exclusive (attached_of attached) host (handle_of host held) ?_
  unfold Live at live ⊢
  rw [← hosts_eq, ← spawned_eq]
  exact live

theorem exclusive_step {state after : State} {event : Event} (exclusive : Exclusive state)
    (stepped : step state event = some after) : Exclusive after := by
  cases step_effect stepped with
  | @monitor env _ moved =>
    obtain ⟨working, rfl⟩ | working := monitorStep_respawn_or moved
    · have spawned : Exclusive { state with attempts := state.now :: state.attempts } := exclusive
      exact (spawned.spawn env).congr rfl rfl (fun _ held => held) id
    · obtain ⟨hosts_eq, spawned_eq, _, attached_of, handle⟩ := monitorStep_frame moved working
      refine exclusive.congr hosts_eq spawned_eq ?_ attached_of
      intro host held
      obtain kept | ⟨_, _, _, released⟩ := handle
      · rw [← kept, held]
      · rw [released] at held
        cases held
  | exits live =>
    intro attached host held running
    rw [exitHost_attachedToExisting] at attached
    rw [exitHost_handle] at held
    exact exclusive attached host held ((live_exitHost_iff _ _ _ _).mp running).1
  | @spawns _ env _ _ core _ =>
    exact (exclusive.spawn env).congr core.hosts_eq core.spawned_eq
      (fun _ held => core.handle_eq ▸ held) (core.attached_eq ▸ id)
  | kills _ core _ =>
    intro _ host held
    rw [core.handle_eq, kill_handle] at held
    cases held
  | moves core _ =>
    exact exclusive.congr core.hosts_eq core.spawned_eq (fun _ held => core.handle_eq ▸ held)
      (core.attached_eq ▸ id)
  | resets hosts_eq spawned_eq handle_eq attached_of =>
    exact exclusive.congr hosts_eq spawned_eq (fun _ held => handle_eq ▸ held) attached_of

theorem recipient_of_tracked {state : State} {host : Nat} (held : state.handle = some host)
    (live : Live state host) : recipient state = some (.spawned host) := by
  rw [recipient, if_pos ⟨host, held, live⟩, held]
  rfl

theorem recipient_of_untracked {state : State}
    (dead : ∀ host, state.handle = some host → ¬Live state host) :
    recipient state = if state.attachedToExisting then some .existing else none := by
  rw [recipient, if_neg]
  rintro ⟨host, held, live⟩
  exact dead host held live

/-- Where hosts only exit, and handle and attachment are only given up, the running host stays or is
gone. -/
theorem recipient_shrinks {before after : State} (exclusive : Exclusive before)
    (live_of : ∀ host, Live after host → Live before host)
    (handle_of : ∀ host, after.handle = some host → before.handle = some host)
    (attached_of : after.attachedToExisting = true → before.attachedToExisting = true) :
    recipient after = recipient before ∨ recipient after = none := by
  by_cases tracked : ∃ host, after.handle = some host ∧ Live after host
  · obtain ⟨host, held, live⟩ := tracked
    left
    rw [recipient_of_tracked held live,
      recipient_of_tracked (handle_of host held) (live_of host live)]
  · have dead : ∀ host, after.handle = some host → ¬Live after host :=
      fun host held live => tracked ⟨host, held, live⟩
    rw [recipient_of_untracked dead]
    by_cases attached : after.attachedToExisting = true
    · left
      have earlier := attached_of attached
      rw [recipient_of_untracked (exclusive earlier), attached, earlier]
    · right
      rw [if_neg attached]

theorem recipient_sameCore {before after : State} (core : SameCore before after) :
    recipient after = recipient before := by
  have live_iff : ∀ host, Live after host ↔ Live before host := by
    intro host
    unfold Live
    rw [core.hosts_eq, core.spawned_eq]
  simp only [recipient, live_iff, core.handle_eq, core.attached_eq]

/-- A `Spawn` that starts nothing leaves the running host as it is. -/
theorem recipient_spawn (env : Environment) (state : State) (idle : spawnStarts env state = false) :
    recipient (spawn env state).2 = recipient state := by
  unfold spawnStarts at idle
  unfold spawn
  split
  · rfl
  · rename_i untracked
    simp only [untracked, decide_false, Bool.not_false, Bool.true_and] at idle
    split
    · rename_i attaches
      have dead : ∀ host, state.handle = some host → ¬Live state host :=
        fun host held live => untracked ⟨host, held, live⟩
      rw [if_pos attaches, Bool.not_eq_false'] at idle
      rw [recipient_of_untracked dead, idle]
      exact recipient_of_untracked dead
    · rename_i attaches
      rw [if_neg attaches] at idle
      rw [idle]
      rfl

/-- A step that starts no host leaves the running host as it is, or there is none. -/
theorem recipient_step {state after : State} {event : Event} (exclusive : Exclusive state)
    (stepped : step state event = some after) (idle : startsHost state event = false) :
    recipient after = recipient state ∨ recipient after = none := by
  cases step_effect stepped with
  | @monitor env _ moved =>
    obtain ⟨working, rfl⟩ | working := monitorStep_respawn_or moved
    · simp only [startsHost, working, beq_self_eq_true, Bool.true_and] at idle
      left
      exact recipient_spawn env { state with attempts := state.now :: state.attempts } idle
    · obtain ⟨hosts_eq, spawned_eq, _, attached_of, handle⟩ := monitorStep_frame moved working
      refine recipient_shrinks exclusive ?_ ?_ attached_of
      · intro host live
        unfold Live at live ⊢
        rwa [hosts_eq, spawned_eq] at live
      · intro host held
        obtain kept | ⟨_, _, _, released⟩ := handle
        · rw [← kept, held]
        · rw [released] at held
          cases held
  | exits live =>
    refine recipient_shrinks exclusive ?_ ?_ ?_
    · exact fun host running => ((live_exitHost_iff _ _ _ _).mp running).1
    · intro host held
      rwa [exitHost_handle] at held
    · intro attached
      rwa [exitHost_attachedToExisting] at attached
  | @spawns _ env _ caller core _ =>
    left
    rw [recipient_sameCore core]
    refine recipient_spawn env state ?_
    rcases caller with rfl | rfl
    · exact idle
    · exact idle
  | @kills _ dies _ _ core _ =>
    rw [recipient_sameCore core]
    obtain ⟨_, early⟩ | ⟨released, dropped, _⟩ := kill_cases dies state
    · rw [early]
      exact Or.inl rfl
    · right
      rw [recipient_of_untracked, dropped]
      · rfl
      · intro host held
        rw [released] at held
        cases held
  | moves core _ => exact Or.inl (recipient_sameCore core)
  | resets hosts_eq spawned_eq handle_eq attached_of =>
    refine recipient_shrinks exclusive ?_ (fun _ held => handle_eq ▸ held) attached_of
    intro host live
    unfold Live at live ⊢
    rwa [hosts_eq, spawned_eq] at live

/-! ### Messages -/

/-- The two supervisors. They differ in whether an empty message withdraws the pending one, and in
whether `TrySend` compares its message with the pending one before it marks it. -/
inductive Kind where
  | facetracking
  | captions
deriving DecidableEq

section Courier

variable {Message : Type} [DecidableEq Message]

/-- A `TrySend` in progress. `stamp` is the epoch in which it took its message. -/
structure Sender (Message : Type) where
  message : Message
  stamp : Nat
  wrote : Bool := false

/-- A host supervisor with its messages. `exitDue` tells that the monitor has to call
`OnHostExited` next, `notified` counts the calls of `Restart` between their `OnHostExited` and their
`Kill`. `epoch`, recorded for the specification only, counts the events that change what has to be
delivered or to whom. -/
structure Courier (Message : Type) where
  base : State := {}
  pending : Option Message := none
  sent : Bool := false
  received : Recipient → Option Message := fun _ => none
  existingRuns : Bool := false
  senders : List (Sender Message) := []
  exitDue : Bool := false
  notified : Nat := 0
  epoch : Nat := 0

/-- The host instance that is running, if any. -/
def Courier.current (courier : Courier Message) : Option Recipient :=
  (recipient courier.base).filter fun host => host != .existing || courier.existingRuns

/-- The steps: calls of the setter and of the hooks, the write and the mark of a `TrySend`, existing
hosts that start and exit, and the steps of the base class. -/
inductive CourierEvent (Message : Type) where
  | set (message : Option Message)
  | hostReady
  | write (index : Nat) (succeeds : Bool)
  | mark (index : Nat)
  | restartExited
  | monitorExited
  | existingStarts
  | existingExits
  | supervisor (event : Event)

/-- The setter: the message is pending and not sent, and one that is not empty is tried at once. -/
def Courier.set (message : Option Message) (courier : Courier Message) : Courier Message :=
  let epoch := if courier.pending = message then courier.epoch else courier.epoch + 1
  { courier with
    pending := message
    sent := false
    epoch := epoch
    senders := courier.senders ++ message.toList.map fun taken => ⟨taken, epoch, false⟩ }

/-- `OnHostReady`: a pending message that is not sent is tried. -/
def Courier.hostReady (courier : Courier Message) : Courier Message :=
  if courier.sent then courier
  else { courier with
    senders := courier.senders ++ courier.pending.toList.map fun taken =>
      ⟨taken, courier.epoch, false⟩ }

/-- `OnHostExited`. -/
def Courier.hostExited (courier : Courier Message) : Courier Message :=
  if courier.pending = none then courier else { courier with sent := false }

/-- The write of a `TrySend` reaches a host. -/
def Courier.deliver (index : Nat) (sender : Sender Message) (host : Recipient)
    (courier : Courier Message) : Courier Message :=
  { courier with
    received := Function.update courier.received host (some sender.message)
    epoch := if courier.pending = some sender.message then courier.epoch else courier.epoch + 1
    senders := courier.senders.set index { sender with wrote := true } }

/-- The end of a `TrySend` whose write succeeded. -/
def Courier.mark (kind : Kind) (index : Nat) (sender : Sender Message) (courier : Courier Message) :
    Courier Message :=
  { courier with
    sent := if kind = .facetracking ∨ courier.pending = some sender.message then true
      else courier.sent
    senders := courier.senders.eraseIdx index }

/-- The monitor does not move on before it has called `OnHostExited`, and a `Restart` kills only
after it has. -/
def Courier.blocks (courier : Courier Message) : Event → Bool
  | .monitor _ => courier.exitDue
  | .restartKill _ => courier.notified == 0
  | _ => false

/-- The monitor has seen that the host is gone, and calls `OnHostExited` next. -/
def reportsExit : MonitorPc → Bool
  | .detach | .closed _ _ _ => true
  | _ => false

/-- A host the supervisor has not spawned starts; it has received nothing. -/
def Courier.existingStarts (courier : Courier Message) : Courier Message :=
  { courier with
    existingRuns := true
    received := Function.update courier.received .existing none
    epoch := courier.epoch + 1 }

/-- A step of the base class. -/
def Courier.advance (event : Event) (after : State) (courier : Courier Message) : Courier Message :=
  { courier with
    base := after
    exitDue := match event with
      | .monitor _ => reportsExit courier.base.monitor
      | _ => courier.exitDue
    notified := match event with
      | .restartKill _ => courier.notified - 1
      | _ => courier.notified
    epoch := if startsHost courier.base event then courier.epoch + 1 else courier.epoch }

def courierStep (kind : Kind) (courier : Courier Message) :
    CourierEvent Message → Option (Courier Message)
  | .set message =>
    if kind = .facetracking ∧ message = none then none else some (courier.set message)
  | .hostReady => some courier.hostReady
  | .write index succeeds =>
    match courier.senders[index]? with
    | none => none
    | some sender =>
      if sender.wrote then none
      else if succeeds then courier.current.map fun host => courier.deliver index sender host
      else some { courier with senders := courier.senders.eraseIdx index }
  | .mark index =>
    match courier.senders[index]? with
    | none => none
    | some sender => if sender.wrote then some (courier.mark kind index sender) else none
  | .restartExited =>
    if courier.notified < courier.base.restartsToKill then
      some { courier.hostExited with notified := courier.notified + 1 }
    else none
  | .monitorExited =>
    if courier.exitDue then some { courier.hostExited with exitDue := false } else none
  | .existingStarts =>
    if courier.existingRuns then none else some courier.existingStarts
  | .existingExits => some { courier with existingRuns := false }
  | .supervisor event =>
    if courier.blocks event then none
    else (step courier.base event).map fun after => courier.advance event after

/-! ### The steps that do not go wrong -/

/-- The condition on a step: an older message is not written while the flag is set, a `TrySend` does
not set the flag after another message was set or written or a host was started since it took its
message, and no host is started or attached to while the flag is set. -/
def Uncontested (kind : Kind) (courier : Courier Message) : CourierEvent Message → Prop
  | .write index succeeds => succeeds = true → ∀ sender ∈ courier.senders[index]?,
      courier.pending = some sender.message ∨ courier.sent = false
  | .mark index => ∀ sender ∈ courier.senders[index]?,
      sender.stamp = courier.epoch ∨
        (kind = .captions ∧ courier.pending ≠ some sender.message)
  | .existingStarts => courier.base.attachedToExisting = true → courier.sent = false
  | .supervisor event => startsHost courier.base event = true → courier.sent = false
  | _ => True

instance (kind : Kind) (courier : Courier Message) :
    (event : CourierEvent Message) → Decidable (Uncontested kind courier event)
  | .write index _ => inferInstanceAs (Decidable (_ → ∀ sender ∈ courier.senders[index]?, _ ∨ _))
  | .mark index => inferInstanceAs (Decidable (∀ sender ∈ courier.senders[index]?, _ ∨ (_ ∧ _)))
  | .existingStarts => inferInstanceAs (Decidable (_ → _))
  | .supervisor _ => inferInstanceAs (Decidable (_ → _))
  | .set _ | .hostReady | .restartExited | .monitorExited | .existingExits =>
    inferInstanceAs (Decidable True)

/-! ### The flag can be trusted -/

/-- What holds of a `TrySend` in progress: if it is of this epoch, its message is the pending one,
and if it has written, the running host got that message last. -/
def Sound (courier : Courier Message) (sender : Sender Message) : Prop :=
  sender.stamp ≤ courier.epoch ∧ (sender.stamp = courier.epoch →
    courier.pending = some sender.message ∧ (sender.wrote = true →
      ∀ host, courier.current = some host → courier.received host = some sender.message))

/-- The invariant: the flag says that the running host got the pending message last. -/
structure Faithful (courier : Courier Message) : Prop where
  exclusive : Exclusive courier.base
  delivered : courier.sent = true → ∀ host, courier.current = some host →
    courier.received host = courier.pending
  sound : ∀ sender ∈ courier.senders, Sound courier sender

omit [DecidableEq Message] in
theorem faithful_initial : Faithful ({} : Courier Message) := by
  refine ⟨fun attached => Bool.noConfusion attached, fun sent => Bool.noConfusion sent, ?_⟩
  intro sender listed
  cases listed

omit [DecidableEq Message] in
/-- Where messages and epoch stay, senders only leave and the running host stays or is gone, the
invariant stays. -/
theorem Faithful.shrink {before after : Courier Message} (faithful : Faithful before)
    (exclusive : Exclusive after.base) (pending_eq : after.pending = before.pending)
    (received_eq : after.received = before.received) (epoch_eq : after.epoch = before.epoch)
    (sent_of : after.sent = true → before.sent = true)
    (current_of : ∀ host, after.current = some host → before.current = some host)
    (senders_of : ∀ sender ∈ after.senders, sender ∈ before.senders) : Faithful after := by
  refine ⟨exclusive, ?_, ?_⟩
  · intro sent host running
    rw [received_eq, pending_eq]
    exact faithful.delivered (sent_of sent) host (current_of host running)
  · intro sender listed
    obtain ⟨stamped, fresh⟩ := faithful.sound sender (senders_of sender listed)
    refine ⟨epoch_eq ▸ stamped, ?_⟩
    intro current
    obtain ⟨pending, written⟩ := fresh (current.trans epoch_eq)
    refine ⟨pending_eq.trans pending, ?_⟩
    intro wrote host running
    rw [received_eq]
    exact written wrote host (current_of host running)

omit [DecidableEq Message] in
/-- A new epoch leaves no sender of its own. -/
theorem Sound.outdated {before after : Courier Message} {sender : Sender Message}
    (sound : Sound before sender) (epoch_eq : after.epoch = before.epoch + 1) : Sound after sender := by
  have older : sender.stamp < after.epoch := epoch_eq ▸ Nat.lt_succ_of_le sound.1
  exact ⟨older.le, fun current => absurd current older.ne⟩

omit [DecidableEq Message] in
/-- A sender that has just taken the pending message. -/
theorem sound_taken {courier : Courier Message} {message : Message}
    (pending : courier.pending = some message) : Sound courier ⟨message, courier.epoch, false⟩ :=
  ⟨Nat.le_refl _, fun _ => ⟨pending, fun wrote => Bool.noConfusion wrote⟩⟩

theorem Faithful.set {courier : Courier Message} (faithful : Faithful courier)
    (message : Option Message) : Faithful (courier.set message) := by
  refine ⟨faithful.exclusive, fun sent => Bool.noConfusion sent, ?_⟩
  intro sender listed
  obtain old | new := List.mem_append.mp listed
  · have sound := faithful.sound sender old
    by_cases same : courier.pending = message
    · have epoch_eq : (courier.set message).epoch = courier.epoch := if_pos same
      refine ⟨epoch_eq ▸ sound.1, fun current => ?_⟩
      obtain ⟨pending, written⟩ := sound.2 (current.trans epoch_eq)
      exact ⟨same ▸ pending, written⟩
    · exact sound.outdated (if_neg same)
  · obtain ⟨taken, isTaken, rfl⟩ := List.mem_map.mp new
    exact sound_taken (Option.mem_toList.mp isTaken)

omit [DecidableEq Message] in
theorem Faithful.hostReady {courier : Courier Message} (faithful : Faithful courier) :
    Faithful courier.hostReady := by
  unfold Courier.hostReady
  split
  · exact faithful
  · refine ⟨faithful.exclusive, faithful.delivered, ?_⟩
    intro sender listed
    obtain old | new := List.mem_append.mp listed
    · exact faithful.sound sender old
    · obtain ⟨taken, isTaken, rfl⟩ := List.mem_map.mp new
      exact sound_taken (Option.mem_toList.mp isTaken)

omit [DecidableEq Message] in
theorem Faithful.hostExited {courier : Courier Message} (faithful : Faithful courier) :
    Faithful courier.hostExited := by
  unfold Courier.hostExited
  split
  · exact faithful
  · exact faithful.shrink faithful.exclusive rfl rfl rfl (fun sent => Bool.noConfusion sent)
      (fun _ running => running) (fun _ listed => listed)

theorem Faithful.deliver {courier : Courier Message} (faithful : Faithful courier) {index : Nat}
    {sender : Sender Message} {host : Recipient} (listed : courier.senders[index]? = some sender)
    (running : courier.current = some host)
    (met : courier.pending = some sender.message ∨ courier.sent = false) :
    Faithful (courier.deliver index sender host) := by
  have current_eq : (courier.deliver index sender host).current = some host := running
  have received_eq : (courier.deliver index sender host).received host = some sender.message :=
    Function.update_self ..
  have only : ∀ other, (courier.deliver index sender host).current = some other →
      (courier.deliver index sender host).received other = some sender.message := by
    intro other isCurrent
    obtain rfl := Option.some.inj (current_eq.symm.trans isCurrent)
    exact received_eq
  refine ⟨faithful.exclusive, ?_, ?_⟩
  · intro sent other isCurrent
    obtain pending | unsent := met
    · exact (only other isCurrent).trans pending.symm
    · exact absurd (unsent.symm.trans sent) Bool.false_ne_true
  · intro other otherListed
    have earlier : ∃ old ∈ courier.senders, old.stamp = other.stamp ∧ old.message = other.message := by
      obtain old | rfl := List.mem_or_eq_of_mem_set otherListed
      · exact ⟨other, old, rfl, rfl⟩
      · exact ⟨sender, List.mem_of_getElem? listed, rfl, rfl⟩
    obtain ⟨old, oldListed, stamp_eq, message_eq⟩ := earlier
    have sound := faithful.sound old oldListed
    by_cases pending : courier.pending = some sender.message
    · have epoch_eq : (courier.deliver index sender host).epoch = courier.epoch := if_pos pending
      refine ⟨epoch_eq ▸ stamp_eq ▸ sound.1, fun current => ?_⟩
      have isPending := (sound.2 (stamp_eq.trans (current.trans epoch_eq))).1
      rw [message_eq] at isPending
      refine ⟨isPending, fun _ other isCurrent => ?_⟩
      rw [only other isCurrent, ← pending, isPending]
    · have epoch_eq : (courier.deliver index sender host).epoch = courier.epoch + 1 :=
        if_neg pending
      have older : other.stamp < (courier.deliver index sender host).epoch := by
        rw [epoch_eq, ← stamp_eq]
        exact Nat.lt_succ_of_le sound.1
      exact ⟨older.le, fun current => absurd current older.ne⟩

theorem Faithful.mark {kind : Kind} {courier : Courier Message} (faithful : Faithful courier)
    {index : Nat} {sender : Sender Message} (listed : courier.senders[index]? = some sender)
    (wrote : sender.wrote = true)
    (met : sender.stamp = courier.epoch ∨
      (kind = .captions ∧ courier.pending ≠ some sender.message)) :
    Faithful (courier.mark kind index sender) := by
  have remaining : ∀ other ∈ courier.senders.eraseIdx index, other ∈ courier.senders :=
    fun _ other => List.mem_of_mem_eraseIdx other
  refine ⟨faithful.exclusive, ?_, fun other left => faithful.sound other (remaining other left)⟩
  intro sent host running
  obtain current | ⟨captions, different⟩ := met
  · obtain ⟨pending, written⟩ :=
      (faithful.sound sender (List.mem_of_getElem? listed)).2 current
    exact (written wrote host running).trans pending.symm
  · have unmarked : (courier.mark kind index sender).sent = courier.sent := by
      refine if_neg ?_
      rintro (face | same)
      · rw [captions] at face
        cases face
      · exact different same
    exact faithful.delivered (unmarked ▸ sent) host running

omit [DecidableEq Message] in
/-- An existing host is running only if the supervisor is attached. -/
theorem attached_of_current {courier : Courier Message} (running : courier.current = some .existing) :
    courier.base.attachedToExisting = true := by
  obtain ⟨found, _⟩ := Option.filter_eq_some_iff.mp running
  unfold recipient at found
  split at found
  · obtain ⟨host, _, isSpawned⟩ := Option.map_eq_some_iff.mp found
    cases isSpawned
  · split at found
    · assumption
    · cases found

omit [DecidableEq Message] in
theorem Faithful.existingStarts {courier : Courier Message} (faithful : Faithful courier)
    (met : courier.base.attachedToExisting = true → courier.sent = false) :
    Faithful courier.existingStarts := by
  refine ⟨faithful.exclusive, ?_, fun sender listed => (faithful.sound sender listed).outdated rfl⟩
  intro sent host running
  by_cases existing : host = .existing
  · have attached : courier.existingStarts.base.attachedToExisting = true :=
      attached_of_current (existing ▸ running)
    exact absurd ((met attached).symm.trans sent) Bool.false_ne_true
  · have earlier : courier.current = some host := by
      obtain ⟨found, _⟩ := Option.filter_eq_some_iff.mp running
      refine Option.filter_eq_some_iff.mpr ⟨found, ?_⟩
      simp [existing]
    have kept : courier.existingStarts.received host = courier.received host :=
      Function.update_of_ne existing ..
    exact kept.trans (faithful.delivered sent host earlier)

omit [DecidableEq Message] in
theorem Faithful.advance {courier : Courier Message} (faithful : Faithful courier) {event : Event}
    {after : State} (stepped : step courier.base event = some after)
    (met : startsHost courier.base event = true → courier.sent = false) :
    Faithful (courier.advance event after) := by
  have exclusive := exclusive_step faithful.exclusive stepped
  by_cases starts : startsHost courier.base event = true
  · refine ⟨exclusive, ?_, ?_⟩
    · exact fun sent => absurd ((met starts).symm.trans sent) Bool.false_ne_true
    · exact fun sender listed => (faithful.sound sender listed).outdated (if_pos starts)
  · refine faithful.shrink exclusive rfl rfl (if_neg starts) id ?_ (fun _ listed => listed)
    intro host running
    have idle := Bool.eq_false_iff.mpr starts
    obtain ⟨found, present⟩ := Option.filter_eq_some_iff.mp running
    obtain kept | gone := recipient_step faithful.exclusive stepped idle
    · exact Option.filter_eq_some_iff.mpr ⟨kept ▸ found, present⟩
    · exact absurd (gone.symm.trans found) (Option.some_ne_none host).symm

/-- Every uncontested step keeps the flag trustworthy. -/
theorem faithful_step {kind : Kind} {courier after : Courier Message}
    {event : CourierEvent Message} (faithful : Faithful courier)
    (met : Uncontested kind courier event) (stepped : courierStep kind courier event = some after) :
    Faithful after := by
  cases event with
  | set message =>
    simp only [courierStep] at stepped
    split at stepped
    · cases stepped
    · rw [← Option.some.inj stepped]
      exact faithful.set message
  | hostReady =>
    rw [← Option.some.inj stepped]
    exact faithful.hostReady
  | write index succeeds =>
    simp only [courierStep] at stepped
    split at stepped
    · cases stepped
    · rename_i sender listed
      split at stepped
      · cases stepped
      · split at stepped
        · rename_i reaches
          obtain ⟨host, running, rfl⟩ := Option.map_eq_some_iff.mp stepped
          exact faithful.deliver listed running (met reaches sender listed)
        · rw [← Option.some.inj stepped]
          exact faithful.shrink faithful.exclusive rfl rfl rfl id (fun _ running => running)
            (fun _ left => List.mem_of_mem_eraseIdx left)
  | mark index =>
    simp only [courierStep] at stepped
    split at stepped
    · cases stepped
    · rename_i sender listed
      split at stepped
      · rename_i wrote
        rw [← Option.some.inj stepped]
        exact faithful.mark listed wrote (met sender listed)
      · cases stepped
  | restartExited =>
    simp only [courierStep] at stepped
    split at stepped
    · rw [← Option.some.inj stepped]
      have exited := faithful.hostExited
      exact ⟨exited.exclusive, exited.delivered, exited.sound⟩
    · cases stepped
  | monitorExited =>
    simp only [courierStep] at stepped
    split at stepped
    · rw [← Option.some.inj stepped]
      have exited := faithful.hostExited
      exact ⟨exited.exclusive, exited.delivered, exited.sound⟩
    · cases stepped
  | existingStarts =>
    simp only [courierStep] at stepped
    split at stepped
    · cases stepped
    · rw [← Option.some.inj stepped]
      exact faithful.existingStarts met
  | existingExits =>
    rw [← Option.some.inj stepped]
    refine faithful.shrink faithful.exclusive rfl rfl rfl id ?_ (fun _ listed => listed)
    intro host running
    obtain ⟨found, present⟩ := Option.filter_eq_some_iff.mp running
    refine Option.filter_eq_some_iff.mpr ⟨found, ?_⟩
    simp only [Bool.or_false] at present
    simp [present]
  | supervisor event =>
    simp only [courierStep] at stepped
    split at stepped
    · cases stepped
    · obtain ⟨state, moved, rfl⟩ := Option.map_eq_some_iff.mp stepped
      exact faithful.advance moved met

/-- Delivery. For both supervisors, in every state reached by uncontested steps in which the flag is
set, the last message the running host instance received is the pending one. -/
theorem sent_is_received {kind : Kind} {courier : Courier Message}
    (reached : Reaches (courierStep kind) (Uncontested kind) {} courier)
    (sent : courier.sent = true) :
    ∀ host, courier.current = some host → courier.received host = courier.pending := by
  have faithful : Faithful courier :=
    reached.invariant faithful_initial fun _ _ _ faithful met stepped =>
      faithful_step faithful met stepped
  exact faithful.delivered sent

end Courier

/-! ### A retry between the notification and the kill -/

/-- `Start` spawns a host, a message is set, written and marked. -/
def messageSent : List (CourierEvent Nat) :=
  [.supervisor .startReset, .supervisor (.startSpawn {}), .set (some 7), .write 0 true, .mark 0]

theorem sent_is_received_first : ∃ courier : Courier Nat,
    Reaches (courierStep .facetracking) (Uncontested .facetracking) {} courier ∧
    courier.sent = true ∧ courier.current = some (.spawned 0) ∧
    courier.received (.spawned 0) = courier.pending := by
  have ran : run (checked (courierStep .facetracking) (Uncontested .facetracking)) {} messageSent =
      some _ := rfl
  have reached := Reaches.of_checked_run ran
  exact ⟨_, reached, rfl, rfl, sent_is_received reached rfl (.spawned 0) rfl⟩

/-- A `Restart` has called `OnHostExited`; before it kills, the monitor tries the message again. -/
def retriedBeforeKill : List (CourierEvent Nat) :=
  messageSent ++ [CourierEvent.supervisor .restartReset, .restartExited, .hostReady,
    .write 0 true, .mark 0, .supervisor (.restartKill true), .supervisor .restartCheck,
    .supervisor (.restartSpawn {})]

/-- After that run there is a new host that has received nothing, the message is taken for sent, and
`OnHostReady` does not try it again. -/
def LosesMessage (kind : Kind) : Prop :=
  ∃ courier : Courier Nat, run (courierStep kind) {} retriedBeforeKill = some courier ∧
    courier.sent = true ∧ courier.pending = some 7 ∧ courier.current = some (.spawned 1) ∧
    courier.received (.spawned 1) = none ∧ courier.hostReady.senders = []

theorem retry_before_kill_loses_message : LosesMessage .facetracking ∧ LosesMessage .captions :=
  ⟨⟨_, rfl, rfl, rfl, rfl, rfl, rfl⟩, ⟨_, rfl, rfl, rfl, rfl, rfl, rfl⟩⟩

end PairDriver.Supervisor
