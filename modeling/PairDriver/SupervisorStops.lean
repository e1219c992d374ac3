/-
This file is about what `Stop` and `Restart` leave behind.

`Kill` returns early when there is no handle, and `Start` resets the attachment but
not `running_`, so neither operation restores every member from every state. One
call of `Restart` among all is followed through its four critical sections, with
the number of hosts spawned before it was made. Two invariants carry the result:
what is reported as running is tracked, attached or about to be cleared by the
monitor, and after the `Kill` of a `Stop` nothing is reported that the monitor will
not clear. `stop_restart_settle` assembles them.
-/

import PairDriver.SupervisorHosts

namespace PairDriver.Supervisor

/-! ### A call of `Restart` that is followed -/

/-- Where the followed call stands. `floor` is the number of hosts spawned before the call; a call
that has returned keeps the state at its return. -/
inductive CallPc where
  | before
  | toKill (floor : Nat)
  | toCheck (floor : Nat)
  | toSpawn (floor : Nat)
  | returned (floor : Nat) (atReturn : State)
  | gaveUp

/-- The supervisor together with the followed call. -/
structure Followed where
  state : State := {}
  call : CallPc := .before

/-- A step of the followed call, or any other step. -/
inductive FollowedEvent where
  | other (event : Event)
  | callReset
  | callKill (dies : Bool)
  | callCheck
  | callSpawn (env : Environment)

/-- The step of the supervisor behind a step of the followed system. -/
def FollowedEvent.base : FollowedEvent → Event
  | .other event => event
  | .callReset => .restartReset
  | .callKill dies => .restartKill dies
  | .callCheck => .restartCheck
  | .callSpawn env => .restartSpawn env

/-- Whether the followed call is the only one that can make this step. -/
def ownsStep (followed : Followed) : Event → Bool
  | .restartKill _ => match followed.call with
    | .toKill _ => followed.state.restartsToKill == 1
    | _ => false
  | .restartCheck => match followed.call with
    | .toCheck _ => followed.state.restartsToCheck == 1
    | _ => false
  | .restartSpawn _ => match followed.call with
    | .toSpawn _ => followed.state.restartsToSpawn == 1
    | _ => false
  | _ => false

/-- Where the followed call goes on from the state its step leads to. -/
def advance (followed : Followed) (event : FollowedEvent) (after : State) : Option CallPc :=
  match event, followed.call with
  | .other base, call => if ownsStep followed base then none else some call
  | .callReset, .before => some (.toKill followed.state.spawned)
  | .callKill _, .toKill floor => some (.toCheck floor)
  | .callCheck, .toCheck floor =>
    some (if followed.state.stopRequested then .gaveUp else .toSpawn floor)
  | .callSpawn _, .toSpawn floor => some (.returned floor after)
  | _, _ => none

def followedStep (followed : Followed) (event : FollowedEvent) : Option Followed :=
  (step followed.state event.base).bind fun after =>
    (advance followed event after).map fun call => ⟨after, call⟩

theorem followedStep_base {followed after : Followed} {event : FollowedEvent}
    (stepped : followedStep followed event = some after) :
    step followed.state event.base = some after.state ∧
      advance followed event after.state = some after.call := by
  obtain ⟨state, moved, rest⟩ := Option.bind_eq_some_iff.mp stepped
  obtain ⟨call, advanced, rfl⟩ := Option.map_eq_some_iff.mp rest
  exact ⟨moved, advanced⟩

/-! ### What the claims of the two operations say -/

/-- `Stop` has returned, and `Start` has not been called since. -/
def Stopped (state : State) : Prop :=
  state.controller = .idle ∧ state.stopRequested = true

instance (state : State) : Decidable (Stopped state) :=
  inferInstanceAs (Decidable (_ ∧ _))

/-- The members that decide what the supervisor does next. -/
def members (state : State) : Bool × Bool × Option Nat × Bool × Nat × Bool :=
  (state.stopRequested, state.running, state.handle, state.attachedToExisting,
    state.consecutiveFastExits, state.halted)

/-- What a `Restart` may leave: a live host spawned after the call, an attachment, or a supervisor
that does not report to be running. -/
def Settled (floor : Nat) (state : State) : Prop :=
  (∃ host, state.handle = some host ∧ Live state host ∧ floor ≤ host) ∨
    state.attachedToExisting = true ∨ state.running = false

/-! ### The steps that do not go wrong -/

/-- The monitor's next step stores that the host is not running. -/
def clearsRunning : MonitorPc → Bool
  | .closed _ _ _ | .killBeatUs => true
  | _ => false

/-- `Stop` has made its `Kill`, and `Start` has not been called since. -/
def PastKill (state : State) : Prop :=
  state.controller = .stopJoin ∨ Stopped state

instance (state : State) : Decidable (PastKill state) :=
  inferInstanceAs (Decidable (_ ∨ _))

/-- A `Spawn` that finds no live host neither attaches nor creates one. -/
def cannotSpawn (env : Environment) : Bool :=
  !(env.canConnect && env.mutexHeld) && !env.created

/-- The host has exited, and the monitor has not stored that yet. -/
def exitUnreported (state : State) : Bool :=
  state.running && (clearsRunning state.monitor ||
    state.handle.any fun host => decide (¬Live state host))

/-- The condition on a step: the `Kill` of a `Stop` does not return early on something the monitor
will not clear, nothing is spawned behind it, `Start` does not drop an attachment that is reported
as running, the monitor does not drop one that another thread has just made, and no `Restart` fails
to spawn before an exit is reported. -/
def Orderly (state : State) : Event → Prop
  | .stopKill _ => state.handle = none →
      (state.attachedToExisting = true → state.monitor = .detach) ∧
      (state.running = true → clearsRunning state.monitor = true)
  | .startReset => state.attachedToExisting = true → state.running = true → state.handle ≠ none
  | .restartSpawn env => ¬PastKill state ∧ (cannotSpawn env = true → exitUnreported state = false)
  | .monitor _ => (state.monitor = .respawn → ¬PastKill state) ∧
      (state.monitor = .detach → state.running = true → state.handle ≠ none)
  | _ => True

instance (state : State) : (event : Event) → Decidable (Orderly state event)
  | .stopKill _ => inferInstanceAs (Decidable (_ → _ ∧ _))
  | .startReset => inferInstanceAs (Decidable (_ → _ → _))
  | .restartSpawn _ => inferInstanceAs (Decidable (_ ∧ (_ → _)))
  | .monitor _ => inferInstanceAs (Decidable ((_ → _) ∧ (_ → _ → _)))
  | .tick _ | .hostExits _ _ | .startSpawn _ | .stopRequest | .stopJoin | .restartReset
  | .restartKill _ | .restartCheck => inferInstanceAs (Decidable True)

/-- The same for a step of the followed system. -/
def OrderlyStep (followed : Followed) (event : FollowedEvent) : Prop :=
  Orderly followed.state event.base

instance (followed : Followed) (event : FollowedEvent) : Decidable (OrderlyStep followed event) :=
  inferInstanceAs (Decidable (Orderly _ _))

/-! ### The operations and the members -/

@[simp]
theorem spawn_controller (env : Environment) (state : State) :
    (spawn env state).2.controller = state.controller :=
  (spawn_threads env state).2.1

@[simp]
theorem spawn_stopRequested (env : Environment) (state : State) :
    (spawn env state).2.stopRequested = state.stopRequested :=
  (spawn_threads env state).2.2

@[simp]
theorem exitHost_controller (state : State) (host code : Nat) :
    (exitHost state host code).controller = state.controller := by
  unfold exitHost
  split <;> rfl

@[simp]
theorem exitHost_stopRequested (state : State) (host code : Nat) :
    (exitHost state host code).stopRequested = state.stopRequested := by
  unfold exitHost
  split <;> rfl

@[simp]
theorem exitHost_running (state : State) (host code : Nat) :
    (exitHost state host code).running = state.running := by
  unfold exitHost
  split <;> rfl

@[simp]
theorem kill_controller (dies : Bool) (state : State) :
    (kill dies state).controller = state.controller := by
  unfold kill
  split
  · rfl
  · simp only
    split
    · exact exitHost_controller state _ 0
    · rfl

@[simp]
theorem kill_stopRequested (dies : Bool) (state : State) :
    (kill dies state).stopRequested = state.stopRequested := by
  unfold kill
  split
  · rfl
  · simp only
    split
    · exact exitHost_stopRequested state _ 0
    · rfl

/-- What the monitor's steps other than `Spawn` do to the members: nothing, clear `running`, drop the
attachment, or close the handle on the way to clearing `running`. -/
theorem monitorStep_members {env : Environment} {state after : State}
    (stepped : monitorStep env state = some after) (working : state.monitor ≠ .respawn) :
    (after.controller = state.controller ∧ after.stopRequested = state.stopRequested) ∧
    ((state.monitor = .detach ∧ after.running = state.running ∧ after.handle = state.handle ∧
        after.attachedToExisting = false) ∨
     (state.monitor ≠ .detach ∧ after.attachedToExisting = state.attachedToExisting ∧
       ((after.running = false ∧ after.handle = state.handle) ∨
        (clearsRunning state.monitor = false ∧ after.running = state.running ∧
          (after.handle = state.handle ∨
            after.handle = none ∧ clearsRunning after.monitor = true))))) := by
  unfold monitorStep at stepped
  cases place : state.monitor with
  | respawn => exact absurd place working
  | detach =>
    rw [place] at stepped
    cases stepped
    exact ⟨⟨rfl, rfl⟩, Or.inl ⟨rfl, rfl, rfl, rfl⟩⟩
  | signaled host stamp =>
    rw [place] at stepped
    refine ⟨?_, Or.inr ⟨MonitorPc.noConfusion, ?_⟩⟩
    all_goals cases held : state.handle with
      | none =>
        simp only [held] at stepped
        cases stepped
        simp [clearsRunning]
      | some current =>
        simp only [held] at stepped
        cases stepped
        simp [clearsRunning]
  | probe =>
    rw [place] at stepped
    simp only at stepped
    split at stepped
    all_goals cases stepped
    · exact ⟨⟨rfl, rfl⟩, Or.inr ⟨MonitorPc.noConfusion, rfl, Or.inr ⟨rfl, rfl, Or.inl rfl⟩⟩⟩
    · exact ⟨⟨rfl, rfl⟩, Or.inr ⟨MonitorPc.noConfusion, rfl, Or.inl ⟨rfl, rfl⟩⟩⟩
  | killBeatUs =>
    rw [place] at stepped
    cases stepped
    exact ⟨⟨rfl, rfl⟩, Or.inr ⟨MonitorPc.noConfusion, rfl, Or.inl ⟨rfl, rfl⟩⟩⟩
  | closed host code stamp =>
    rw [place] at stepped
    cases stepped
    exact ⟨⟨rfl, rfl⟩, Or.inr ⟨MonitorPc.noConfusion, rfl, Or.inl ⟨rfl, rfl⟩⟩⟩
  | _ =>
    rw [place] at stepped
    simp only [countExit] at stepped
    repeat' split at stepped
    all_goals cases stepped
    all_goals
      exact ⟨⟨rfl, rfl⟩, Or.inr ⟨MonitorPc.noConfusion, rfl, Or.inr ⟨rfl, rfl, Or.inl rfl⟩⟩⟩

/-! ### What is reported as running -/

/-- What is reported as running is tracked, attached or about to be cleared by the monitor, which
does not run while `Start` is under way. -/
structure Accounted (state : State) : Prop where
  running : state.running = true → state.handle ≠ none ∨ state.attachedToExisting = true ∨
    clearsRunning state.monitor = true
  starting : state.controller = .starting → state.monitor = .off ∧ state.stopRequested = false

theorem accounted_initial : Accounted {} :=
  ⟨fun reported => Bool.noConfusion reported, fun place => ControllerPc.noConfusion place⟩

theorem spawn_accounted (env : Environment) (state : State)
    (accounted : state.running = true → state.handle ≠ none ∨ state.attachedToExisting = true ∨
      clearsRunning state.monitor = true) :
    (spawn env state).2.running = true → (spawn env state).2.handle ≠ none ∨
      (spawn env state).2.attachedToExisting = true ∨ clearsRunning state.monitor = true := by
  intro reported
  obtain ⟨_, _, _, kept⟩ | ⟨_, attached | created | ⟨_, failed⟩⟩ := spawn_cases env state
  · rw [kept] at reported ⊢
    exact accounted reported
  · rw [attached]
    exact Or.inr (Or.inl rfl)
  · rw [created]
    exact Or.inl (Option.some_ne_none state.spawned)
  · rw [failed] at reported ⊢
    exact accounted reported

theorem kill_accounted (dies : Bool) (state : State)
    (accounted : state.running = true → state.handle ≠ none ∨ state.attachedToExisting = true ∨
      clearsRunning state.monitor = true) :
    (kill dies state).running = true → (kill dies state).handle ≠ none ∨
      (kill dies state).attachedToExisting = true ∨ clearsRunning state.monitor = true := by
  intro reported
  obtain ⟨_, early⟩ | ⟨_, _, cleared⟩ := kill_cases dies state
  · rw [early] at reported ⊢
    exact accounted reported
  · rw [cleared] at reported
    cases reported

theorem accounted_monitorStep {env : Environment} {state after : State}
    (accounted : Accounted state) (met : Orderly state (.monitor env))
    (stepped : monitorStep env state = some after) : Accounted after := by
  obtain ⟨working, rfl⟩ | working := monitorStep_respawn_or stepped
  · refine ⟨?_, ?_⟩
    · intro reported
      obtain tracked | attached | cleared := spawn_accounted env
        { state with attempts := state.now :: state.attempts } accounted.running reported
      · exact Or.inl tracked
      · exact Or.inr (Or.inl attached)
      · rw [working] at cleared
        cases cleared
    · intro place
      simp only [monitorSpawn, spawn_controller] at place
      have off := (accounted.starting place).1
      rw [working] at off
      cases off
  · obtain ⟨⟨controller_eq, stop_eq⟩, change⟩ := monitorStep_members stepped working
    refine ⟨?_, ?_⟩
    · intro reported
      obtain ⟨place, running_eq, handle_eq, _⟩ | ⟨_, attached_eq, cleared | ⟨place, kept⟩⟩ := change
      · left
        rw [handle_eq]
        exact met.2 place (running_eq ▸ reported)
      · rw [cleared.1] at reported
        cases reported
      · obtain ⟨running_eq, handle_eq | ⟨_, clearing⟩⟩ := kept
        · obtain tracked | attached | cleared := accounted.running (running_eq ▸ reported)
          · exact Or.inl (handle_eq ▸ tracked)
          · exact Or.inr (Or.inl (attached_eq ▸ attached))
          · rw [place] at cleared
            cases cleared
        · exact Or.inr (Or.inr clearing)
    · intro place
      rw [controller_eq] at place
      have off := (accounted.starting place).1
      rw [monitorStep, off] at stepped
      cases stepped

theorem accounted_step {state after : State} {event : Event} (accounted : Accounted state)
    (met : Orderly state event) (stepped : step state event = some after) : Accounted after := by
  cases event with
  | tick ms =>
    cases stepped
    exact ⟨accounted.running, accounted.starting⟩
  | hostExits host code =>
    simp only [step] at stepped
    split at stepped
    · cases stepped
      refine ⟨?_, ?_⟩
      · simpa using accounted.running
      · simpa using accounted.starting
    · cases stepped
  | startReset =>
    simp only [step] at stepped
    split at stepped
    · rename_i idle
      cases stepped
      refine ⟨?_, fun _ => ⟨idle.2, rfl⟩⟩
      intro reported
      obtain tracked | attached | cleared := accounted.running reported
      · exact Or.inl tracked
      · exact Or.inl (met attached reported)
      · rw [idle.2] at cleared
        cases cleared
    · cases stepped
  | startSpawn env =>
    simp only [step] at stepped
    split at stepped
    · rename_i starting
      cases stepped
      refine ⟨?_, fun place => ControllerPc.noConfusion place⟩
      intro reported
      obtain tracked | attached | cleared := spawn_accounted env state accounted.running reported
      · exact Or.inl tracked
      · exact Or.inr (Or.inl attached)
      · rw [(accounted.starting starting).1] at cleared
        cases cleared
    · cases stepped
  | stopRequest =>
    simp only [step] at stepped
    split at stepped
    · cases stepped
      exact ⟨accounted.running, fun place => ControllerPc.noConfusion place⟩
    · cases stepped
  | stopKill dies =>
    simp only [step] at stepped
    split at stepped
    · cases stepped
      refine ⟨?_, fun place => ControllerPc.noConfusion place⟩
      simpa using kill_accounted dies state accounted.running
    · cases stepped
  | stopJoin =>
    simp only [step] at stepped
    split at stepped
    · cases stepped
      exact ⟨accounted.running, fun place => ControllerPc.noConfusion place⟩
    · cases stepped
  | restartReset =>
    cases stepped
    exact ⟨accounted.running, accounted.starting⟩
  | restartKill dies =>
    simp only [step] at stepped
    split at stepped
    · cases stepped
    · cases stepped
      refine ⟨?_, ?_⟩
      · simpa using kill_accounted dies state accounted.running
      · simpa using accounted.starting
  | restartCheck =>
    simp only [step] at stepped
    split at stepped
    · cases stepped
    · cases stepped
      exact ⟨accounted.running, accounted.starting⟩
  | restartSpawn env =>
    simp only [step] at stepped
    split at stepped
    · cases stepped
    · cases stepped
      refine ⟨?_, ?_⟩
      · simpa using spawn_accounted env state accounted.running
      · simpa using accounted.starting
  | monitor env => exact accounted_monitorStep accounted met stepped

/-! ### What is left after `Stop` -/

/-- After the `Kill` of a `Stop` there is no handle, and the monitor clears what is still reported
before it ends. -/
structure Quiet (state : State) : Prop where
  handle : PastKill state → state.handle = none
  attached : PastKill state → state.attachedToExisting = true → state.monitor = .detach
  running : PastKill state → state.running = true → clearsRunning state.monitor = true
  ended : Stopped state → state.monitor = .off

theorem quiet_of_not_pastKill {state : State} (before : ¬PastKill state) : Quiet state :=
  ⟨fun past => absurd past before, fun past => absurd past before,
    fun past => absurd past before, fun stopped => absurd (Or.inr stopped) before⟩

theorem quiet_initial : Quiet {} := by
  refine quiet_of_not_pastKill ?_
  decide

/-- A step that keeps where the controller stands, and past the `Kill` also the members and the
monitor, keeps the supervisor quiet. -/
theorem Quiet.congr {before after : State} (quiet : Quiet before)
    (controller_eq : after.controller = before.controller)
    (stop_eq : after.stopRequested = before.stopRequested)
    (monitor_eq : after.monitor = before.monitor)
    (kept : before.handle = none → after.handle = none ∧
      after.attachedToExisting = before.attachedToExisting ∧ after.running = before.running) :
    Quiet after := by
  have past : PastKill after → PastKill before := by
    unfold PastKill Stopped
    rw [controller_eq, stop_eq]
    exact id
  refine ⟨?_, ?_, ?_, ?_⟩
  · intro later
    exact (kept (quiet.handle (past later))).1
  · intro later attached
    rw [(kept (quiet.handle (past later))).2.1] at attached
    rw [monitor_eq]
    exact quiet.attached (past later) attached
  · intro later reported
    rw [(kept (quiet.handle (past later))).2.2] at reported
    rw [monitor_eq]
    exact quiet.running (past later) reported
  · unfold Stopped
    rw [controller_eq, stop_eq, monitor_eq]
    exact quiet.ended

theorem quiet_monitorStep {env : Environment} {state after : State} (quiet : Quiet state)
    (met : Orderly state (.monitor env)) (stepped : monitorStep env state = some after) :
    Quiet after := by
  obtain ⟨working, rfl⟩ | working := monitorStep_respawn_or stepped
  · refine quiet_of_not_pastKill ?_
    have before := met.1 working
    unfold PastKill Stopped at before ⊢
    simpa [monitorSpawn] using before
  · obtain ⟨⟨controller_eq, stop_eq⟩, change⟩ := monitorStep_members stepped working
    have past : PastKill after → PastKill state := by
      unfold PastKill Stopped
      rw [controller_eq, stop_eq]
      exact id
    have running : PastKill after → state.monitor ≠ .off := by
      intro _ off
      rw [monitorStep, off] at stepped
      cases stepped
    refine ⟨?_, ?_, ?_, ?_⟩
    · intro later
      have none := quiet.handle (past later)
      obtain ⟨_, _, handle_eq, _⟩ | ⟨_, _, ⟨_, handle_eq⟩ | ⟨_, _, handle_eq | ⟨closed, _⟩⟩⟩ := change
      · rw [handle_eq, none]
      · rw [handle_eq, none]
      · rw [handle_eq, none]
      · exact closed
    · intro later attached
      obtain ⟨_, _, _, dropped⟩ | ⟨place, attached_eq, _⟩ := change
      · rw [dropped] at attached
        cases attached
      · rw [attached_eq] at attached
        exact absurd (quiet.attached (past later) attached) place
    · intro later reported
      obtain ⟨place, running_eq, _⟩ | ⟨_, _, ⟨cleared, _⟩ | ⟨place, running_eq, _⟩⟩ := change
      · have clearing := quiet.running (past later) (running_eq ▸ reported)
        rw [place] at clearing
        cases clearing
      · rw [cleared] at reported
        cases reported
      · have clearing := quiet.running (past later) (running_eq ▸ reported)
        rw [place] at clearing
        cases clearing
    · intro stopped
      have earlier : Stopped state := by
        unfold Stopped at stopped ⊢
        rw [← controller_eq, ← stop_eq]
        exact stopped
      exact absurd (quiet.ended earlier) (running (Or.inr stopped))

/-- The `Kill` of a `Stop` leaves only what the monitor will clear. -/
theorem quiet_stopKill {state : State} (dies : Bool) (met : Orderly state (.stopKill dies)) :
    Quiet { kill dies state with controller := .stopJoin } := by
  refine ⟨fun _ => kill_handle dies state, ?_, ?_, fun stopped => ControllerPc.noConfusion stopped.1⟩
  · intro _ attached
    obtain ⟨none, early⟩ | ⟨_, dropped, _⟩ := kill_cases dies state
    · simp only [early] at attached ⊢
      exact (met none).1 attached
    · simp only [dropped] at attached
      cases attached
  · intro _ reported
    obtain ⟨none, early⟩ | ⟨_, _, cleared⟩ := kill_cases dies state
    · simp only [early] at reported ⊢
      exact (met none).2 reported
    · simp only [cleared] at reported
      cases reported

theorem quiet_step {state after : State} {event : Event} (accounted : Accounted state)
    (quiet : Quiet state) (met : Orderly state event) (stepped : step state event = some after) :
    Quiet after := by
  cases event with
  | tick ms =>
    cases stepped
    exact quiet.congr rfl rfl rfl fun none => ⟨none, rfl, rfl⟩
  | hostExits host code =>
    simp only [step] at stepped
    split at stepped
    · cases stepped
      exact quiet.congr (by simp) (by simp) (by simp) (by simp)
    · cases stepped
  | startReset =>
    simp only [step] at stepped
    split at stepped
    · cases stepped
      refine quiet_of_not_pastKill ?_
      simp [PastKill, Stopped]
    · cases stepped
  | startSpawn env =>
    simp only [step] at stepped
    split at stepped
    · rename_i starting
      cases stepped
      refine quiet_of_not_pastKill ?_
      simp [PastKill, Stopped, (accounted.starting starting).2]
    · cases stepped
  | stopRequest =>
    simp only [step] at stepped
    split at stepped
    · cases stepped
      refine quiet_of_not_pastKill ?_
      simp [PastKill, Stopped]
    · cases stepped
  | stopKill dies =>
    simp only [step] at stepped
    split at stepped
    · cases stepped
      exact quiet_stopKill dies met
    · cases stepped
  | stopJoin =>
    simp only [step] at stepped
    split at stepped
    · rename_i joined
      cases stepped
      have past : PastKill state := Or.inl joined.1
      exact ⟨fun _ => quiet.handle past, fun _ => quiet.attached past, fun _ => quiet.running past,
        fun _ => joined.2⟩
    · cases stepped
  | restartReset =>
    cases stepped
    exact quiet.congr rfl rfl rfl fun none => ⟨none, rfl, rfl⟩
  | restartKill dies =>
    simp only [step] at stepped
    split at stepped
    · cases stepped
    · cases stepped
      refine quiet.congr (kill_controller dies state) (kill_stopRequested dies state)
        (kill_monitor dies state) fun none => ?_
      simp [kill, none]
  | restartCheck =>
    simp only [step] at stepped
    split at stepped
    · cases stepped
    · cases stepped
      exact quiet.congr rfl rfl rfl fun none => ⟨none, rfl, rfl⟩
  | restartSpawn env =>
    simp only [step] at stepped
    split at stepped
    · cases stepped
    · cases stepped
      refine quiet_of_not_pastKill ?_
      have before := met.1
      unfold PastKill Stopped at before ⊢
      simpa using before
  | monitor env => exact quiet_monitorStep quiet met stepped

/-! ### The host a `Restart` leaves -/

/-- From its `Kill` on, the followed call finds only hosts that were spawned after it was made, and
it has returned with a settled supervisor. -/
def CallHolds (state : State) : CallPc → Prop
  | .toKill floor => floor ≤ state.spawned
  | .toCheck floor | .toSpawn floor =>
    floor ≤ state.spawned ∧ ∀ host, state.handle = some host → floor ≤ host
  | .returned floor atReturn => Settled floor atReturn
  | .before | .gaveUp => True

/-- A handle that a step leaves was there before, or is that of a host the step created. -/
theorem step_handle_new {state after : State} {event : Event}
    (stepped : step state event = some after) {host : Nat} (held : after.handle = some host) :
    state.handle = some host ∨ state.spawned ≤ host := by
  have spawned_case : ∀ env (before : State), (spawn env before).2.handle = some host →
      before.handle = some host ∨ before.spawned ≤ host := by
    intro env before held
    obtain ⟨_, _, _, kept⟩ | ⟨_, attached | created | ⟨_, failed⟩⟩ := spawn_cases env before
    · exact Or.inl (by rwa [kept] at held)
    · exact Or.inl (by rwa [attached] at held)
    · rw [created] at held
      exact Or.inr (Nat.le_of_eq (Option.some.inj held))
    · exact Or.inl (by rwa [failed] at held)
  cases step_effect stepped with
  | @monitor env _ moved =>
    obtain ⟨working, rfl⟩ | working := monitorStep_respawn_or moved
    · exact spawned_case env { state with attempts := state.now :: state.attempts } held
    · obtain ⟨_, _, _, _, kept | ⟨_, _, _, released⟩⟩ := monitorStep_frame moved working
      · exact Or.inl (kept ▸ held)
      · rw [released] at held
        cases held
  | exits live => exact Or.inl (by rwa [exitHost_handle] at held)
  | @spawns _ env _ _ core _ => exact spawned_case env state (core.handle_eq ▸ held)
  | kills _ core _ =>
    rw [core.handle_eq, kill_handle] at held
    cases held
  | moves core _ => exact Or.inl (core.handle_eq ▸ held)
  | resets _ _ handle_eq => exact Or.inl (handle_eq ▸ held)

theorem CallHolds.step {state after : State} {event : Event} {call : CallPc}
    (holds : CallHolds state call) (stepped : step state event = some after) :
    CallHolds after call := by
  have grows := (step_evolves stepped).spawned_le
  have later : ∀ floor, (floor ≤ state.spawned ∧ ∀ host, state.handle = some host → floor ≤ host) →
      floor ≤ after.spawned ∧ ∀ host, after.handle = some host → floor ≤ host := by
    intro floor known
    refine ⟨Nat.le_trans known.1 grows, ?_⟩
    intro host held
    obtain kept | created := step_handle_new stepped held
    · exact known.2 host kept
    · exact Nat.le_trans known.1 created
  cases call with
  | toKill floor => exact Nat.le_trans holds grows
  | toCheck floor => exact later floor holds
  | toSpawn floor => exact later floor holds
  | returned floor atReturn => exact holds
  | before => trivial
  | gaveUp => trivial

/-- A `Spawn` that fails could neither attach nor create. -/
theorem cannotSpawn_of_failed {env : Environment} {state : State}
    (failed : spawn env state = (false, state)) : cannotSpawn env = true := by
  unfold spawn at failed
  split at failed
  · simp at failed
  · split at failed
    · simp at failed
    · rename_i attaches
      split at failed
      · simp at failed
      · rename_i created
        rw [Bool.not_eq_true] at attaches created
        rw [cannotSpawn, attaches, created]
        rfl

/-- The `Spawn` of the followed call settles the supervisor. -/
theorem settled_spawn {state : State} {env : Environment} {floor : Nat} (accounted : Accounted state)
    (met : Orderly state (.restartSpawn env)) (holds : CallHolds state (.toSpawn floor)) :
    Settled floor { (spawn env state).2 with restartsToSpawn := state.restartsToSpawn - 1 } := by
  obtain ⟨host, held, live, kept⟩ | ⟨dead, attached | created | failed⟩ := spawn_cases env state
  · rw [kept]
    exact Or.inl ⟨host, held, live, holds.2 host held⟩
  · rw [attached]
    exact Or.inr (Or.inl rfl)
  · rw [created]
    refine Or.inl ⟨state.spawned, rfl, ⟨Nat.lt_succ_self _, ?_⟩, holds.1⟩
    simp [createHost]
  · rw [failed.2]
    right
    have reported := met.2 (cannotSpawn_of_failed failed.2)
    by_cases running : state.running = true
    · left
      simp only [exitUnreported, running, Bool.true_and, Bool.or_eq_false_iff] at reported
      obtain tracked | attached | clearing := accounted.running running
      · obtain ⟨host, held⟩ := Option.ne_none_iff_exists'.mp tracked
        have live : Live state host := by simpa [held] using reported.2
        exact absurd live (dead host held)
      · exact attached
      · rw [reported.1] at clearing
        cases clearing
    · exact Or.inr (Bool.eq_false_iff.mpr running)

theorem callHolds_followedStep {followed after : Followed} {event : FollowedEvent}
    (accounted : Accounted followed.state) (holds : CallHolds followed.state followed.call)
    (met : OrderlyStep followed event) (stepped : followedStep followed event = some after) :
    CallHolds after.state after.call := by
  obtain ⟨moved, advanced⟩ := followedStep_base stepped
  have kept := holds.step moved
  cases event with
  | other base =>
    simp only [advance] at advanced
    split at advanced
    · cases advanced
    · rw [← Option.some.inj advanced]
      exact kept
  | callReset =>
    cases place : followed.call with
    | before =>
      simp only [advance, place] at advanced
      rw [← Option.some.inj advanced]
      exact (step_evolves moved).spawned_le
    | _ =>
      simp only [advance, place] at advanced
      cases advanced
  | callKill dies =>
    cases place : followed.call with
    | toKill floor =>
      rw [place] at kept
      simp only [advance, place] at advanced
      rw [← Option.some.inj advanced]
      refine ⟨kept, ?_⟩
      intro host held
      simp only [FollowedEvent.base, step] at moved
      split at moved
      · cases moved
      · rw [← Option.some.inj moved] at held
        simp only [kill_handle] at held
        cases held
    | _ =>
      simp only [advance, place] at advanced
      cases advanced
  | callCheck =>
    cases place : followed.call with
    | toCheck floor =>
      rw [place] at kept
      simp only [advance, place] at advanced
      split at advanced
      · rw [← Option.some.inj advanced]
        trivial
      · rw [← Option.some.inj advanced]
        exact kept
    | _ =>
      simp only [advance, place] at advanced
      cases advanced
  | callSpawn env =>
    cases place : followed.call with
    | toSpawn floor =>
      rw [place] at holds
      simp only [advance, place] at advanced
      rw [← Option.some.inj advanced]
      simp only [FollowedEvent.base, step] at moved
      split at moved
      · cases moved
      · rw [← Option.some.inj moved]
        exact settled_spawn accounted met holds
    | _ =>
      simp only [advance, place] at advanced
      cases advanced

/-! ### The result -/

/-- The invariant of the followed system. -/
structure Governed (followed : Followed) : Prop where
  accounted : Accounted followed.state
  quiet : Quiet followed.state
  call : CallHolds followed.state followed.call

theorem governed_of_reaches {followed : Followed}
    (reached : Reaches followedStep OrderlyStep {} followed) : Governed followed := by
  refine reached.invariant ⟨accounted_initial, quiet_initial, trivial⟩ ?_
  intro before event after governed met stepped
  have moved := (followedStep_base stepped).1
  exact ⟨accounted_step governed.accounted met moved,
    quiet_step governed.accounted governed.quiet met moved,
    callHolds_followedStep governed.accounted governed.call met stepped⟩

/-- Stop and restart. In every state reached by orderly steps: once `Stop` has returned, the
supervisor neither reports to be running nor is attached, and `Start` begins with the members of a
new supervisor; and a call of `Restart` that found no stop requested has returned with a live host
spawned after the call, an attachment, or a supervisor that does not report to be running. -/
theorem stop_restart_settle {followed : Followed}
    (reached : Reaches followedStep OrderlyStep {} followed) :
    (Stopped followed.state → followed.state.running = false ∧
      followed.state.attachedToExisting = false ∧
      ∃ after, step followed.state .startReset = some after ∧ members after = members {}) ∧
    (∀ floor atReturn, followed.call = .returned floor atReturn → Settled floor atReturn) := by
  have governed := governed_of_reaches reached
  constructor
  · intro stopped
    have past : PastKill followed.state := Or.inr stopped
    have ended := governed.quiet.ended stopped
    have handle := governed.quiet.handle past
    have running : followed.state.running = false := by
      refine Bool.eq_false_iff.mpr fun reported => ?_
      have clearing := governed.quiet.running past reported
      rw [ended] at clearing
      cases clearing
    have attached : followed.state.attachedToExisting = false := by
      refine Bool.eq_false_iff.mpr fun attached => ?_
      have detaching := governed.quiet.attached past attached
      rw [ended] at detaching
      cases detaching
    refine ⟨running, attached, _, if_pos ⟨stopped.1, ended⟩, ?_⟩
    simp [members, running, handle]
  · intro floor atReturn returned
    have holds := governed.call
    rw [returned] at holds
    exact holds

/-- `Start` spawns a host, a `Restart` replaces it, and `Stop` ends the monitor. -/
def restartedAndStopped : List FollowedEvent :=
  [.other .startReset, .other (.startSpawn {}), .callReset, .callKill true, .callCheck,
    .callSpawn {}, .other .stopRequest, .other (.stopKill true), .other (.monitor {}),
    .other .stopJoin]

theorem stop_restart_settle_restarted : ∃ followed floor atReturn,
    Reaches followedStep OrderlyStep {} followed ∧ Stopped followed.state ∧
    followed.state.running = false ∧ followed.call = .returned floor atReturn ∧
    Settled floor atReturn := by
  have ran : run (checked followedStep OrderlyStep) {} restartedAndStopped = some _ := rfl
  have reached := Reaches.of_checked_run ran
  have settle := stop_restart_settle reached
  exact ⟨_, _, _, reached, ⟨rfl, rfl⟩, (settle.1 ⟨rfl, rfl⟩).1, rfl, settle.2 _ _ rfl⟩

/-- `Start` attaches to a host that is already there, and `Stop` is called. -/
def attachedAndStopped : List Event :=
  [.startReset, .startSpawn { canConnect := true, mutexHeld := true }, .stopRequest, .stopKill true,
    .monitor {}, .stopJoin]

/-- `Kill` returns early, so that the supervisor is stopped, running and attached; the next `Start`
drops the attachment and still reports to be running, also when its `Spawn` then fails. -/
theorem stop_leaves_attachment : ∃ state after,
    run step {} attachedAndStopped = some state ∧ Stopped state ∧
    state.running = true ∧ state.attachedToExisting = true ∧
    run step state [.startReset, .startSpawn { created := false }] = some after ∧
    after.running = true ∧ after.handle = none ∧ after.attachedToExisting = false :=
  ⟨_, _, rfl, ⟨rfl, rfl⟩, rfl, rfl, rfl, rfl, rfl, rfl⟩

end PairDriver.Supervisor
