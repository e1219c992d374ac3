/-
This file proves the handle safety of the supervisor. After a wait that was
signaled the monitor closes whichever handle is current, not the one it waited
on. In runs where the two are the same whenever it does so, and where every
terminated host dies, each live host is the one the handle refers to. A `Restart`
whose respawn falls between the end of the wait and the lock breaks this; the
last section runs such a schedule.
-/

import PairDriver.SupervisorHosts

namespace PairDriver.Supervisor

/-! ### The invariant -/

/-- Live hosts are tracked, and an attached supervisor holds no handle of a live host. -/
structure Tracked (state : State) : Prop where
  live_tracked : ∀ host, Live state host → state.handle = some host
  attached_exited : state.attachedToExisting = true →
    ∀ host, state.handle = some host → ¬Live state host

theorem Tracked.congr {state later : State} (tracked : Tracked state)
    (hosts_eq : later.hosts = state.hosts) (spawned_eq : later.spawned = state.spawned)
    (handle_eq : later.handle = state.handle)
    (attached_of : later.attachedToExisting = true → state.attachedToExisting = true) :
    Tracked later := by
  have live_iff : ∀ host, Live later host ↔ Live state host := by
    intro host
    rw [Live, Live, hosts_eq, spawned_eq]
  refine ⟨?_, ?_⟩
  · intro host live
    rw [handle_eq]
    exact tracked.live_tracked host ((live_iff host).mp live)
  · intro attached host held live
    exact tracked.attached_exited (attached_of attached) host (handle_eq ▸ held)
      ((live_iff host).mp live)

theorem tracked_initial : Tracked {} := by
  refine ⟨?_, ?_⟩
  · intro host live
    exact absurd live.1 (Nat.not_lt_zero host)
  · intro _ host held
    cases held

/-- Releasing the handle keeps live hosts tracked when its host is not live. -/
theorem Tracked.release {state later : State} (tracked : Tracked state)
    (hosts_eq : later.hosts = state.hosts) (spawned_eq : later.spawned = state.spawned)
    (released : later.handle = none)
    (dead : ∀ host, state.handle = some host → ¬Live state host) : Tracked later := by
  refine ⟨?_, ?_⟩
  · intro host live
    rw [Live, hosts_eq, spawned_eq] at live
    exact absurd live (dead host (tracked.live_tracked host live))
  · intro _ host held
    rw [released] at held
    cases held

theorem Tracked.exitHost {state : State} (tracked : Tracked state) (host code : Nat) :
    Tracked (exitHost state host code) := by
  refine ⟨?_, ?_⟩
  · intro other live
    rw [exitHost_handle]
    exact tracked.live_tracked other ((live_exitHost_iff state host code other).mp live).1
  · intro attached other held live
    rw [exitHost_attachedToExisting] at attached
    rw [exitHost_handle] at held
    exact tracked.attached_exited attached other held
      ((live_exitHost_iff state host code other).mp live).1

theorem live_createHost {state : State} {host : Nat} (live : Live (createHost state) host) :
    host = state.spawned ∨ Live state host := by
  obtain ⟨known, running⟩ := live
  rcases Nat.lt_succ_iff_lt_or_eq.mp known with older | same
  · right
    refine ⟨older, ?_⟩
    have unchanged := setHost_hosts_of_ne state { spawnTime := state.now } (Nat.ne_of_lt older)
    rw [← unchanged]
    exact running
  · exact Or.inl same

theorem Tracked.createHost {state : State} (tracked : Tracked state)
    (dead : ∀ host, state.handle = some host → ¬Live state host) :
    Tracked (createHost state) := by
  refine ⟨?_, ?_⟩
  · intro host live
    rcases live_createHost live with fresh | older
    · exact congrArg some fresh.symm
    · exact absurd older (dead host (tracked.live_tracked host older))
  · intro attached
    exact absurd attached Bool.false_ne_true

theorem Tracked.spawn {state : State} (tracked : Tracked state) (env : Environment) :
    Tracked (spawn env state).2 := by
  obtain ⟨_, _, _, kept⟩ | ⟨dead, attached | created | ⟨_, failed⟩⟩ := spawn_cases env state
  · rw [kept]
    exact tracked
  · rw [attached]
    exact ⟨tracked.live_tracked, fun _ => dead⟩
  · rw [created]
    exact tracked.createHost dead
  · rw [failed]
    exact tracked

theorem Tracked.kill {state : State} (tracked : Tracked state) : Tracked (kill true state) := by
  unfold Supervisor.kill
  cases held : state.handle with
  | none => exact tracked
  | some host =>
    by_cases attached : state.attachedToExisting
    · simp only [attached, Bool.not_true, Bool.false_and, Bool.false_eq_true, if_false]
      exact tracked.release rfl rfl rfl (tracked.attached_exited attached)
    · simp only [attached, Bool.not_false, Bool.and_true, if_true]
      refine (tracked.exitHost host 0).release rfl rfl rfl ?_
      intro other kept live
      rw [exitHost_handle, held] at kept
      exact ((live_exitHost_iff state host 0 other).mp live).2 (Option.some.inj kept).symm

/-! ### Steps and runs -/

/-- The condition on a step: the monitor acts on the handle it waited on, and a terminated host
dies. -/
def undisturbed (state : State) : Event → Bool
  | .monitor _ => handleUnchanged state
  | .stopKill dies | .restartKill dies => dies
  | _ => true

structure Guarded (state : State) : Prop where
  located : Located state
  tracked : Tracked state

theorem tracked_monitorStep {env : Environment} {state after : State} (guarded : Guarded state)
    (unchanged : handleUnchanged state = true) (stepped : monitorStep env state = some after) :
    Tracked after := by
  obtain ⟨working, rfl⟩ | working := monitorStep_respawn_or stepped
  · have attempted : Tracked { state with attempts := state.now :: state.attempts } :=
      guarded.tracked.congr rfl rfl rfl id
    have spawned := attempted.spawn env
    exact spawned.congr rfl rfl rfl id
  · obtain ⟨hosts_eq, spawned_eq, _, attached_of, kept | ⟨host, stamp, place, released⟩⟩ :=
      monitorStep_frame stepped working
    · exact guarded.tracked.congr hosts_eq spawned_eq kept attached_of
    · refine guarded.tracked.release hosts_eq spawned_eq released ?_
      intro current held
      exact (guarded.located.exited_of_signaled unchanged place held).not_live

theorem Tracked.sameCore {state later : State} (tracked : Tracked state)
    (core : SameCore state later) : Tracked later :=
  tracked.congr core.hosts_eq core.spawned_eq core.handle_eq (core.attached_eq ▸ id)

theorem tracked_step {state after : State} {event : Event} (guarded : Guarded state)
    (met : undisturbed state event = true) (stepped : step state event = some after) :
    Tracked after := by
  have tracked := guarded.tracked
  cases step_effect stepped with
  | monitor moved => exact tracked_monitorStep guarded met moved
  | @exits host code _ => exact tracked.exitHost host code
  | @spawns _ env _ _ core _ => exact (tracked.spawn env).sameCore core
  | @kills _ dies _ caller core _ =>
    obtain rfl : dies = true := by
      rcases caller with rfl | rfl
      · exact met
      · exact met
    exact tracked.kill.sameCore core
  | moves core _ => exact tracked.sameCore core
  | resets hosts_eq spawned_eq handle_eq attached_of =>
    exact tracked.congr hosts_eq spawned_eq handle_eq attached_of

theorem guarded_step {state after : State} {event : Event} (guarded : Guarded state)
    (met : undisturbed state event = true) (stepped : step state event = some after) :
    Guarded after := by
  refine ⟨located_step guarded.located ?_ stepped, tracked_step guarded met stepped⟩
  rintro ⟨env, rfl⟩
  exact met

/-- The runs in which every step is undisturbed. -/
def Undisturbed (state : State) (event : Event) : Prop :=
  undisturbed state event = true

instance (state : State) (event : Event) : Decidable (Undisturbed state event) :=
  inferInstanceAs (Decidable (_ = _))

theorem guarded_of_reaches {state : State} (reached : Reaches step Undisturbed {} state) :
    Guarded state :=
  reached.invariant ⟨located_initial, tracked_initial⟩
    fun _ _ _ guarded met stepped => guarded_step guarded met stepped

/-- A step that gives up a handle gives up that of a host that has exited. -/
def ReleasesOnlyExited (state after : State) : Prop :=
  ∀ host, state.handle = some host → after.handle ≠ some host → Exited state host

theorem releasesOnlyExited_monitorStep {env : Environment} {state after : State}
    (guarded : Guarded state) (unchanged : handleUnchanged state = true)
    (stepped : monitorStep env state = some after) : ReleasesOnlyExited state after := by
  intro host held released
  have known := guarded.located.handle_known host held
  obtain ⟨working, rfl⟩ | working := monitorStep_respawn_or stepped
  · obtain ⟨current, currentHeld, _, kept⟩ | ⟨dead, _⟩ :=
      spawn_cases env { state with attempts := state.now :: state.attempts }
    · refine absurd ?_ released
      simp only [monitorSpawn, kept]
      exact held
    · exact exited_of_not_live known (dead host held)
  · obtain ⟨_, _, _, _, kept | ⟨waited, stamp, place, _⟩⟩ := monitorStep_frame stepped working
    · exact absurd (kept.trans held) released
    · exact guarded.located.exited_of_signaled unchanged place held

/-- Handle safety. In every state reached by undisturbed steps, the monitor's next undisturbed step
gives up a handle only when its host has exited, every live host is tracked, and at most one host
is live. -/
theorem handle_safety {state : State} (reached : Reaches step Undisturbed {} state) :
    (∀ env after, Undisturbed state (.monitor env) → step state (.monitor env) = some after →
      ReleasesOnlyExited state after) ∧
    (∀ host, Live state host → state.handle = some host) ∧
    (∀ first second, Live state first → Live state second → first = second) := by
  have guarded := guarded_of_reaches reached
  refine ⟨?_, guarded.tracked.live_tracked, ?_⟩
  · intro env after unchanged stepped
    exact releasesOnlyExited_monitorStep guarded unchanged stepped
  · intro first second firstLive secondLive
    have firstHeld := guarded.tracked.live_tracked first firstLive
    have secondHeld := guarded.tracked.live_tracked second secondLive
    exact Option.some.inj (firstHeld.symm.trans secondHeld)

/-- `Start`, and the monitor waits for the host, which exits. -/
def waitedHostExits : List Event :=
  [.startReset, .startSpawn {}, .monitor {}, .monitor {}, .monitor {}, .hostExits 0 1, .monitor {}]

theorem handle_safety_exit : ∃ state after, Reaches step Undisturbed {} state ∧
    state.handle = some 0 ∧ after.handle = none ∧ step state (.monitor {}) = some after ∧
    ReleasesOnlyExited state after := by
  have exited : run (checked step Undisturbed) {} waitedHostExits = some _ := rfl
  have reached := Reaches.of_checked_run exited
  exact ⟨_, _, reached, rfl, rfl, rfl, (handle_safety reached).1 {} _ rfl rfl⟩

/-! ### A restart inside the window -/

/-- A `Restart` kills and respawns after the wait for the exited host was signaled. -/
def restartInWindow : List Event :=
  waitedHostExits ++ [Event.restartReset, .restartKill true, .restartCheck, .restartSpawn {}]

/-- The monitor takes the new host for the one it waited on, and respawns after the back-off. -/
def monitorRespawns : List Event :=
  [.monitor {}, .monitor {}, .monitor {}, .tick 1000, .monitor {}, .monitor {}, .monitor {}]

/-- The monitor closes the handle of a live host, which nothing tracks from then on; the respawn
that follows makes two live hosts. -/
theorem restart_in_window_loses_host : ∃ state after later,
    run step {} restartInWindow = some state ∧ step state (.monitor {}) = some after ∧
    run step after monitorRespawns = some later ∧ ¬ReleasesOnlyExited state after ∧
    (Live after 1 ∧ after.handle = none) ∧ (Live later 1 ∧ Live later 2) := by
  refine ⟨_, _, _, rfl, rfl, rfl, ?_, by decide, by decide⟩
  intro safe
  exact (safe 1 rfl (by decide)).2 rfl

end PairDriver.Supervisor
