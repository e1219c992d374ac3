/-
This file models `HostSupervisorBase`, the supervisor of the sidecar host
processes, as a machine whose steps are its critical sections.

The monitor thread runs `MonitorLoop`; its program counter names the places
between two critical sections, so that the steps of other threads fall there.
`Restart` may be called from several threads at once and is counted by the place
each call has reached. `Start` and `Stop` belong to one controlling thread. The
operating system contributes the passing of time, hosts that exit, and the
answers of an `Environment` to the calls the supervisor makes. The hooks
`OnHostReady` and `OnHostExited` are empty in the base class and have no step.
-/

import PairDriver.Machine

namespace PairDriver.Supervisor

/-! ### Constants -/

def kFastExitThresholdMs : Nat := 2000
def kCircuitBreakerThreshold : Nat := 5
def kBackoffStartMs : Nat := 1000
def kBackoffMaxMs : Nat := 30000

/-- The exit code `GetExitCodeProcess` reports for a process that is still running. -/
def stillActive : Nat := 259

/-- `IsCleanSingletonExit`. -/
def isCleanSingletonExit (code : Nat) : Bool :=
  code == 3 || code == 4

/-! ### State -/

/-- A host the supervisor has spawned, with the code and the time of its exit. -/
structure Host where
  spawnTime : Nat := 0
  exit : Option (Nat × Nat) := none
deriving DecidableEq

/-- Where the monitor thread stands. A process handle is the number of the host it refers to. -/
inductive MonitorPc where
  | off
  | head
  | readHandle
  | readAttached
  | probe
  | detach
  | asleepToHead (wake : Nat)
  | asleepToRespawn (wake : Nat)
  | respawnCheck
  | respawn
  | stampTime (host : Nat)
  | waiting (host stamp : Nat)
  | signaled (host stamp : Nat)
  | killBeatUs
  | closed (host code stamp : Nat)
  | exited (host code stamp : Nat)
  | recorded (host code uptime : Nat)
deriving DecidableEq

/-- Where the thread that calls `Start` and `Stop` stands. -/
inductive ControllerPc where
  | idle
  | starting
  | stopKill
  | stopJoin
deriving DecidableEq

/-- An exit as the monitor has counted it: the host, its code and the uptime it measured. -/
structure ExitRecord where
  host : Nat
  code : Nat
  uptime : Nat
deriving DecidableEq

/-- The supervisor, its threads and its hosts. `exits`, newest first, and `attempts`, the times
at which the monitor called `Spawn`, are recorded for the specification only. -/
structure State where
  stopRequested : Bool := false
  running : Bool := false
  handle : Option Nat := none
  attachedToExisting : Bool := false
  consecutiveFastExits : Nat := 0
  halted : Bool := false
  lastExitCode : Nat := 0
  backoffMs : Nat := kBackoffStartMs
  monitor : MonitorPc := .off
  controller : ControllerPc := .idle
  restartsToKill : Nat := 0
  restartsToCheck : Nat := 0
  restartsToSpawn : Nat := 0
  now : Nat := 0
  spawned : Nat := 0
  hosts : Nat → Host := fun _ => {}
  exits : List ExitRecord := []
  attempts : List Nat := []

/-- A host that was spawned and has not exited. -/
def Live (state : State) (host : Nat) : Prop :=
  host < state.spawned ∧ (state.hosts host).exit = none

instance (state : State) (host : Nat) : Decidable (Live state host) :=
  inferInstanceAs (Decidable (_ ∧ _))

/-! ### The operating system -/

inductive WaitResult where
  | signaled
  | timedOut
  | failed
deriving DecidableEq

/-- What the operating system answers. `mutexHeld` is also true for a host that has no singleton
mutex; `created` is the outcome of the path conversion and of `CreateProcessW`. -/
structure Environment where
  canConnect : Bool := false
  mutexHeld : Bool := false
  created : Bool := true
  wait : WaitResult := .signaled
deriving DecidableEq

def setHost (state : State) (host : Nat) (value : Host) : State :=
  { state with hosts := Function.update state.hosts host value }

/-- A host exits with a code; one that has already exited stays as it is. -/
def exitHost (state : State) (host code : Nat) : State :=
  if Live state host then
    setHost state host { state.hosts host with exit := some (code, state.now) }
  else state

/-- `CreateProcessW` has created a host; the supervisor tracks it. -/
def createHost (state : State) : State :=
  { setHost state state.spawned { spawnTime := state.now } with
    handle := some state.spawned
    attachedToExisting := false
    running := true
    spawned := state.spawned + 1 }

/-- The code `GetExitCodeProcess` reports. -/
def exitCode (state : State) (host : Nat) : Nat :=
  match (state.hosts host).exit with
  | some (code, _) => code
  | none => stillActive

/-! ### The operations -/

/-- The critical section of `Spawn`: keep a live host, attach to an existing one, or create one. -/
def spawn (env : Environment) (state : State) : Bool × State :=
  if ∃ host ∈ state.handle, Live state host then (true, state)
  else if env.canConnect && env.mutexHeld then
    (true, { state with attachedToExisting := true, running := true })
  else if env.created then (true, createHost state)
  else (false, state)

/-- `Kill`. `dies` tells whether the process is gone when the waits after `TerminateProcess` end;
the handle is closed either way. -/
def kill (dies : Bool) (state : State) : State :=
  match state.handle with
  | none => state
  | some host =>
    let ended := if !state.attachedToExisting && dies then exitHost state host 0 else state
    { ended with handle := none, attachedToExisting := false, running := false }

/-- A call of `Spawn` by the monitor, with the back-off it leads to. -/
def monitorSpawn (env : Environment) (state : State) : State :=
  let result := spawn env { state with attempts := state.now :: state.attempts }
  { result.2 with
    monitor := .head
    backoffMs := if result.1 then kBackoffStartMs else min (state.backoffMs * 2) kBackoffMaxMs }

/-- The accounting of an exit: the breaker counts exits that are not clean singleton exits. -/
def countExit (host code uptime : Nat) (state : State) : State :=
  let logged := { state with exits := ⟨host, code, uptime⟩ :: state.exits }
  if isCleanSingletonExit code then { logged with monitor := .respawnCheck }
  else
    let fast := if uptime < kFastExitThresholdMs then state.consecutiveFastExits + 1 else 0
    if fast ≥ kCircuitBreakerThreshold then
      { logged with consecutiveFastExits := fast, halted := true, monitor := .head }
    else
      { logged with
        consecutiveFastExits := fast
        monitor := .asleepToRespawn (state.now + state.backoffMs) }

/-- One step of `MonitorLoop`. -/
def monitorStep (env : Environment) (state : State) : Option State :=
  match state.monitor with
  | .off => none
  | .head => some { state with monitor := if state.stopRequested then .off else .readHandle }
  | .readHandle =>
    if state.halted then some { state with monitor := .asleepToHead (state.now + 1000) }
    else match state.handle with
      | none => some { state with monitor := .readAttached }
      | some host => some { state with monitor := .stampTime host }
  | .stampTime host => some { state with monitor := .waiting host state.now }
  | .readAttached =>
    if state.attachedToExisting then some { state with monitor := .probe }
    else some { state with monitor := .asleepToHead (state.now + 500) }
  | .probe =>
    if env.canConnect then some { state with monitor := .asleepToHead (state.now + 500) }
    else some { state with running := false, monitor := .detach }
  | .detach =>
    some { state with
      attachedToExisting := false
      monitor := .asleepToRespawn (state.now + state.backoffMs) }
  | .asleepToHead wake => if state.now < wake then none else some { state with monitor := .head }
  | .asleepToRespawn wake =>
    if state.now < wake then none else some { state with monitor := .respawnCheck }
  | .respawnCheck => some { state with monitor := if state.stopRequested then .off else .respawn }
  | .respawn => some (monitorSpawn env state)
  | .waiting host stamp =>
    match env.wait with
    | .signaled =>
      if Live state host then none
      else some { state with monitor := if state.stopRequested then .off else .signaled host stamp }
    | .timedOut =>
      if state.now < stamp + max state.backoffMs 1000 then none
      else some { state with monitor := if state.stopRequested then .off else .head }
    | .failed => some { state with monitor := if state.stopRequested then .off else .head }
  | .signaled _ stamp =>
    match state.handle with
    | none => some { state with monitor := .killBeatUs }
    | some current =>
      some { state with handle := none, monitor := .closed current (exitCode state current) stamp }
  | .killBeatUs => some { state with running := false, monitor := .head }
  | .closed host code stamp => some { state with running := false, monitor := .exited host code stamp }
  | .exited host code stamp =>
    some { state with lastExitCode := code, monitor := .recorded host code (state.now - stamp) }
  | .recorded host code uptime => some (countExit host code uptime state)

/-- The steps of the system: time, exiting hosts, the critical sections of `Start`, `Stop` and
`Restart`, and the steps of the monitor. -/
inductive Event where
  | tick (ms : Nat)
  | hostExits (host code : Nat)
  | startReset
  | startSpawn (env : Environment)
  | stopRequest
  | stopKill (dies : Bool)
  | stopJoin
  | restartReset
  | restartKill (dies : Bool)
  | restartCheck
  | restartSpawn (env : Environment)
  | monitor (env : Environment)
deriving DecidableEq

def step (state : State) : Event → Option State
  | .tick ms => some { state with now := state.now + ms }
  | .hostExits host code => if Live state host then some (exitHost state host code) else none
  | .startReset =>
    if state.controller = .idle ∧ state.monitor = .off then
      some { state with
        stopRequested := false
        halted := false
        consecutiveFastExits := 0
        attachedToExisting := false
        controller := .starting }
    else none
  | .startSpawn env =>
    if state.controller = .starting then
      let result := spawn env state
      some { result.2 with
        controller := .idle
        monitor := if result.1 then .head else .off
        backoffMs := kBackoffStartMs }
    else none
  | .stopRequest =>
    if state.controller = .idle then
      some { state with stopRequested := true, controller := .stopKill }
    else none
  | .stopKill dies =>
    if state.controller = .stopKill then some { kill dies state with controller := .stopJoin }
    else none
  | .stopJoin =>
    if state.controller = .stopJoin ∧ state.monitor = .off then
      some { state with halted := false, consecutiveFastExits := 0, controller := .idle }
    else none
  | .restartReset =>
    some { state with
      halted := false
      consecutiveFastExits := 0
      restartsToKill := state.restartsToKill + 1 }
  | .restartKill dies =>
    if state.restartsToKill = 0 then none
    else some { kill dies state with
      restartsToKill := state.restartsToKill - 1
      restartsToCheck := state.restartsToCheck + 1 }
  | .restartCheck =>
    if state.restartsToCheck = 0 then none
    else some { state with
      restartsToCheck := state.restartsToCheck - 1
      restartsToSpawn := if state.stopRequested then state.restartsToSpawn
        else state.restartsToSpawn + 1 }
  | .restartSpawn env =>
    if state.restartsToSpawn = 0 then none
    else some { (spawn env state).2 with restartsToSpawn := state.restartsToSpawn - 1 }
  | .monitor env => monitorStep env state

end PairDriver.Supervisor
