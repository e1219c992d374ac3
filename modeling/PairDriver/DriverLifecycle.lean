/-
This file models the life of the driver's modules: `Init`, which activates the
modules, starts a pipe server for each feature and injects the hooks, `Cleanup`,
which shuts the modules down before it stops the servers, and the server threads,
each of which serves one request at a time by going through the active modules.

The controller and the threads interleave freely. A thread goes through the list
of modules it saw when the request came in, as a range-based loop does. What goes
wrong is the window between the shutdown of a module and the end of its list, and
an injection that fails after modules were activated; in runs without these two a
module is only ever handed a request while it is ready. The last section runs
both.
-/

import PairDriver.Machine

namespace PairDriver.Lifecycle

/-! ### Features -/

inductive Feature where
  | calibration
  | smoothing
  | inputHealth
  | faceTracking
  | oscRouter
  | captions
deriving DecidableEq

/-- The bit of a feature. -/
def Feature.mask : Feature → Nat
  | .calibration => 1
  | .smoothing => 2
  | .inputHealth => 4
  | .faceTracking => 8
  | .oscRouter => 16
  | .captions => 32

/-- The order in which `Init` activates the modules. -/
def moduleOrder : List Feature :=
  [.oscRouter, .calibration, .smoothing, .inputHealth, .faceTracking, .captions]

/-- The order in which `Init` starts the servers, and stops them when it fails. -/
def serverOrder : List Feature :=
  [.calibration, .smoothing, .inputHealth, .faceTracking, .oscRouter, .captions]

theorem mask_and_eq_zero {first second : Feature} :
    first.mask &&& second.mask = 0 ↔ first ≠ second := by
  cases first <;> cases second <;> decide

theorem mem_serverOrder (server : Feature) : server ∈ serverOrder := by
  cases server <;> decide

/-! ### State -/

/-- What has happened to the module of a feature last. -/
inductive Status where
  | fresh
  | ready
  | shutDown
deriving DecidableEq

/-- A server thread, with the modules its request has still to go through. -/
inductive Thread where
  | absent
  | waiting
  | serving (rest : List Feature)
deriving DecidableEq

/-- Where the thread that calls `Init` and `Cleanup` is, with what is left of the loop it is in. -/
inductive Control where
  | idle
  | activating (rest : List Feature)
  | starting (rest : List Feature)
  | injecting
  | undoing (rest : List Feature)
  | failed
  | running
  | shuttingDown (rest : List Feature)
  | stopping (rest : List Feature)
deriving DecidableEq

structure State where
  featureFlags : Nat := 0
  control : Control := .idle
  activeModules : List Feature := []
  status : Feature → Status := fun _ => .fresh
  stop : Feature → Bool := fun _ => false
  threads : Feature → Thread := fun _ => .absent

/-- Calls, the next step of the controller with the result of what it calls there, and the steps of
the server threads: a message comes in, the loop over the modules goes on, the thread ends. -/
inductive Event where
  | init (featureFlags : Nat)
  | cleanup
  | advance (success : Bool)
  | receive (server : Feature) (handshake : Bool)
  | handle (server : Feature) (answered : Bool)
  | exit (server : Feature)

/-! ### The controller -/

/-- `activateModule` for a module that was built or not. -/
def activate (built : Feature → Bool) (success : Bool) (feature : Feature) (state : State) : State :=
  if built feature && state.featureFlags &&& feature.mask ≠ 0 && success then
    { state with
      activeModules := state.activeModules ++ [feature]
      status := Function.update state.status feature .ready }
  else state

/-- A new server for a feature that is flagged, with its thread. -/
def startServer (feature : Feature) (state : State) : State :=
  if state.featureFlags &&& feature.mask ≠ 0 then
    { state with
      stop := Function.update state.stop feature false
      threads := Function.update state.threads feature .waiting }
  else state

/-- `IPCServer::Stop` in a loop over servers: the flag is set, then the thread is joined. -/
def stopServer (server : Feature) (control : Control) (state : State) : Option State :=
  if state.stop server then
    if state.threads server = .absent then some { state with control := control } else none
  else some { state with stop := Function.update state.stop server true }

def advance (built : Feature → Bool) (success : Bool) (state : State) : Option State :=
  match state.control with
  | .activating (feature :: rest) =>
    some { activate built success feature state with control := .activating rest }
  | .activating [] => some { state with control := .starting serverOrder }
  | .starting (feature :: rest) =>
    some { startServer feature state with control := .starting rest }
  | .starting [] => some { state with control := .injecting }
  | .injecting => some { state with control := if success then .running else .undoing serverOrder }
  | .undoing (server :: rest) => stopServer server (.undoing rest) state
  | .undoing [] => some { state with control := .failed }
  | .shuttingDown (feature :: rest) =>
    some { state with
      status := Function.update state.status feature .shutDown
      control := .shuttingDown rest }
  | .shuttingDown [] =>
    some { state with activeModules := [], control := .stopping serverOrder.reverse }
  | .stopping (server :: rest) => stopServer server (.stopping rest) state
  | .stopping [] => some { state with control := .idle }
  | .idle | .failed | .running => none

/-! ### The server threads -/

/-- `HandleIpcRequest` goes on with its loop. -/
def handle (server : Feature) (answered : Bool) : Thread → Option Thread
  | .serving [] => some .waiting
  | .serving (feature :: rest) =>
    if feature.mask &&& server.mask = 0 then some (.serving rest)
    else if answered then some .waiting
    else some (.serving rest)
  | .absent | .waiting => none

def State.setThread (state : State) (server : Feature) (thread : Thread) : State :=
  { state with threads := Function.update state.threads server thread }

def step (built : Feature → Bool) (state : State) : Event → Option State
  | .init featureFlags =>
    if state.control = .idle ∨ state.control = .failed then
      some { state with
        featureFlags := featureFlags
        activeModules := []
        control := .activating moduleOrder }
    else none
  | .cleanup =>
    if state.control = .running ∨ state.control = .failed then
      some { state with control := .shuttingDown state.activeModules.reverse }
    else none
  | .advance success => advance built success state
  | .receive server handshake =>
    if state.threads server = .waiting then
      some (if handshake then state else state.setThread server (.serving state.activeModules))
    else none
  | .handle server answered =>
    (handle server answered (state.threads server)).map (state.setThread server)
  | .exit server =>
    if state.threads server = .waiting then some (state.setThread server .absent) else none

/-- The module whose `HandleRequest` a step invokes. -/
def invoked (state : State) : Event → Option Feature
  | .handle server _ =>
    match state.threads server with
    | .serving (feature :: _) =>
      if feature.mask &&& server.mask = 0 then none else some feature
    | _ => none
  | _ => none

/-! ### The condition -/

/-- The server of a module is about to hand it a request. -/
def State.aboutToHandle (state : State) (feature : Feature) : Bool :=
  match state.threads feature with
  | .serving rest => feature ∈ rest
  | _ => false

/-- The condition on a step. The injection succeeds, unless no module is active. A module is shut
down when its server is not about to hand it a request, and its server takes no request, other than
a handshake, while the module is shut down and still in the list. -/
def orderly (state : State) : Event → Bool
  | .advance success =>
    match state.control with
    | .injecting => success || state.activeModules.isEmpty
    | .shuttingDown (feature :: _) => !state.aboutToHandle feature
    | _ => true
  | .receive server handshake =>
    handshake || !(state.status server = .shutDown && state.activeModules.contains server)
  | _ => true

def Orderly (state : State) (event : Event) : Prop :=
  orderly state event = true

instance (state : State) (event : Event) : Decidable (Orderly state event) :=
  inferInstanceAs (Decidable (_ = _))

/-! ### The invariant -/

/-- No server thread is left. -/
def State.Quiet (state : State) : Prop :=
  ∀ server, state.threads server = .absent

/-- What the place of the controller says about modules and threads. -/
def ControlSound (state : State) : Control → Prop
  | .idle | .failed => state.activeModules = [] ∧ state.Quiet
  | .activating _ => state.Quiet
  | .starting _ | .injecting | .running => True
  | .undoing rest | .stopping rest =>
    state.activeModules = [] ∧ ∀ server, server ∉ rest → state.threads server = .absent
  | .shuttingDown rest => ∀ feature, state.status feature = .ready → feature ∈ rest

structure Sound (state : State) : Prop where
  ready_active : ∀ feature, state.status feature = .ready → feature ∈ state.activeModules
  active_known : ∀ feature ∈ state.activeModules, state.status feature ≠ .fresh
  serving_ready : ∀ server rest, state.threads server = .serving rest → server ∈ rest →
    state.status server = .ready
  control_sound : ControlSound state state.control

theorem sound_initial : Sound {} where
  ready_active := by
    intro feature ready
    cases ready
  active_known := List.forall_mem_nil _
  serving_ready := by
    intro server rest serving
    cases serving
  control_sound := ⟨rfl, fun _ => rfl⟩

/-- A step of the controller that moves on and touches neither modules nor threads. -/
theorem Sound.move {state : State} (sound : Sound state) {stop : Feature → Bool} {control : Control}
    (there : ControlSound state control) :
    Sound { state with stop := stop, control := control } where
  ready_active := sound.ready_active
  active_known := sound.active_known
  serving_ready := sound.serving_ready
  control_sound := by
    cases control <;> exact there

theorem Sound.stopServer {state after : State} (sound : Sound state) {server : Feature}
    {rest : List Feature} (control : Control)
    (here : ControlSound state (.undoing (server :: rest)))
    (left : (∀ other, other ∉ rest → state.threads other = .absent) → ControlSound state control)
    (stopped : stopServer server control state = some after) : Sound after := by
  unfold Lifecycle.stopServer at stopped
  split at stopped
  · split at stopped
    · rename_i joined
      obtain rfl := Option.some.inj stopped
      refine sound.move (left ?_)
      intro other gone
      by_cases same : other = server
      · rw [same]
        exact joined
      · exact here.2 other (by rw [List.mem_cons, not_or]; exact ⟨same, gone⟩)
    · cases stopped
  · obtain rfl := Option.some.inj stopped
    exact sound.move sound.control_sound

theorem update_ne_fresh {status : Feature → Status} {feature other : Feature} {value : Status}
    (written : value ≠ .fresh) (known : other ≠ feature → status other ≠ .fresh) :
    Function.update status feature value other ≠ .fresh := by
  by_cases same : other = feature
  · rw [same, Function.update_self]
    exact written
  · rw [Function.update_of_ne same]
    exact known same

theorem ready_of_update_shutDown {status : Feature → Status} {feature other : Feature}
    (ready : Function.update status feature .shutDown other = .ready) :
    other ≠ feature ∧ status other = .ready := by
  by_cases same : other = feature
  · rw [same, Function.update_self] at ready
    cases ready
  · rw [Function.update_of_ne same] at ready
    exact ⟨same, ready⟩

theorem Sound.activate {state : State} (sound : Sound state) (quiet : state.Quiet)
    (built : Feature → Bool) (success : Bool) (feature : Feature) (rest : List Feature) :
    Sound { activate built success feature state with control := .activating rest } := by
  unfold Lifecycle.activate
  split
  · refine ⟨?_, ?_, ?_, quiet⟩
    · intro other ready
      dsimp only at ready ⊢
      rw [List.mem_append, List.mem_singleton]
      by_cases same : other = feature
      · exact Or.inr same
      · rw [Function.update_of_ne same] at ready
        exact Or.inl (sound.ready_active other ready)
    · intro other member
      refine update_ne_fresh Status.noConfusion fun different => ?_
      rcases List.mem_append.mp member with before | last
      · exact sound.active_known other before
      · exact absurd (List.mem_singleton.mp last) different
    · intro server rest serving
      dsimp only at serving
      rw [quiet server] at serving
      cases serving
  · exact sound.move quiet

theorem Sound.startServer {state : State} (sound : Sound state) (feature : Feature)
    (rest : List Feature) :
    Sound { startServer feature state with control := .starting rest } := by
  unfold Lifecycle.startServer
  split
  · refine ⟨sound.ready_active, sound.active_known, ?_, trivial⟩
    intro server rest serving
    dsimp only at serving
    by_cases same : server = feature
    · rw [same, Function.update_self] at serving
      cases serving
    · rw [Function.update_of_ne same] at serving
      exact sound.serving_ready server rest serving
  · exact sound.move trivial

theorem Sound.shutDown {state : State} (sound : Sound state) {feature : Feature}
    {rest : List Feature}
    (here : ∀ other, state.status other = .ready → other ∈ feature :: rest)
    (idle : ∀ waiting, state.threads feature = .serving waiting → feature ∉ waiting) :
    Sound { state with
      status := Function.update state.status feature .shutDown
      control := .shuttingDown rest } where
  ready_active := fun other ready =>
    sound.ready_active other (ready_of_update_shutDown ready).2
  active_known := fun other member =>
    update_ne_fresh Status.noConfusion fun _ => sound.active_known other member
  serving_ready := by
    intro server waiting serving member
    have different : server ≠ feature := by
      rintro rfl
      exact idle waiting serving member
    show Function.update state.status feature .shutDown server = .ready
    rw [Function.update_of_ne different]
    exact sound.serving_ready server waiting serving member
  control_sound := by
    intro other ready
    obtain ⟨different, before⟩ := ready_of_update_shutDown ready
    exact (List.mem_cons.mp (here other before)).resolve_left different

theorem Sound.clear {state : State} (sound : Sound state)
    (none : ∀ feature, state.status feature ≠ .ready) (stops : List Feature)
    (all : ∀ server, server ∈ stops) :
    Sound { state with activeModules := [], control := .stopping stops } where
  ready_active := fun feature ready => absurd ready (none feature)
  active_known := List.forall_mem_nil _
  serving_ready := sound.serving_ready
  control_sound := ⟨rfl, fun server gone => absurd (all server) gone⟩

theorem Sound.advance {state after : State} (sound : Sound state) {built : Feature → Bool}
    {success : Bool} (met : Orderly state (.advance success))
    (stepped : advance built success state = some after) : Sound after := by
  have here := sound.control_sound
  unfold Orderly orderly at met
  unfold Lifecycle.advance at stepped
  cases at_ : state.control with
  | idle | failed | running =>
    rw [at_] at stepped
    cases stepped
  | activating rest =>
    rw [at_] at stepped here
    cases rest with
    | nil =>
      obtain rfl := Option.some.inj stepped
      exact sound.move trivial
    | cons feature rest =>
      obtain rfl := Option.some.inj stepped
      exact sound.activate here built success feature rest
  | starting rest =>
    rw [at_] at stepped
    cases rest with
    | nil =>
      obtain rfl := Option.some.inj stepped
      exact sound.move trivial
    | cons feature rest =>
      obtain rfl := Option.some.inj stepped
      exact sound.startServer feature rest
  | injecting =>
    rw [at_] at stepped met
    obtain rfl := Option.some.inj stepped
    cases success with
    | true => exact sound.move trivial
    | false =>
      have none : state.activeModules = [] := by simpa using met
      exact sound.move ⟨none, fun server gone => absurd (mem_serverOrder server) gone⟩
  | undoing rest =>
    rw [at_] at stepped here
    cases rest with
    | nil =>
      obtain rfl := Option.some.inj stepped
      exact sound.move ⟨here.1, fun server => here.2 server List.not_mem_nil⟩
    | cons server rest =>
      exact sound.stopServer (.undoing rest) here (fun joined => ⟨here.1, joined⟩) stepped
  | shuttingDown rest =>
    rw [at_] at stepped here met
    cases rest with
    | nil =>
      obtain rfl := Option.some.inj stepped
      refine sound.clear (fun feature ready => List.not_mem_nil (here feature ready)) _ ?_
      intro server
      exact List.mem_reverse.mpr (mem_serverOrder server)
    | cons feature rest =>
      obtain rfl := Option.some.inj stepped
      refine sound.shutDown here ?_
      intro waiting serving member
      simp [State.aboutToHandle, serving, member] at met
  | stopping rest =>
    rw [at_] at stepped here
    cases rest with
    | nil =>
      obtain rfl := Option.some.inj stepped
      exact sound.move ⟨here.1, fun server => here.2 server List.not_mem_nil⟩
    | cons server rest =>
      exact sound.stopServer (.stopping rest) here (fun joined => ⟨here.1, joined⟩) stepped

/-- A thread that is there may move on, as long as it is not about to hand a request to a module that
is not ready. -/
theorem Sound.setThread {state : State} (sound : Sound state) {server : Feature} {thread : Thread}
    (alive : state.threads server ≠ .absent)
    (safe : ∀ rest, thread = .serving rest → server ∈ rest → state.status server = .ready) :
    Sound (state.setThread server thread) := by
  have kept : ∀ other, state.threads other = .absent →
      (state.setThread server thread).threads other = .absent := by
    intro other absent
    have different : other ≠ server := by
      rintro rfl
      exact alive absent
    show Function.update state.threads server thread other = .absent
    rw [Function.update_of_ne different]
    exact absent
  have here := sound.control_sound
  refine ⟨sound.ready_active, sound.active_known, ?_, ?_⟩
  · intro other rest serving member
    by_cases same : other = server
    · subst same
      exact safe rest (Function.update_self other thread state.threads ▸ serving) member
    · exact sound.serving_ready other rest
        (Function.update_of_ne same thread state.threads ▸ serving) member
  · show ControlSound (state.setThread server thread) state.control
    cases at_ : state.control with
    | idle | failed =>
      rw [at_] at here
      exact ⟨here.1, fun other => kept other (here.2 other)⟩
    | activating rest =>
      rw [at_] at here
      exact fun other => kept other (here other)
    | starting _ | injecting | running => trivial
    | undoing rest | stopping rest =>
      rw [at_] at here
      exact ⟨here.1, fun other gone => kept other (here.2 other gone)⟩
    | shuttingDown rest =>
      rw [at_] at here
      exact here

theorem handle_rest {server : Feature} {answered : Bool} {before after : Thread}
    (handled : handle server answered before = some after) :
    before ≠ .absent ∧ ∀ rest, after = .serving rest →
      ∃ feature, before = .serving (feature :: rest) := by
  cases before with
  | absent | waiting => cases handled
  | serving modules =>
    refine ⟨Thread.noConfusion, ?_⟩
    rintro rest rfl
    cases modules with
    | nil => cases handled
    | cons feature later =>
      rw [handle] at handled
      split at handled
      · obtain rfl := Thread.serving.inj (Option.some.inj handled)
        exact ⟨feature, rfl⟩
      · split at handled
        · cases handled
        · obtain rfl := Thread.serving.inj (Option.some.inj handled)
          exact ⟨feature, rfl⟩

/-- Before and after every life of the driver no module is active and no thread is left. -/
theorem Sound.ended {state : State} (sound : Sound state)
    (ended : state.control = .idle ∨ state.control = .failed) :
    state.activeModules = [] ∧ state.Quiet := by
  have here := sound.control_sound
  rcases ended with idle | failed
  · rw [idle] at here
    exact here
  · rw [failed] at here
    exact here

theorem Sound.not_ready {state : State} (sound : Sound state) (none : state.activeModules = [])
    (feature : Feature) : state.status feature ≠ .ready := by
  intro ready
  have member := sound.ready_active feature ready
  rw [none] at member
  exact List.not_mem_nil member

theorem sound_step {built : Feature → Bool} {state after : State} {event : Event}
    (sound : Sound state) (met : Orderly state event)
    (stepped : step built state event = some after) : Sound after := by
  cases event with
  | init featureFlags =>
    rw [step] at stepped
    split at stepped
    · rename_i ended
      obtain rfl := Option.some.inj stepped
      obtain ⟨none, quiet⟩ := sound.ended ended
      exact ⟨fun feature ready => absurd ready (sound.not_ready none feature),
        List.forall_mem_nil _, sound.serving_ready, quiet⟩
    · cases stepped
  | cleanup =>
    rw [step] at stepped
    split at stepped
    · obtain rfl := Option.some.inj stepped
      refine sound.move fun feature ready => ?_
      exact List.mem_reverse.mpr (sound.ready_active feature ready)
    · cases stepped
  | advance success => exact sound.advance met stepped
  | receive server handshake =>
    rw [step] at stepped
    split at stepped
    · rename_i waiting
      obtain rfl := Option.some.inj stepped
      cases handshake with
      | true => exact sound
      | false =>
        refine sound.setThread (by rw [waiting]; exact Thread.noConfusion) ?_
        intro rest serving member
        obtain rfl := Thread.serving.inj serving
        cases status : state.status server with
        | ready => rfl
        | fresh => exact absurd status (sound.active_known server member)
        | shutDown => simp [Orderly, orderly, status, member] at met
    · cases stepped
  | handle server answered =>
    obtain ⟨thread, handled, rfl⟩ := Option.map_eq_some_iff.mp stepped
    obtain ⟨alive, rest⟩ := handle_rest handled
    refine sound.setThread alive ?_
    intro left serving member
    obtain ⟨feature, before⟩ := rest left serving
    exact sound.serving_ready server _ before (List.mem_cons_of_mem feature member)
  | exit server =>
    rw [step] at stepped
    split at stepped
    · rename_i waiting
      obtain rfl := Option.some.inj stepped
      refine sound.setThread (by rw [waiting]; exact Thread.noConfusion) ?_
      intro rest serving
      cases serving
    · cases stepped

theorem sound_of_reaches {built : Feature → Bool} {state : State}
    (reached : Reaches (step built) Orderly {} state) : Sound state :=
  reached.invariant sound_initial fun _ _ _ sound met stepped => sound_step sound met stepped

/-- A server hands requests to the module of its own feature only. -/
theorem invoked_serving {state : State} {event : Event} {feature : Feature}
    (invokes : invoked state event = some feature) :
    ∃ rest, state.threads feature = .serving (feature :: rest) := by
  cases event with
  | handle server answered =>
    rw [invoked] at invokes
    split at invokes
    · rename_i first rest serving
      split at invokes
      · cases invokes
      · rename_i matched
        obtain rfl := Option.some.inj invokes
        obtain rfl : first = server := by
          by_contra different
          exact matched (mask_and_eq_zero.mpr different)
        exact ⟨rest, serving⟩
    · cases invokes
  | init _ | cleanup | advance _ | receive _ _ | exit _ => cases invokes

/-- The life cycle of the modules, over every orderly run: a module is handed a request only between
its successful `Init` and its `Shutdown`; and when `Init` has returned an error, no module is left
that was initialised and not shut down, and no server thread is running. -/
theorem lifecycle_orderly {built : Feature → Bool} {state : State}
    (reached : Reaches (step built) Orderly {} state) :
    (∀ event feature, invoked state event = some feature → state.status feature = .ready) ∧
    (state.control = .failed → (∀ feature, state.status feature ≠ .ready) ∧
      ∀ server, state.threads server = .absent) := by
  have sound := sound_of_reaches reached
  refine ⟨?_, ?_⟩
  · intro event feature invokes
    obtain ⟨rest, serving⟩ := invoked_serving invokes
    exact sound.serving_ready feature _ serving List.mem_cons_self
  · intro failed
    obtain ⟨none, quiet⟩ := sound.ended (Or.inr failed)
    exact ⟨sound.not_ready none, quiet⟩

/-! ### Runs -/

/-- `Init` with only the captions module flagged, up to the injection of the hooks. -/
def captionsInit : List Event :=
  .init 32 :: (List.replicate 14 (Event.advance true))

/-- A request for the captions module is handled while the driver is running. -/
theorem lifecycle_orderly_request : ∃ state,
    Reaches (step fun _ => true) Orderly {} state ∧
    invoked state (.handle .captions true) = some .captions ∧ state.status .captions = .ready := by
  obtain ⟨state, reached, invokes⟩ : ∃ state,
      Reaches (step fun _ => true) Orderly {} state ∧
      invoked state (.handle .captions true) = some .captions :=
    reaches_evaluates (captionsInit ++ [Event.advance true, .receive .captions false])
      (by decide +kernel)
  exact ⟨state, reached, invokes, (lifecycle_orderly reached).1 _ _ invokes⟩

/-- A request that comes in after `Cleanup` has shut the captions module down is handed to it all the
same. When the injection fails, `Init` returns with the module initialised and never shut down. -/
theorem request_after_shutdown :
    (∃ state, run (step fun _ => true) {}
        (captionsInit ++ [Event.advance true, .cleanup, .advance true, .receive .captions false]) =
          some state ∧
      invoked state (.handle .captions true) = some .captions ∧
      state.status .captions = .shutDown) ∧
    ∃ state, run (step fun _ => true) {}
        (captionsInit ++ Event.advance false :: List.replicate 10 (.advance true) ++
          [Event.advance true, .exit .captions, .advance true, .advance true]) = some state ∧
      state.control = .failed ∧ state.status .captions = .ready := by
  exact ⟨run_evaluates (by decide +kernel), run_evaluates (by decide +kernel)⟩

end PairDriver.Lifecycle
