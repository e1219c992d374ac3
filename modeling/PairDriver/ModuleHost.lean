/-
This file models the subprocess manager of the face module host. One loop starts a
subprocess for the selected module, takes it through handshake, capabilities and
initialization, and then publishes the last update that arrived at the rate of its
own clock; the pipe thread changes the selection at any time, and the datagrams of
all subprocesses, living and gone, arrive on one socket in any order.

The handler of the socket does not look at who sent an update. The buffer it fills
is emptied when a run begins, so a frame carries the data of its own module as long
as no update of another module arrives between that moment and the end of the run.
-/

import PairDriver.Bytes
import PairDriver.Machine

namespace PairDriver.ModuleHost

/-! ### Modules -/

/-- The bytes of a text in UTF-8. -/
abbrev Text := List UInt8

def fnv1a64 (text : Text) : UInt64 :=
  text.foldl (fun hash byte => (hash ^^^ byte.toUInt64) * 1099511628211) 14695981039346656037

/-- A discovered module. `identity` tells the objects of two discoveries apart, which the loop
compares by reference. -/
structure DiscoveredModule where
  uuid : Text
  moduleDllPath : Text
  uuidHash : UInt64
  identity : Nat
  hash_eq : uuidHash = fnv1a64 uuid
deriving DecidableEq

def DiscoveredModule.ofManifest (uuid moduleDllPath : Text) (identity : Nat) :
    DiscoveredModule where
  uuid := uuid
  moduleDllPath := moduleDllPath
  uuidHash := fnv1a64 uuid
  identity := identity
  hash_eq := rfl

/-- What a scan of the install directory makes of the manifests it can read. -/
def discover (next : Nat) : List (Text × Text) → List DiscoveredModule
  | [] => []
  | (uuid, path) :: rest => .ofManifest uuid path next :: discover (next + 1) rest

/-! ### Packets -/

section Host

variable {Number : Type}

/-- What the host reads of the decoded data of an update. -/
structure Update (Number : Type) where
  expressionShapes : Option (List Number)
  leftOpenness : Number
  rightOpenness : Number

structure InitReply where
  eyeSuccess : Bool
  expressionSuccess : Bool

inductive Packet (Number : Type) where
  | handshake
  | replyGetSupported
  | replyInit (reply : InitReply)
  | replyUpdate (update : Update Number)
  | replyTeardown
  | eventLog

/-- A datagram on its way. The port tells the sender, and `source` is the module its subprocess was
started for; the host only sees the port. -/
structure Datagram (Number : Type) where
  port : Nat
  source : DiscoveredModule
  packet : Packet Number

/-! ### State -/

/-- A value of a frame with the module it was received from; none for the zero it starts with. -/
structure Sourced (Number : Type) where
  value : Number
  source : Option DiscoveredModule

structure EyeFrameSink (Number : Type) where
  leftOpenness : Sourced Number
  rightOpenness : Sourced Number

/-- What a frame carries of a module. `shapesSource` is recorded for the specification only. -/
structure Frame (Number : Type) where
  uuidHash : UInt64
  shapes : List Number
  shapesSource : DiscoveredModule
  eye : EyeFrameSink Number
  init : InitReply

/-- The modules whose subprocesses sent what is in a frame. -/
def Frame.sources (frame : Frame Number) : List DiscoveredModule :=
  frame.shapesSource :: (frame.eye.leftOpenness.source.toList ++
    frame.eye.rightOpenness.source.toList)

structure Subprocess where
  module : DiscoveredModule
  exited : Bool

/-- A subprocess the loop works with; its number is its place in the list of all that were
started. -/
structure Running where
  module : DiscoveredModule
  number : Nat

/-- Where the loop stands. In `pulling` it is about to test whether it goes on, in `delaying` it has
asked for an update and waits. -/
inductive Phase (Number : Type) where
  | idle
  | spawning (module : DiscoveredModule)
  | waitingForHandshake (running : Running)
  | queryingCapabilities (running : Running)
  | initializing (running : Running)
  | pulling (running : Running) (init : InitReply) (eye : EyeFrameSink Number)
  | delaying (running : Running) (init : InitReply) (eye : EyeFrameSink Number)
  | tearingDown (running : Running)

/-- The host, the subprocesses it has started and the datagrams on their way. -/
structure Host (Number : Type) where
  activeModule : Option DiscoveredModule := none
  nextIdentity : Nat := 0
  breakerUuid : Option Text := none
  breakerCount : Nat := 0
  handshake : Bool := false
  supported : Bool := false
  init : Option InitReply := none
  teardown : Bool := false
  latestUpdate : Option (DiscoveredModule × Update Number) := none
  activePort : Option Nat := none
  phase : Phase Number := .idle
  subprocesses : List Subprocess := []
  inFlight : List (Datagram Number) := []
  published : List (Frame Number) := []

def crashHaltThreshold : Nat := 3

/-! ### The pipe thread and the socket -/

/-- `SelectActive`, with the manifests its scan reads; the uuid is none when it is null or white
space. -/
def Host.selectActive (uuid : Option Text) (manifests : List (Text × Text)) (host : Host Number) :
    Host Number :=
  match uuid with
  | none => { host with activeModule := none, breakerUuid := none, breakerCount := 0 }
  | some uuid =>
    let loaded := discover host.nextIdentity manifests
    let nextIdentity := host.nextIdentity + manifests.length
    match loaded.find? fun module => module.uuid = uuid with
    | none => { host with
        nextIdentity := nextIdentity
        activeModule := if host.activeModule.any fun module => module.uuid = uuid then none
          else host.activeModule }
    | some module => { host with
        nextIdentity := nextIdentity
        activeModule := some module
        breakerUuid := if host.breakerUuid = some uuid then none else host.breakerUuid
        breakerCount := if host.breakerUuid = some uuid then 0 else host.breakerCount }

/-- `OnServerPacket`. A completion source keeps the first result it is given. -/
def Host.onServerPacket (datagram : Datagram Number) (host : Host Number) : Host Number :=
  match datagram.packet with
  | .handshake => { host with activePort := some datagram.port, handshake := true }
  | .replyGetSupported => { host with supported := true }
  | .replyInit reply => { host with init := host.init <|> some reply }
  | .replyUpdate update => { host with latestUpdate := some (datagram.source, update) }
  | .replyTeardown => { host with teardown := true }
  | .eventLog => host

/-! ### The loop -/

/-- The top of `RunActiveAsync` and the reset `SpawnAndRunCoreAsync` begins with. -/
def Host.begin (host : Host Number) : Host Number :=
  match host.activeModule with
  | none => host
  | some module =>
    if host.breakerUuid = some module.uuid ∧ crashHaltThreshold ≤ host.breakerCount then
      { host with activeModule := none }
    else { host with
      handshake := false
      supported := false
      init := none
      teardown := false
      latestUpdate := none
      phase := .spawning module }

def upstreamShapeCount : Nat := 88

variable [Zero Number] [DecidableEq Number] (kInvalid : Number) (isFinite : Number → Bool)

def EyeFrameSink.fresh : EyeFrameSink Number where
  leftOpenness := ⟨0, none⟩
  rightOpenness := ⟨0, none⟩

/-- The array of the run, cleared and filled from an update. -/
def upstreamShapes (update : Update Number) : List Number :=
  let shapes := (update.expressionShapes.getD []).take upstreamShapeCount
  shapes ++ List.replicate (upstreamShapeCount - shapes.length) 0

def Sourced.read (source : DiscoveredModule) (openness : Number) (held : Sourced Number) :
    Sourced Number :=
  if openness = kInvalid then held else ⟨openness, some source⟩

def EyeFrameSink.read (source : DiscoveredModule) (update : Update Number)
    (eye : EyeFrameSink Number) : EyeFrameSink Number where
  leftOpenness := eye.leftOpenness.read kInvalid source update.leftOpenness
  rightOpenness := eye.rightOpenness.read kInvalid source update.rightOpenness

def sanitizeNonFinite (value : Number) : Number :=
  if isFinite value then value else 0

def Sourced.sanitized (held : Sourced Number) : Sourced Number :=
  { held with value := sanitizeNonFinite isFinite held.value }

/-- `PublishAsync`. -/
def makeFrame (module source : DiscoveredModule) (init : InitReply) (update : Update Number)
    (eye : EyeFrameSink Number) : Frame Number where
  uuidHash := module.uuidHash
  shapes := (upstreamShapes update).map (sanitizeNonFinite isFinite)
  shapesSource := source
  eye := ⟨eye.leftOpenness.sanitized isFinite, eye.rightOpenness.sanitized isFinite⟩
  init := init

/-- The body of the pull loop after its delay. -/
def Host.snapshot (running : Running) (init : InitReply) (eye : EyeFrameSink Number)
    (host : Host Number) : Host Number :=
  match host.latestUpdate with
  | none => { host with phase := .pulling running init eye }
  | some (source, update) =>
    let read := eye.read kInvalid source update
    { host with
      phase := .pulling running init read
      published := makeFrame isFinite running.module source init update read :: host.published }

/-- The circuit breaker after a run. -/
def Host.recordLifetime (fast : Bool) (module : DiscoveredModule) (host : Host Number) :
    Host Number :=
  if fast then
    if host.breakerUuid = some module.uuid then { host with breakerCount := host.breakerCount + 1 }
    else { host with breakerUuid := some module.uuid, breakerCount := 1 }
  else if host.breakerUuid = some module.uuid then
    { host with breakerUuid := none, breakerCount := 0 }
  else host

/-- What the loop is serving a run for, from the reset of the run to the end of its pull loop. -/
def Phase.serving : Phase Number → Option DiscoveredModule
  | .idle | .tearingDown _ => none
  | .spawning module => some module
  | .waitingForHandshake running | .queryingCapabilities running | .initializing running
  | .pulling running _ _ | .delaying running _ _ => some running.module

/-- The subprocess of a phase inside the `try` of `SpawnAndRunCoreAsync`. -/
def Phase.running : Phase Number → Option Running
  | .idle | .spawning _ | .tearingDown _ => none
  | .waitingForHandshake running | .queryingCapabilities running | .initializing running
  | .pulling running _ _ | .delaying running _ _ => some running

def markExited (number : Nat) (subprocesses : List Subprocess) : List Subprocess :=
  subprocesses.modify number fun subprocess => { subprocess with exited := true }

/-! ### Steps -/

/-- The pipe thread selects; a subprocess sends a datagram or exits; the network delivers a datagram
or loses it. The other events are of the loop: it begins a run, starts the subprocess, goes on with
the answer it waited for, gives a run up on a timeout, an exception or a cancellation, tests whether
to pull once more, takes a snapshot of the last update, and ends a run. -/
inductive Event (Number : Type) where
  | select (uuid : Option Text) (manifests : List (Text × Text))
  | send (number : Nat) (packet : Packet Number)
  | exit (number : Nat)
  | deliver (index : Nat)
  | lose (index : Nat)
  | begin
  | spawn (started : Bool)
  | advance
  | giveUp
  | pull (moduleGone : Bool)
  | snapshot
  | tearDown (fast killed : Bool)

def Host.advance (host : Host Number) : Option (Host Number) :=
  match host.phase with
  | .waitingForHandshake running =>
    if host.handshake then some { host with phase := .queryingCapabilities running } else none
  | .queryingCapabilities running =>
    if host.supported then some { host with phase := .initializing running } else none
  | .initializing running =>
    match host.init with
    | some reply => some { host with phase := .pulling running reply .fresh }
    | none => none
  | _ => none

/-- The test of the pull loop. -/
def Host.pull (moduleGone : Bool) (running : Running) (init : InitReply)
    (eye : EyeFrameSink Number) (host : Host Number) : Host Number :=
  if host.subprocesses[running.number]?.any (·.exited) ∨ host.activeModule ≠ some running.module then
    { host with phase := .tearingDown running }
  else if moduleGone then { host with activeModule := none, phase := .tearingDown running }
  else { host with phase := .delaying running init eye }

def step (host : Host Number) : Event Number → Option (Host Number)
  | .select uuid manifests => some (host.selectActive uuid manifests)
  | .send number packet =>
    match host.subprocesses[number]? with
    | some subprocess =>
      if subprocess.exited then none
      else some { host with inFlight := host.inFlight ++ [⟨number, subprocess.module, packet⟩] }
    | none => none
  | .exit number => some { host with subprocesses := markExited number host.subprocesses }
  | .deliver index =>
    match host.inFlight[index]? with
    | some datagram => some ({ host with
        inFlight := host.inFlight.eraseIdx index }.onServerPacket datagram)
    | none => none
  | .lose index => some { host with inFlight := host.inFlight.eraseIdx index }
  | .begin =>
    match host.phase with
    | .idle => some host.begin
    | _ => none
  | .spawn started =>
    match host.phase with
    | .spawning module =>
      if started then some { host with
        subprocesses := host.subprocesses ++ [⟨module, false⟩]
        phase := .waitingForHandshake ⟨module, host.subprocesses.length⟩ }
      else some { host with phase := .idle }
    | _ => none
  | .advance => host.advance
  | .giveUp =>
    match host.phase.running with
    | some running => some { host with phase := .tearingDown running }
    | none => none
  | .pull moduleGone =>
    match host.phase with
    | .pulling running init eye => some (host.pull moduleGone running init eye)
    | _ => none
  | .snapshot =>
    match host.phase with
    | .delaying running init eye => some (host.snapshot kInvalid isFinite running init eye)
    | _ => none
  | .tearDown fast killed =>
    match host.phase with
    | .tearingDown running => some ({ host with
        subprocesses := if killed then markExited running.number host.subprocesses
          else host.subprocesses
        phase := .idle }.recordLifetime fast running.module)
    | _ => none

/-! ### Attribution -/

/-- An update that arrives while a run is served comes from a subprocess whose module has the hash
of the module served. -/
def Datagram.Expected (serving : Option DiscoveredModule) (datagram : Datagram Number) : Prop :=
  match datagram.packet with
  | .replyUpdate _ => ∀ module ∈ serving, datagram.source.uuidHash = module.uuidHash
  | _ => True

omit [Zero Number] [DecidableEq Number] in
instance (serving : Option DiscoveredModule) :
    DecidablePred (fun datagram : Datagram Number => datagram.Expected serving)
  | ⟨_, _, .replyUpdate _⟩ => inferInstanceAs (Decidable (∀ module ∈ serving, _))
  | ⟨_, _, .handshake⟩ | ⟨_, _, .replyGetSupported⟩ | ⟨_, _, .replyInit _⟩
  | ⟨_, _, .replyTeardown⟩ | ⟨_, _, .eventLog⟩ => inferInstanceAs (Decidable True)

def Attributed (host : Host Number) : Event Number → Prop
  | .deliver index => ∀ datagram ∈ host.inFlight[index]?, datagram.Expected host.phase.serving
  | _ => True

omit [Zero Number] [DecidableEq Number] in
instance (host : Host Number) (event : Event Number) : Decidable (Attributed host event) :=
  match event with
  | .deliver index => inferInstanceAs
      (Decidable (∀ datagram ∈ host.inFlight[index]?, datagram.Expected host.phase.serving))
  | .select _ _ | .send _ _ | .exit _ | .lose _ | .begin | .spawn _ | .advance | .giveUp | .pull _
  | .snapshot | .tearDown _ _ => inferInstanceAs (Decidable True)

/-- The eye values a phase holds. -/
def Phase.eye : Phase Number → Option (EyeFrameSink Number)
  | .pulling _ _ eye | .delaying _ _ eye => some eye
  | _ => none

def Sourced.Of (uuidHash : UInt64) (held : Sourced Number) : Prop :=
  ∀ source ∈ held.source, source.uuidHash = uuidHash

def EyeFrameSink.Of (uuidHash : UInt64) (eye : EyeFrameSink Number) : Prop :=
  eye.leftOpenness.Of uuidHash ∧ eye.rightOpenness.Of uuidHash

def Frame.Pure (frame : Frame Number) : Prop :=
  ∀ source ∈ frame.sources, source.uuidHash = frame.uuidHash

/-- While a run is served, the buffer and the eye values come from modules with its hash; and so
does every frame published. -/
structure Clean (host : Host Number) : Prop where
  latest : ∀ module ∈ host.phase.serving, ∀ update ∈ host.latestUpdate,
    update.1.uuidHash = module.uuidHash
  eye : ∀ module ∈ host.phase.serving, ∀ eye ∈ host.phase.eye, eye.Of module.uuidHash
  published : ∀ frame ∈ host.published, frame.Pure

omit [Zero Number] [DecidableEq Number] in
/-- A step that leaves the buffer, the frames and the run alone, or ends the run. -/
theorem Clean.frame {host after : Host Number} (clean : Clean host)
    (latest : after.latestUpdate = host.latestUpdate) (published : after.published = host.published)
    (serving : ∀ module ∈ after.phase.serving, module ∈ host.phase.serving)
    (eye : ∀ eye ∈ after.phase.eye, eye ∈ host.phase.eye) : Clean after := by
  refine ⟨fun module served update buffered => ?_, fun module served held member => ?_, ?_⟩
  · rw [latest] at buffered
    exact clean.latest module (serving module served) update buffered
  · exact clean.eye module (serving module served) held (eye held member)
  · rw [published]
    exact clean.published

omit [Zero Number] [DecidableEq Number] in
theorem Clean.samePhase {host after : Host Number} (clean : Clean host)
    (latest : after.latestUpdate = host.latestUpdate) (published : after.published = host.published)
    (phase : after.phase = host.phase) : Clean after := by
  refine clean.frame latest published (fun module served => ?_) fun held member => ?_
  · rw [phase] at served
    exact served
  · rw [phase] at member
    exact member

omit [Zero Number] [DecidableEq Number] in
theorem selectActive_clean {host : Host Number} (clean : Clean host) (uuid : Option Text)
    (manifests : List (Text × Text)) : Clean (host.selectActive uuid manifests) := by
  unfold Host.selectActive
  split
  · exact clean.samePhase rfl rfl rfl
  · dsimp only
    split
    · exact clean.samePhase rfl rfl rfl
    · exact clean.samePhase rfl rfl rfl

omit [Zero Number] [DecidableEq Number] in
theorem onServerPacket_clean {host : Host Number} (clean : Clean host) {datagram : Datagram Number}
    (expected : datagram.Expected host.phase.serving) : Clean (host.onServerPacket datagram) := by
  unfold Datagram.Expected at expected
  unfold Host.onServerPacket
  split
  · exact clean.samePhase rfl rfl rfl
  · exact clean.samePhase rfl rfl rfl
  · exact clean.samePhase rfl rfl rfl
  · rename_i update isUpdate
    rw [isUpdate] at expected
    refine ⟨fun module served buffered member => ?_, clean.eye, clean.published⟩
    obtain rfl := Option.some.inj member
    exact expected module served
  · exact clean.samePhase rfl rfl rfl
  · exact clean

omit [Zero Number] [DecidableEq Number] in
theorem begin_clean {host : Host Number} (clean : Clean host) : Clean host.begin := by
  unfold Host.begin
  split
  · exact clean
  · split
    · exact clean.samePhase rfl rfl rfl
    · exact ⟨nofun, nofun, clean.published⟩

omit [Zero Number] in
theorem Sourced.read_of {source : DiscoveredModule} {uuidHash : UInt64}
    (same : source.uuidHash = uuidHash) (openness : Number) {held : Sourced Number}
    (heldOf : held.Of uuidHash) : (held.read kInvalid source openness).Of uuidHash := by
  unfold Sourced.read
  split
  · exact heldOf
  · intro given member
    obtain rfl := Option.some.inj member
    exact same

omit [DecidableEq Number] in
theorem makeFrame_pure {module source : DiscoveredModule} (same : source.uuidHash = module.uuidHash)
    (init : InitReply) (update : Update Number) {eye : EyeFrameSink Number}
    (eyeOf : eye.Of module.uuidHash) :
    (makeFrame isFinite module source init update eye).Pure := by
  intro given member
  rcases List.mem_cons.mp member with rfl | member
  · exact same
  · rcases List.mem_append.mp member with left | right
    · exact eyeOf.1 given (Option.mem_toList.mp left)
    · exact eyeOf.2 given (Option.mem_toList.mp right)

theorem snapshot_clean {host : Host Number} {running : Running} {init : InitReply}
    {eye : EyeFrameSink Number} (clean : Clean host) (phase : host.phase = .delaying running init eye) :
    Clean (host.snapshot kInvalid isFinite running init eye) := by
  have served : running.module ∈ host.phase.serving := by
    rw [phase]
    rfl
  have eyeOf : eye.Of running.module.uuidHash := clean.eye running.module served eye (by
    rw [phase]
    rfl)
  unfold Host.snapshot
  split
  · refine clean.frame rfl rfl (fun module member => ?_) fun held member => ?_
    · obtain rfl := Option.some.inj member
      exact served
    · obtain rfl := Option.some.inj member
      rw [phase]
      rfl
  · rename_i source update buffered
    have same : source.uuidHash = running.module.uuidHash :=
      clean.latest running.module served (source, update) buffered
    have readOf : (eye.read kInvalid source update).Of running.module.uuidHash :=
      ⟨Sourced.read_of kInvalid same _ eyeOf.1, Sourced.read_of kInvalid same _ eyeOf.2⟩
    refine ⟨fun module member => ?_, fun module member held heldMember => ?_,
      fun frame member => ?_⟩
    · obtain rfl := Option.some.inj member
      exact clean.latest running.module served
    · obtain rfl := Option.some.inj member
      obtain rfl := Option.some.inj heldMember
      exact readOf
    · rcases List.mem_cons.mp member with rfl | earlier
      · exact makeFrame_pure isFinite same init update readOf
      · exact clean.published frame earlier

omit [DecidableEq Number] in
theorem advance_clean {host after : Host Number} (clean : Clean host)
    (advanced : host.advance = some after) : Clean after := by
  unfold Host.advance at advanced
  split at advanced
  · rename_i phase
    split at advanced
    · obtain rfl := Option.some.inj advanced
      refine clean.frame rfl rfl (fun module member => ?_) nofun
      rw [phase]
      exact member
    · cases advanced
  · rename_i phase
    split at advanced
    · obtain rfl := Option.some.inj advanced
      refine clean.frame rfl rfl (fun module member => ?_) nofun
      rw [phase]
      exact member
    · cases advanced
  · rename_i phase
    split at advanced
    · obtain rfl := Option.some.inj advanced
      refine ⟨fun module member => clean.latest module (by rw [phase]; exact member),
        fun module _ held heldMember => ?_, clean.published⟩
      obtain rfl := Option.some.inj heldMember
      exact ⟨nofun, nofun⟩
    · cases advanced
  · cases advanced

omit [Zero Number] [DecidableEq Number] in
theorem pull_clean {host : Host Number} {running : Running} {init : InitReply}
    {eye : EyeFrameSink Number} (clean : Clean host) (phase : host.phase = .pulling running init eye)
    (moduleGone : Bool) : Clean (host.pull moduleGone running init eye) := by
  unfold Host.pull
  split
  · exact clean.frame rfl rfl nofun nofun
  · split
    · exact clean.frame rfl rfl nofun nofun
    · refine clean.frame rfl rfl (fun module member => ?_) fun held member => ?_
      · rw [phase]
        exact member
      · rw [phase]
        exact member

omit [Zero Number] [DecidableEq Number] in
theorem recordLifetime_clean {host : Host Number} (clean : Clean host) (fast : Bool)
    (module : DiscoveredModule) : Clean (host.recordLifetime fast module) := by
  unfold Host.recordLifetime
  split
  · split
    · exact clean.samePhase rfl rfl rfl
    · exact clean.samePhase rfl rfl rfl
  · split
    · exact clean.samePhase rfl rfl rfl
    · exact clean

/-- One step of the host keeps every frame with the data of its own module. -/
theorem step_clean {host after : Host Number} {event : Event Number} (clean : Clean host)
    (attributed : Attributed host event)
    (stepped : step kInvalid isFinite host event = some after) : Clean after := by
  cases event with
  | select uuid manifests =>
    obtain rfl := Option.some.inj stepped
    exact selectActive_clean clean uuid manifests
  | send number packet =>
    dsimp only [step] at stepped
    split at stepped
    · split at stepped
      · cases stepped
      · obtain rfl := Option.some.inj stepped
        exact clean.samePhase rfl rfl rfl
    · cases stepped
  | exit number =>
    obtain rfl := Option.some.inj stepped
    exact clean.samePhase rfl rfl rfl
  | deliver index =>
    dsimp only [step] at stepped
    split at stepped
    · rename_i datagram found
      obtain rfl := Option.some.inj stepped
      have taken : Clean { host with inFlight := host.inFlight.eraseIdx index } :=
        clean.samePhase rfl rfl rfl
      exact onServerPacket_clean taken (attributed datagram found)
    · cases stepped
  | lose index =>
    obtain rfl := Option.some.inj stepped
    exact clean.samePhase rfl rfl rfl
  | begin =>
    dsimp only [step] at stepped
    split at stepped
    · obtain rfl := Option.some.inj stepped
      exact begin_clean clean
    · cases stepped
  | spawn started =>
    dsimp only [step] at stepped
    split at stepped
    · rename_i phase
      split at stepped
      · obtain rfl := Option.some.inj stepped
        refine clean.frame rfl rfl (fun module member => ?_) nofun
        rw [phase]
        exact member
      · obtain rfl := Option.some.inj stepped
        exact clean.frame rfl rfl nofun nofun
    · cases stepped
  | advance => exact advance_clean clean stepped
  | giveUp =>
    dsimp only [step] at stepped
    split at stepped
    · obtain rfl := Option.some.inj stepped
      exact clean.frame rfl rfl nofun nofun
    · cases stepped
  | pull moduleGone =>
    dsimp only [step] at stepped
    split at stepped
    · rename_i phase
      obtain rfl := Option.some.inj stepped
      exact pull_clean clean phase moduleGone
    · cases stepped
  | snapshot =>
    dsimp only [step] at stepped
    split at stepped
    · rename_i phase
      obtain rfl := Option.some.inj stepped
      exact snapshot_clean kInvalid isFinite clean phase
    · cases stepped
  | tearDown fast killed =>
    dsimp only [step] at stepped
    split at stepped
    · obtain rfl := Option.some.inj stepped
      refine recordLifetime_clean ?_ fast _
      exact clean.frame rfl rfl nofun nofun
    · cases stepped

/-- Along every run in which no update of a module with another hash arrives while a run is served,
all data in a frame comes from subprocesses started for modules whose uuid hashes to the hash of
the frame. -/
theorem frames_attributed {host : Host Number}
    (reached : Reaches (step kInvalid isFinite) Attributed {} host) :
    ∀ frame ∈ host.published, ∀ source ∈ frame.sources, fnv1a64 source.uuid = frame.uuidHash := by
  have clean : Clean host := reached.invariant ⟨nofun, nofun, nofun⟩
    fun _ _ _ before attributed stepped => step_clean kInvalid isFinite before attributed stepped
  intro frame member source contributed
  rw [← source.hash_eq]
  exact clean.published frame member source contributed

end Host

/-! ### Switching modules -/

def firstUuid : Text := ascii "11111111-1111-1111-1111-111111111111"
def secondUuid : Text := ascii "22222222-2222-2222-2222-222222222222"

def installed : List (Text × Text) :=
  [(firstUuid, ascii "first.dll"), (secondUuid, ascii "second.dll")]

def smile : Update Rat where
  expressionShapes := some [1 / 2, 1]
  leftOpenness := 1
  rightOpenness := 1

/-- The answers of a subprocess until its pull loop begins; nothing else is in flight. -/
def answers (number : Nat) : List (Event Rat) :=
  [.send number .handshake, .deliver 0, .advance, .send number .replyGetSupported, .deliver 0,
    .advance, .send number (.replyInit ⟨true, true⟩), .deliver 0, .advance]

/-- The first module is selected and a frame of it is published; its subprocess sends one more
update. Then the second module is selected, the run ends and the run of the second begins. -/
def switched : List (Event Rat) :=
  [Event.select (some firstUuid) installed, .begin, .spawn true] ++ answers 0 ++
    [Event.pull false, .send 0 (.replyUpdate smile), .deliver 0, .snapshot,
      .send 0 (.replyUpdate smile), .select (some secondUuid) installed, .pull false,
      .tearDown false true, .begin, .spawn true]

/-- The update in flight is lost, and both modules publish their own frames. -/
theorem frames_attributed_switched : ∃ host : Host Rat,
    Reaches (step 4294967296 fun _ => true) Attributed {} host ∧
    host.published.map (·.uuidHash) = [fnv1a64 secondUuid, fnv1a64 firstUuid] ∧
    ∀ frame ∈ host.published, ∀ source ∈ frame.sources,
      fnv1a64 source.uuid = frame.uuidHash := by
  obtain ⟨host, reached, hashes⟩ : ∃ host : Host Rat,
      Reaches (step 4294967296 fun _ => true) Attributed {} host ∧
      host.published.map (·.uuidHash) = [fnv1a64 secondUuid, fnv1a64 firstUuid] :=
    reaches_evaluates (switched ++ [Event.lose 0] ++ answers 1 ++
      [Event.pull false, .send 1 (.replyUpdate smile), .deliver 0, .snapshot]) (by decide +kernel)
  exact ⟨host, reached, hashes, frames_attributed 4294967296 (fun _ => true) reached⟩

/-- The update in flight arrives after the buffer was emptied: the first frame under the hash of the
second module carries the data of the first. -/
theorem late_update_misattributed : ∃ host,
    run (step (4294967296 : Rat) fun _ => true) {} (switched ++ [Event.deliver 0] ++ answers 1 ++
      [Event.pull false, .snapshot]) = some host ∧
    ∃ frame ∈ host.published, frame.uuidHash = fnv1a64 secondUuid ∧
      frame.shapesSource.uuid = firstUuid ∧ fnv1a64 frame.shapesSource.uuid ≠ frame.uuidHash := by
  exact run_evaluates (by decide +kernel)

end PairDriver.ModuleHost
