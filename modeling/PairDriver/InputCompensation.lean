/-
This file models how the learned input corrections get from the overlay to the
driver: the learning engine with its path states, the records of the device
profiles, the pushes over the pipe and the heartbeat that replays them after a
reconnect, and the map of the driver.

Each push has an outcome: whether the driver applied it, whether the pipe is open
afterwards, whether it was opened anew on the way. The statistics of the engine
are left out; a tick says of a path that it has become ready with some values,
that it has drifted, or neither. Numbers are a parameter, and so is the rounding
of a push to single precision. The records of all profiles are one map.
-/

import PairDriver.Bytes
import PairDriver.Machine

namespace PairDriver.InputHealth

abbrev Text := List UInt8

def inputHealthPathLen : Nat := 64

/-! ### Paths -/

inductive PathClass where
  | trigger
  | stickAxis
  | controllerButton
  | diagnosticsOnly
  | unsupported
deriving DecidableEq

def isCompensationPath : PathClass → Bool
  | .trigger | .stickAxis | .controllerButton => true
  | .diagnosticsOnly | .unsupported => false

def contains (path : Text) (part : String) : Bool :=
  decide (ascii part <:+: path)

def endsWith (path : Text) (part : String) : Bool :=
  decide (ascii part <:+ path)

def isTriggerLikePath (path : Text) : Bool :=
  if contains path "/click" || contains path "/touch" then false
  else contains path "trigger" || contains path "Trigger" || endsWith path "/force" ||
    endsWith path "/pressure" || contains path "/grip/value" || contains path "/squeeze/value"

def isStickAxisPath (path : Text) : Bool :=
  (endsWith path "/x" || endsWith path "/X" || endsWith path "/y" || endsWith path "/Y") &&
    (contains path "stick" || contains path "joystick" || contains path "trackpad" ||
      contains path "thumbstick" || contains path "touchpad")

def classifyInputPath (path : Text) : PathClass :=
  if path = [] then .unsupported
  else if contains path "/eye" || contains path "/face" then .diagnosticsOnly
  else if contains path "/pupil" || contains path "proximity" || contains path "/imu" then
    .unsupported
  else if isTriggerLikePath path then .trigger
  else if isStickAxisPath path then .stickAxis
  else if contains path "/input/" then .controllerButton
  else .unsupported

/-- `CopyPath` into the buffer of an entry, and the text the driver reads from the buffer. -/
def carriedPath (path : Text) : Text :=
  cString (path.take (inputHealthPathLen - 1))

/-! ### State -/

/-- A component of a device, by the hash of its serial. -/
structure Key where
  serial : Nat
  path : Text
deriving DecidableEq

inductive Kind where
  | scalarSingle
  | stickX
  | stickY
  | boolean
deriving DecidableEq

structure Learned (Number : Type) where
  restOffset : Number
  stddev : Number
  triggerMin : Number
  triggerMax : Number
  deadzoneRadius : Number
  debounceUs : Nat
deriving DecidableEq

/-- The state of a path in the engine; a record of a profile has the same fields. -/
structure PathState (Number : Type) where
  kind : Kind
  ready : Bool
  learned : Learned Number
deriving DecidableEq

structure CompensationEntry (Single : Type) where
  serial : Nat
  path : Text
  kind : Kind
  enabled : Bool
  restOffset : Single
  triggerMin : Single
  triggerMax : Single
  deadzoneRadius : Single
  debounceUs : Nat
deriving DecidableEq

/-- What a request over the pipe comes to. A broken pipe is opened anew once on the way. -/
structure Outcome where
  applied : Bool := true
  isOpen : Bool := true
  reconnected : Bool := false

abbrev Records (Number : Type) := AList fun _ : Key => PathState Number

abbrev Compensation (Single : Type) := Key → Option (CompensationEntry Single)

/-- The overlay, with its profiles, its path states and its end of the pipe, and the map of the
driver. -/
structure System (Number Single : Type) where
  corrections : Nat → Bool := fun _ => true
  records : Records Number
  states : Records Number := ∅
  connected : Bool := false
  generation : Nat := 0
  observedGeneration : Nat := 0
  inputHealthComp : Compensation Single := fun _ => none

section Operations

variable {Number Single : Type} [Zero Number] (narrow : Number → Single)

def clearedLearned : Learned Number := ⟨0, 0, 0, 0, 0, 0⟩

/-! ### Pushes -/

def compensationEntry (key : Key) (state : PathState Number) (enabled : Bool) :
    CompensationEntry Single where
  serial := key.serial
  path := carriedPath key.path
  kind := state.kind
  enabled := enabled
  restOffset := narrow state.learned.restOffset
  triggerMin := narrow state.learned.triggerMin
  triggerMax := narrow state.learned.triggerMax
  deadzoneRadius := narrow state.learned.deadzoneRadius
  debounceUs := min 65535 state.learned.debounceUs

/-- `SetInputHealthCompensation` in the driver. -/
def setInputHealthCompensation (entry : CompensationEntry Single) (comp : Compensation Single) :
    Compensation Single :=
  if entry.serial = 0 ∨ entry.path = [] then comp
  else if !isCompensationPath (classifyInputPath entry.path) then comp
  else Function.update comp ⟨entry.serial, entry.path⟩ (if entry.enabled then some entry else none)

/-- A request that goes over the pipe. -/
def System.send (outcome : Outcome) (request : Compensation Single → Compensation Single)
    (system : System Number Single) : System Number Single :=
  { system with
    connected := outcome.isOpen
    generation := system.generation + outcome.reconnected.toNat
    inputHealthComp :=
      if outcome.applied then request system.inputHealthComp else system.inputHealthComp }

/-- `PushCompensation`. Without a connection nothing is sent. -/
def System.pushCompensation (outcome : Outcome) (key : Key) (state : PathState Number)
    (enabled : Bool) (system : System Number Single) : System Number Single :=
  if !system.connected then system
  else system.send outcome (setInputHealthCompensation
    (compensationEntry narrow key state (enabled && system.corrections key.serial)))

/-- A push for each of the records. -/
def System.pushAll (outcomes : Key → Outcome) (enabled : Bool)
    (records : List (Sigma fun _ : Key => PathState Number)) (system : System Number Single) :
    System Number Single :=
  records.foldl (fun current record =>
    current.pushCompensation narrow (outcomes record.1) record.1 record.2 enabled) system

/-! ### The learning engine -/

/-- `StateFor`: the state of a path, or a new one from its record. -/
def System.stateFor (key : Key) (system : System Number Single) : PathState Number :=
  match system.states.lookup key with
  | some state => state
  | none => (system.records.lookup key).getD ⟨.scalarSingle, false, clearedLearned⟩

/-- The paths a tick looks at; a snapshot spells a path in its buffer. -/
def tracked (key : Key) : Bool :=
  key.serial ≠ 0 && isCompensationPath (classifyInputPath key.path) &&
    key.path.length ≤ inputHealthPathLen && !key.path.contains 0

/-- The state is kept, and `SyncProfile` writes it to its record or holds back. -/
def System.keep (key : Key) (state : PathState Number) (sync : Bool)
    (system : System Number Single) : System Number Single :=
  { system with
    states := system.states.insert key state
    records := if sync then system.records.insert key state else system.records }

/-- The records of a device. -/
def System.recordsOf (serial : Nat) (system : System Number Single) :
    List (Sigma fun _ : Key => PathState Number) :=
  system.records.entries.filter fun record => record.1.serial = serial

def System.setDeviceCorrectionsEnabled (serial : Nat) (enabled : Bool) (outcomes : Key → Outcome)
    (system : System Number Single) : System Number Single :=
  if serial = 0 ∨ system.corrections serial = enabled then system
  else
    let changed := { system with
      corrections := Function.update system.corrections serial enabled }
    changed.pushAll narrow outcomes enabled
      ((system.recordsOf serial).filter fun record => !enabled || record.2.ready)

/-- The kind of a record that is unlearned. -/
def System.clearState (key : Key) (system : System Number Single) : PathState Number :=
  ⟨((system.records.lookup key).map PathState.kind).getD .scalarSingle, false, clearedLearned⟩

def System.unlearnPath (key : Key) (outcome : Outcome) (system : System Number Single) :
    System Number Single :=
  if key.serial = 0 ∨ key.path = [] then system
  else
    let cleared := { system with
      records := system.records.erase key
      states := system.states.erase key }
    cleared.pushCompensation narrow outcome key (system.clearState key) false

/-- The records of the other devices. -/
def withoutDevice (serial : Nat) (records : Records Number) : Records Number where
  entries := records.entries.filter fun record => record.1.serial ≠ serial
  nodupKeys := List.NodupKeys.sublist List.filter_sublist records.nodupKeys

def System.unlearnDevice (serial : Nat) (outcomes : Key → Outcome) (system : System Number Single) :
    System Number Single :=
  if serial = 0 then system
  else
    let pushed := system.pushAll narrow outcomes false
      ((system.recordsOf serial).map fun record =>
        ⟨record.1, ⟨record.2.kind, false, clearedLearned⟩⟩)
    { pushed with
      records := withoutDevice serial pushed.records
      states := withoutDevice serial pushed.states }

/-! ### The connection -/

/-- The records `PushReadyCompensations` pushes. -/
def System.readyRecords (system : System Number Single) :
    List (Sigma fun _ : Key => PathState Number) :=
  system.records.entries.filter fun record =>
    system.corrections record.1.serial && record.2.ready

def System.pushReadyCompensations (outcomes : Key → Outcome) (system : System Number Single) :
    System Number Single :=
  system.pushAll narrow outcomes true system.readyRecords

/-- `Connect` where there is no connection. -/
def System.connect (succeeds : Bool) (system : System Number Single) : System Number Single :=
  if system.connected || !succeeds then system
  else { system with connected := true, generation := system.generation + 1 }

/-- A request that does not touch the map of the driver: the handshake, or the configuration. -/
def System.sendOther (outcome : Outcome) (system : System Number Single) : System Number Single :=
  if system.connected then system.send outcome id else system

/-- The start of the heartbeat: a connection, and the handshake over it. -/
def System.heartbeat (succeeds : Bool) (handshake : Outcome) (system : System Number Single) :
    System Number Single :=
  (system.connect succeeds).sendOther handshake

/-- The heartbeat goes on to the replay: the handshake was answered, over a connection that has
not been replayed to. -/
def System.replays (succeeds : Bool) (handshake : Outcome) (system : System Number Single) : Bool :=
  (system.connect succeeds).connected && handshake.applied &&
    (system.heartbeat succeeds handshake).generation ≠
      (system.heartbeat succeeds handshake).observedGeneration

/-- The state in which the replay starts. -/
def System.replayStart (succeeds : Bool) (handshake config : Outcome)
    (system : System Number Single) : System Number Single :=
  let beat := system.heartbeat succeeds handshake
  ({ beat with observedGeneration := beat.generation }).sendOther config

/-- `MaintainDriverConnection`. -/
def System.maintainDriverConnection (succeeds : Bool) (handshake config : Outcome)
    (outcomes : Key → Outcome) (system : System Number Single) : System Number Single :=
  if system.replays succeeds handshake then
    (system.replayStart succeeds handshake config).pushReadyCompensations narrow outcomes
  else system.heartbeat succeeds handshake

/-! ### Steps -/

/-- A path of a tick becomes ready with values, drifts, or neither; the operations of the user; the
connection breaks, and the heartbeat. -/
inductive Event (Number : Type) where
  | learn (key : Key) (kind : Kind) (learned : Learned Number) (outcome : Outcome)
  | drift (key : Key) (kind : Kind) (outcome : Outcome)
  | observe (key : Key) (kind : Kind) (sync : Bool)
  | setDeviceCorrectionsEnabled (serial : Nat) (enabled : Bool) (outcomes : Key → Outcome)
  | unlearnPath (key : Key) (outcome : Outcome)
  | unlearnDevice (serial : Nat) (outcomes : Key → Outcome)
  | disconnect
  | maintain (succeeds : Bool) (handshake config : Outcome) (outcomes : Key → Outcome)

def step (system : System Number Single) : Event Number → Option (System Number Single)
  | .learn key kind learned outcome =>
    if tracked key && !(system.stateFor key).ready then
      let state : PathState Number := ⟨kind, true, learned⟩
      some ((system.keep key state true).pushCompensation narrow outcome key state true)
    else none
  | .drift key kind outcome =>
    if tracked key && (system.stateFor key).ready then
      let state : PathState Number := ⟨kind, false, clearedLearned⟩
      some ((system.keep key state true).pushCompensation narrow outcome key state false)
    else none
  | .observe key kind sync =>
    if tracked key then
      some (system.keep key { system.stateFor key with kind := kind } sync)
    else none
  | .setDeviceCorrectionsEnabled serial enabled outcomes =>
    some (system.setDeviceCorrectionsEnabled narrow serial enabled outcomes)
  | .unlearnPath key outcome => some (system.unlearnPath narrow key outcome)
  | .unlearnDevice serial outcomes => some (system.unlearnDevice narrow serial outcomes)
  | .disconnect => some { system with connected := false }
  | .maintain succeeds handshake config outcomes =>
    some (system.maintainDriverConnection narrow succeeds handshake config outcomes)

end Operations

end PairDriver.InputHealth
