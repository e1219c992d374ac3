/-
This file proves when the face tracking and the captions plugin agree with their
driver about the configuration. Both push it after every edit and, once a second,
whenever the connection is a new one; an edit that is lost closes the pipe, so
that the next heartbeat connects and pushes again. The one thing that is not
repaired is the module in the driver's stored configuration: a selection in the
modules tab reaches the supervisor over a request of its own, which the driver
does not store.
-/

import PairDriver.Machine
import PairDriver.Bytes
import PairDriver.IpcClient

namespace PairDriver.ConfigAgreement

/-- A string of the source, as its bytes. -/
abbrev Text := List UInt8

/-! ### A plugin that pushes a configuration -/

/-- What a driver module stores, and what it last handed to its supervisor. -/
structure Stored (Config Handed : Type) where
  config : Config
  handed : Option Handed := none

/-- The requests a plugin sends besides the handshake. -/
inductive Request (Config Handed : Type) where
  | setConfig (config : Config)
  | select (handed : Handed)
  | other

/-- A feature: how its settings are put on the wire, what of them goes to the supervisor, and the
choice that has a request of its own, in which it is written as in the configuration. -/
structure Feature (Settings Config Handed Choice : Type) where
  blank : Config
  encode : Settings → Config
  hand : Config → Handed
  choose : Choice → Settings → Settings
  selection : Choice → Handed
  hand_choose : ∀ choice settings, hand (encode (choose choice settings)) = selection choice
  closesOnError : Bool
  reportsOther : Bool

/-- The texts a plugin shows as its last error, by their beginnings. -/
inductive Banner where
  | startFailed
  | notConnected
  | ipcError
  | mismatch
  | driverConnection
deriving DecidableEq

section Plugin

variable {Settings Config Handed Choice : Type} (feature : Feature Settings Config Handed Choice)

/-- A plugin with its pipe and the driver at the other end. -/
structure Plugin (Settings Config Handed : Type) where
  link : Ipc.Link (Stored Config Handed)
  settings : Settings
  observed : Nat := 0
  lastError : Option Banner := none

/-- The driver's end: it accepts every request. -/
def handleRequest : Request Config Handed → Stored Config Handed → Stored Config Handed
  | .setConfig config, _ => ⟨config, some (feature.hand config)⟩
  | .select handed, stored => { stored with handed := some handed }
  | .other, stored => stored

/-- A driver that has just started. -/
def Feature.started : Stored Config Handed := { config := feature.blank }

def Plugin.send (sending : Ipc.Sending) (request : Option (Request Config Handed))
    (plugin : Plugin Settings Config Handed) : Bool × Ipc.Link (Stored Config Handed) :=
  plugin.link.sendBlocking feature.started (handleRequest feature) sending request

/-- `PushConfigToDriver`: whether it recorded an error. -/
def Plugin.pushConfig (sending : Ipc.Sending) (plugin : Plugin Settings Config Handed) :
    Bool × Plugin Settings Config Handed :=
  if plugin.link.pipe = none then (true, { plugin with lastError := some .notConnected })
  else
    match plugin.send feature sending (some (.setConfig (feature.encode plugin.settings))) with
    | (true, link) => (false, { plugin with link := link, lastError := none })
    | (false, link) =>
      (true, { plugin with
        link := if feature.closesOnError then link.close else link
        lastError := some .ipcError })

/-- `SendEnabledModules`: the choice is taken over and sent by itself. -/
def Plugin.sendChoice (choice : Choice) (sending : Ipc.Sending)
    (plugin : Plugin Settings Config Handed) : Plugin Settings Config Handed :=
  let chosen := { plugin with settings := feature.choose choice plugin.settings }
  if plugin.link.pipe = none then chosen
  else
    match plugin.send feature sending (some (.select (feature.selection choice))) with
    | (true, link) => { chosen with link := link, lastError := none }
    | (false, link) => { chosen with link := link, lastError := some .ipcError }

/-- A request that leaves the configuration alone: a calibration command, a restart of the host or a
question about its status. Only the first reports its outcome. -/
def Plugin.sendOther (sending : Ipc.Sending) (plugin : Plugin Settings Config Handed) :
    Plugin Settings Config Handed :=
  let report (banner : Option Banner) := if feature.reportsOther then banner else plugin.lastError
  if plugin.link.pipe = none then { plugin with lastError := report (some .notConnected) }
  else
    match plugin.send feature sending (some .other) with
    | (true, link) => { plugin with link := link, lastError := report none }
    | (false, link) => { plugin with link := link, lastError := report (some .ipcError) }

/-- What happens during a heartbeat. -/
structure Heartbeat where
  connecting : Ipc.Connecting := {}
  handshake : Ipc.Sending := {}
  sameVersion : Bool := true
  push : Ipc.Sending := {}

/-- Banners about the connection are cleared. -/
def Plugin.clearBanner (plugin : Plugin Settings Config Handed) : Plugin Settings Config Handed :=
  match plugin.lastError with
  | some .startFailed | some .notConnected | some .driverConnection =>
    { plugin with lastError := none }
  | _ => plugin

/-- The heartbeat ended with an exception. -/
def Plugin.connectionFailed (link : Ipc.Link (Stored Config Handed))
    (plugin : Plugin Settings Config Handed) : Bool × Plugin Settings Config Handed :=
  (true, { plugin with link := link.close, lastError := some .driverConnection })

/-- The pipe as a heartbeat finds or opens it. -/
def Plugin.ensureConnected (connecting : Ipc.Connecting) (plugin : Plugin Settings Config Handed) :
    Bool × Ipc.Link (Stored Config Handed) :=
  if plugin.link.pipe = none then
    plugin.link.connect feature.started (handleRequest feature) connecting
  else (true, plugin.link)

/-- The heartbeat after its handshake. -/
def Plugin.shaken (answers : Heartbeat) (plugin : Plugin Settings Config Handed) :
    Bool × Plugin Settings Config Handed :=
  if plugin.link.generation ≠ plugin.observed then
    let (recorded, pushed) :=
      { plugin with observed := plugin.link.generation }.pushConfig feature answers.push
    (recorded, pushed.clearBanner)
  else (false, plugin.clearBanner)

/-- `MaintainDriverConnection`: whether it recorded an error. -/
def Plugin.maintainDriverConnection (answers : Heartbeat) (plugin : Plugin Settings Config Handed) :
    Bool × Plugin Settings Config Handed :=
  match plugin.ensureConnected feature answers.connecting with
  | (false, link) => plugin.connectionFailed link
  | (true, connected) =>
    match { plugin with link := connected }.send feature answers.handshake none with
    | (false, link) => plugin.connectionFailed link
    | (true, link) =>
      if ¬answers.sameVersion then
        (true, { plugin with link := link, lastError := some .mismatch })
      else { plugin with link := link }.shaken feature answers

/-- `OnStart`: the connection and the first push. -/
def Plugin.onStart (connecting : Ipc.Connecting) (sending : Ipc.Sending)
    (plugin : Plugin Settings Config Handed) : Plugin Settings Config Handed :=
  match plugin.link.connect feature.started (handleRequest feature) connecting with
  | (true, link) => ({ plugin with link := link }.pushConfig feature sending).2
  | (false, link) => { plugin with link := link, lastError := some .startFailed }

inductive Event (Settings Choice : Type) where
  | start (connecting : Ipc.Connecting) (sending : Ipc.Sending)
  | edit (settings : Settings) (sending : Ipc.Sending)
  | choose (choice : Choice) (sending : Ipc.Sending)
  | other (sending : Ipc.Sending)
  | heartbeat (answers : Heartbeat)
  | restart

def step (plugin : Plugin Settings Config Handed) :
    Event Settings Choice → Option (Plugin Settings Config Handed)
  | .start connecting sending => some (plugin.onStart feature connecting sending)
  | .edit settings sending => some ({ plugin with settings := settings }.pushConfig feature sending).2
  | .choose choice sending => some (plugin.sendChoice feature choice sending)
  | .other sending => some (plugin.sendOther feature sending)
  | .heartbeat answers => some (plugin.maintainDriverConnection feature answers).2
  | .restart => some { plugin with link := plugin.link.restart feature.started }

/-- A plugin before its start, beside a driver that has just started. -/
def Feature.initial (settings : Settings) : Plugin Settings Config Handed where
  link := { driver := feature.started }
  settings := settings

/-! ### Agreement -/

variable {View : Type} (view : Config → View)

/-- What is seen of the driver's configuration is what the settings encode to, and its supervisor was
last handed what they say. -/
def Plugin.Agrees (plugin : Plugin Settings Config Handed) : Prop :=
  view plugin.link.driver.config = view (feature.encode plugin.settings) ∧
    plugin.link.driver.handed = some (feature.hand (feature.encode plugin.settings))

instance [DecidableEq View] [DecidableEq Handed] (plugin : Plugin Settings Config Handed) :
    Decidable (plugin.Agrees feature view) :=
  inferInstanceAs (Decidable (_ ∧ _))

/-- The condition: a choice that is sent over a connection that has had its push does not change
what is seen of the configuration. -/
def KeepsView (plugin : Plugin Settings Config Handed) : Event Settings Choice → Prop
  | .choose choice _ => plugin.link.pipe ≠ none → plugin.link.generation = plugin.observed →
      view (feature.encode (feature.choose choice plugin.settings)) =
        view (feature.encode plugin.settings)
  | _ => True

/-- No connection is older than the one the plugin last pushed over, and over that one, while it
leads to the driver that runs, both ends agree. -/
structure Plugin.Sound (plugin : Plugin Settings Config Handed) : Prop where
  formed : plugin.link.Formed
  observed : plugin.observed ≤ plugin.link.generation
  agrees : plugin.link.generation = plugin.observed → plugin.link.Alive →
    plugin.Agrees feature view

variable {feature view}

/-- What a push that was answered leaves in the driver. -/
theorem iterate_setConfig {count : Nat} (positive : 0 < count) (config : Config)
    (stored : Stored Config Handed) :
    (Ipc.apply (handleRequest feature) (some (.setConfig config)))^[count] stored =
      ⟨config, some (feature.hand config)⟩ := by
  cases count with
  | zero => exact absurd positive (Nat.lt_irrefl 0)
  | succ count =>
    rw [Function.iterate_succ_apply']
    rfl

/-- Over a closed pipe nothing is claimed. -/
theorem Plugin.Sound.of_closed {plugin : Plugin Settings Config Handed} {count : Nat}
    {request : Option (Request Config Handed)} {before : Ipc.Link (Stored Config Handed)}
    (touched : Ipc.Touched feature.started (handleRequest feature) request count before plugin.link)
    (observed : plugin.observed ≤ before.generation) (closed : plugin.link.pipe = none) :
    plugin.Sound feature view :=
  ⟨touched.formed, observed.trans touched.generation, fun _ alive =>
    absurd alive (Ipc.not_alive_of_closed closed)⟩

variable (feature view) in
/-- A push that records no error leaves both ends in agreement. -/
theorem pushConfig_agrees (plugin : Plugin Settings Config Handed) (formed : plugin.link.Formed)
    (sending : Ipc.Sending) (clean : (plugin.pushConfig feature sending).1 = false) :
    (plugin.pushConfig feature sending).2.Agrees feature view := by
  unfold Plugin.pushConfig at clean ⊢
  split at clean
  · cases clean
  · rename_i opened
    rw [if_neg opened]
    cases moved : plugin.send feature sending
        (some (.setConfig (feature.encode plugin.settings))) with
    | mk ok link =>
      rw [moved] at clean
      have sent := Ipc.sendBlocking_sent formed moved
      cases ok with
      | false => cases clean
      | true =>
        obtain ⟨count, positive, touched⟩ := sent.touched
        dsimp only [Plugin.Agrees]
        rcases touched.driver with ⟨_, driver⟩ | ⟨_, driver⟩
        · rw [driver, iterate_setConfig (positive rfl)]
          exact ⟨rfl, rfl⟩
        · rw [driver, iterate_setConfig (positive rfl)]
          exact ⟨rfl, rfl⟩

variable (feature view) in
/-- A push keeps to what is known of the connection, whatever becomes of it. -/
theorem pushConfig_sound (plugin : Plugin Settings Config Handed) (formed : plugin.link.Formed)
    (observed : plugin.observed ≤ plugin.link.generation) (sending : Ipc.Sending) :
    (plugin.pushConfig feature sending).2.Sound feature view := by
  have agrees := pushConfig_agrees feature view plugin formed sending
  unfold Plugin.pushConfig at agrees ⊢
  split
  · rename_i closed
    exact ⟨formed, observed, fun _ alive => absurd alive (Ipc.not_alive_of_closed closed)⟩
  · rename_i opened
    rw [if_neg opened] at agrees
    cases moved : plugin.send feature sending
        (some (.setConfig (feature.encode plugin.settings))) with
    | mk ok link =>
      rw [moved] at agrees
      have sent := Ipc.sendBlocking_sent formed moved
      obtain ⟨count, _, touched⟩ := sent.touched
      cases ok with
      | true => exact ⟨touched.formed, observed.trans touched.generation, fun _ _ => agrees rfl⟩
      | false =>
        dsimp only
        split
        · exact Plugin.Sound.of_closed touched.close observed rfl
        · exact Plugin.Sound.of_closed touched observed (sent.closed rfl)

/-- Over the same connection a request is handled by the driver from before; over a new one nothing
is claimed, as the plugin has yet to push. -/
theorem Plugin.Sound.of_sent {plugin after : Plugin Settings Config Handed} {ok : Bool}
    {request : Option (Request Config Handed)} (sound : plugin.Sound feature view)
    (sent : Ipc.Sent feature.started (handleRequest feature) request plugin.link ok after.link)
    (observed : after.observed = plugin.observed)
    (agrees : plugin.link.generation = plugin.observed → plugin.link.Alive →
      after.link.driver = Ipc.apply (handleRequest feature) request plugin.link.driver →
        after.Agrees feature view) : after.Sound feature view := by
  obtain ⟨count, _, touched⟩ := sent.touched
  refine ⟨touched.formed, observed ▸ sound.observed.trans touched.generation, fun fresh alive => ?_⟩
  cases ok with
  | false => exact absurd alive (Ipc.not_alive_of_closed (sent.closed rfl))
  | true =>
    have same : after.link.generation = plugin.link.generation := by
      have older := sound.observed
      have newer := touched.generation
      omega
    obtain ⟨before, link⟩ := sent.same rfl same
    exact agrees (same ▸ fresh.trans observed) before (by rw [link])

theorem sendChoice_sound {plugin : Plugin Settings Config Handed}
    (sound : plugin.Sound feature view) {choice : Choice} (sending : Ipc.Sending)
    (keeps : KeepsView feature view plugin (.choose choice sending)) :
    (plugin.sendChoice feature choice sending).Sound feature view := by
  unfold Plugin.sendChoice
  dsimp only
  split
  · rename_i closed
    exact ⟨sound.formed, sound.observed, fun _ alive => absurd alive (Ipc.not_alive_of_closed closed)⟩
  · rename_i opened
    cases moved : plugin.send feature sending (some (.select (feature.selection choice))) with
    | mk ok link =>
      have sent := Ipc.sendBlocking_sent sound.formed moved
      have agreed : ∀ after : Plugin Settings Config Handed, after.link = link →
          after.settings = feature.choose choice plugin.settings →
          plugin.link.generation = plugin.observed → plugin.link.Alive →
          after.link.driver = { plugin.link.driver with handed := some (feature.selection choice) } →
            after.Agrees feature view := by
        intro after _ settings fresh alive driver
        have before := sound.agrees fresh alive
        refine ⟨?_, ?_⟩
        · rw [driver, settings, keeps opened fresh]
          exact before.1
        · rw [driver, settings, feature.hand_choose]
      cases ok with
      | true => exact sound.of_sent sent rfl (agreed _ rfl rfl)
      | false => exact sound.of_sent sent rfl (agreed _ rfl rfl)

theorem sendOther_sound {plugin : Plugin Settings Config Handed}
    (sound : plugin.Sound feature view) (sending : Ipc.Sending) :
    (plugin.sendOther feature sending).Sound feature view := by
  unfold Plugin.sendOther
  dsimp only
  split
  · exact ⟨sound.formed, sound.observed, sound.agrees⟩
  · cases moved : plugin.send feature sending (some .other) with
    | mk ok link =>
      have sent := Ipc.sendBlocking_sent sound.formed moved
      have agreed : ∀ after : Plugin Settings Config Handed, after.settings = plugin.settings →
          plugin.link.generation = plugin.observed → plugin.link.Alive →
          after.link.driver = plugin.link.driver → after.Agrees feature view := by
        intro after settings fresh alive driver
        unfold Plugin.Agrees
        rw [driver, settings]
        exact sound.agrees fresh alive
      cases ok with
      | true => exact sound.of_sent sent rfl (agreed _ rfl)
      | false => exact sound.of_sent sent rfl (agreed _ rfl)

theorem restart_sound {plugin : Plugin Settings Config Handed} (sound : plugin.Sound feature view) :
    ({ plugin with link := plugin.link.restart feature.started } :
      Plugin Settings Config Handed).Sound feature view := by
  refine ⟨fun process member => (sound.formed process member).trans (Nat.le_succ _),
    sound.observed, fun _ alive => ?_⟩
  exact absurd (sound.formed _ alive) (Nat.not_succ_le_self _)

theorem onStart_sound {plugin : Plugin Settings Config Handed} (sound : plugin.Sound feature view)
    (connecting : Ipc.Connecting) (sending : Ipc.Sending) :
    (plugin.onStart feature connecting sending).Sound feature view := by
  unfold Plugin.onStart
  cases moved : plugin.link.connect feature.started (handleRequest feature) connecting with
  | mk ok link =>
    obtain ⟨touched, outcome⟩ := Ipc.connect_touched none sound.formed moved
    rcases outcome with ⟨rfl, _, _⟩ | ⟨rfl, closed⟩
    · exact pushConfig_sound feature view { plugin with link := link } touched.formed
        (sound.observed.trans touched.generation) sending
    · exact Plugin.Sound.of_closed touched sound.observed closed

theorem Plugin.Sound.clearBanner {plugin : Plugin Settings Config Handed}
    (sound : plugin.Sound feature view) : plugin.clearBanner.Sound feature view := by
  unfold Plugin.clearBanner
  split <;> exact ⟨sound.formed, sound.observed, sound.agrees⟩

theorem Plugin.Agrees.clearBanner {plugin : Plugin Settings Config Handed}
    (agrees : plugin.Agrees feature view) : plugin.clearBanner.Agrees feature view := by
  unfold Plugin.clearBanner
  split <;> exact agrees

/-- After the handshake: a new connection is pushed over, and the old one leads to a driver that
agrees. -/
theorem shaken_sound {plugin : Plugin Settings Config Handed} (sound : plugin.Sound feature view)
    (alive : plugin.link.Alive) (answers : Heartbeat) :
    (plugin.shaken feature answers).2.Sound feature view ∧
      ((plugin.shaken feature answers).1 = false →
        (plugin.shaken feature answers).2.Agrees feature view) := by
  unfold Plugin.shaken
  split
  · dsimp only
    have pushed := pushConfig_sound feature view { plugin with observed := plugin.link.generation }
      sound.formed le_rfl answers.push
    refine ⟨pushed.clearBanner, fun clean => ?_⟩
    exact (pushConfig_agrees feature view { plugin with observed := plugin.link.generation }
      sound.formed answers.push clean).clearBanner
  · rename_i same
    exact ⟨sound.clearBanner, fun _ => (sound.agrees (not_not.mp same) alive).clearBanner⟩

/-- What a heartbeat finds or opens is alive as far as the plugin can tell: a connection it opened
itself is a new one. -/
theorem ensureConnected_sound {plugin : Plugin Settings Config Handed}
    (sound : plugin.Sound feature view) {connecting : Ipc.Connecting} {ok : Bool}
    {link : Ipc.Link (Stored Config Handed)}
    (moved : plugin.ensureConnected feature connecting = (ok, link)) :
    ({ plugin with link := link } : Plugin Settings Config Handed).Sound feature view := by
  unfold Plugin.ensureConnected at moved
  split at moved
  · obtain ⟨touched, outcome⟩ := Ipc.connect_touched none sound.formed moved
    have observed := sound.observed
    refine ⟨touched.formed, observed.trans touched.generation, fun fresh alive => ?_⟩
    rcases outcome with ⟨_, _, newer⟩ | ⟨_, closed⟩
    · dsimp only at fresh
      omega
    · exact absurd alive (Ipc.not_alive_of_closed closed)
  · obtain ⟨_, rfl⟩ := Prod.mk.inj moved
    exact sound

theorem connectionFailed_sound {plugin : Plugin Settings Config Handed}
    {link : Ipc.Link (Stored Config Handed)}
    (sound : ({ plugin with link := link } : Plugin Settings Config Handed).Sound feature view) :
    (plugin.connectionFailed link).2.Sound feature view :=
  ⟨fun _ member => absurd member (Option.not_mem_none _), sound.observed, fun _ alive =>
    absurd alive (Ipc.not_alive_of_closed rfl)⟩

/-- A heartbeat that records no error leaves both ends in agreement. -/
theorem maintain_sound {plugin : Plugin Settings Config Handed} (sound : plugin.Sound feature view)
    (answers : Heartbeat) :
    (plugin.maintainDriverConnection feature answers).2.Sound feature view ∧
      ((plugin.maintainDriverConnection feature answers).1 = false →
        (plugin.maintainDriverConnection feature answers).2.Agrees feature view) := by
  unfold Plugin.maintainDriverConnection
  cases ensured : plugin.ensureConnected feature answers.connecting with
  | mk ok connected =>
    have opened := ensureConnected_sound sound ensured
    cases ok with
    | false => exact ⟨connectionFailed_sound opened, nofun⟩
    | true =>
      dsimp only
      cases moved : ({ plugin with link := connected } : Plugin Settings Config Handed).send feature
          answers.handshake none with
      | mk answered link =>
        have sent := Ipc.sendBlocking_sent opened.formed moved
        have shook : ({ plugin with link := link } : Plugin Settings Config Handed).Sound feature
            view := by
          refine opened.of_sent sent rfl fun fresh alive driver => ?_
          unfold Plugin.Agrees
          rw [driver]
          exact opened.agrees fresh alive
        cases answered with
        | false => exact ⟨connectionFailed_sound shook, nofun⟩
        | true =>
          dsimp only
          split
          · exact ⟨⟨shook.formed, shook.observed, shook.agrees⟩, nofun⟩
          · exact shaken_sound shook (sent.answered rfl) answers

theorem step_sound {plugin after : Plugin Settings Config Handed} {event : Event Settings Choice}
    (sound : plugin.Sound feature view) (keeps : KeepsView feature view plugin event)
    (stepped : step feature plugin event = some after) : after.Sound feature view := by
  cases event with
  | start connecting sending =>
    obtain rfl := Option.some.inj stepped
    exact onStart_sound sound connecting sending
  | edit settings sending =>
    obtain rfl := Option.some.inj stepped
    exact pushConfig_sound feature view { plugin with settings := settings } sound.formed
      sound.observed sending
  | choose choice sending =>
    obtain rfl := Option.some.inj stepped
    exact sendChoice_sound sound sending keeps
  | other sending =>
    obtain rfl := Option.some.inj stepped
    exact sendOther_sound sound sending
  | heartbeat answers =>
    obtain rfl := Option.some.inj stepped
    exact (maintain_sound sound answers).1
  | restart =>
    obtain rfl := Option.some.inj stepped
    exact restart_sound sound

/-- In every run whose choices keep to the condition, a heartbeat that records no error leaves both
ends in agreement. -/
theorem agrees_after_heartbeat {settings : Settings} {plugin : Plugin Settings Config Handed}
    (reached : Reaches (step feature) (KeepsView feature view) (feature.initial settings) plugin)
    (answers : Heartbeat) (clean : (plugin.maintainDriverConnection feature answers).1 = false) :
    (plugin.maintainDriverConnection feature answers).2.Agrees feature view := by
  have sound : plugin.Sound feature view := by
    refine reached.invariant ?_ ?_
    · exact ⟨fun _ member => absurd member (Option.not_mem_none _), le_rfl, fun _ alive =>
        absurd alive (Ipc.not_alive_of_closed rfl)⟩
    · intro before event after sound keeps stepped
      exact step_sound sound keeps stepped
  exact (maintain_sound sound answers).2 clean

end Plugin

/-! ### The two features -/

/-- A C string written into a char array of the given size. -/
def snprintf (size : Nat) (text : Text) : Text :=
  (cString text).take (size - 1)

/-- A cast of an `int` to a byte. -/
def castByte (value : Int) : UInt8 :=
  UInt8.ofNat (value % 256).toNat

def flag (on : Bool) : UInt8 :=
  if on then 1 else 0

/-- The settings of `FacetrackingProfile` that go to the driver. -/
structure FaceSettings where
  eyelidSyncEnabled : Bool := true
  eyelidSyncPreserveWinks : Bool := true
  eyelidSyncStrength : Int := 70
  vergenceLockEnabled : Bool := false
  vergenceLockStrength : Int := 60
  continuousCalibMode : Int := 1
  outputOscEnabled : Bool := true
  gazeSmoothing : Int := 30
  opennessSmoothing : Int := 20
  enabledModuleUuids : List Text := []
deriving DecidableEq

/-- `protocol::FaceTrackingConfig`, with its reserved fields; by default it is zeroed. -/
structure FaceTrackingConfig where
  masterEnabled : UInt8 := 0
  eyelidSyncEnabled : UInt8 := 0
  eyelidSyncPreserveWinks : UInt8 := 0
  vergenceLockEnabled : UInt8 := 0
  continuousCalibMode : UInt8 := 0
  outputOscEnabled : UInt8 := 0
  reservedNative : UInt8 := 0
  reserved1 : UInt8 := 0
  eyelidSyncStrength : UInt8 := 0
  vergenceLockStrength : UInt8 := 0
  gazeSmoothing : UInt8 := 0
  opennessSmoothing : UInt8 := 0
  oscPort : UInt16 := 0
  reserved2 : UInt16 := 0
  oscHost : Text := []
  activeModuleUuid : Text := []
deriving DecidableEq

def moduleUuidLen : Nat := 40

/-- The module on the wire is the first of the enabled ones. -/
def wireModule (uuids : List Text) : Text :=
  snprintf moduleUuidLen (uuids.headD [])

def FaceSettings.encode (settings : FaceSettings) : FaceTrackingConfig where
  masterEnabled := 1
  eyelidSyncEnabled := flag settings.eyelidSyncEnabled
  eyelidSyncPreserveWinks := flag settings.eyelidSyncPreserveWinks
  vergenceLockEnabled := flag settings.vergenceLockEnabled
  continuousCalibMode := castByte settings.continuousCalibMode
  outputOscEnabled := flag settings.outputOscEnabled
  eyelidSyncStrength := castByte settings.eyelidSyncStrength
  vergenceLockStrength := castByte settings.vergenceLockStrength
  gazeSmoothing := castByte settings.gazeSmoothing
  opennessSmoothing := castByte settings.opennessSmoothing
  activeModuleUuid := wireModule settings.enabledModuleUuids

/-- The face tracking plugin: the choice of modules has a request of its own. -/
def faceTracking : Feature FaceSettings FaceTrackingConfig Text (List Text) where
  blank := {}
  encode := FaceSettings.encode
  hand := FaceTrackingConfig.activeModuleUuid
  choose uuids settings := { settings with enabledModuleUuids := uuids }
  selection := wireModule
  hand_choose _ _ := rfl
  closesOnError := false
  reportsOther := true

/-- The settings of the captions plugin. -/
structure CaptionsSettings where
  mode : Int := 0
  sourceLang : Text := ascii "auto"
  targetLang : Text := []
  chatboxAddress : Text := ascii "/chatbox/input"
  notifySound : Bool := false
deriving DecidableEq

/-- `protocol::CaptionsConfig`; by default it is zeroed. -/
structure CaptionsConfig where
  masterEnabled : UInt8 := 0
  mode : UInt8 := 0
  notifySound : UInt8 := 0
  transcriptLogging : UInt8 := 0
  chatboxPort : UInt16 := 0
  sourceLang : Text := []
  targetLang : Text := []
  chatboxAddress : Text := []
deriving DecidableEq

def captionsLangLen : Nat := 16
def captionsAddrLen : Nat := 48

def CaptionsSettings.encode (settings : CaptionsSettings) : CaptionsConfig where
  masterEnabled := 1
  mode := castByte settings.mode
  notifySound := flag settings.notifySound
  chatboxPort := 9000
  sourceLang := snprintf captionsLangLen settings.sourceLang
  targetLang := snprintf captionsLangLen settings.targetLang
  chatboxAddress := snprintf captionsAddrLen settings.chatboxAddress

/-- The captions plugin: nothing of its configuration has a request of its own. -/
def captions : Feature CaptionsSettings CaptionsConfig Unit Empty where
  blank := {}
  encode := CaptionsSettings.encode
  hand _ := ()
  choose := Empty.elim
  selection := Empty.elim
  hand_choose := Empty.rec
  closesOnError := true
  reportsOther := false

/-- The configuration without its module. -/
def withoutModule (config : FaceTrackingConfig) : FaceTrackingConfig :=
  { config with activeModuleUuid := [] }

/-- The condition: a list of modules that is sent over a connection that has had its push begins
with the same module as the one before. -/
def KeepsFirstModule (plugin : Plugin FaceSettings FaceTrackingConfig Text) :
    Event FaceSettings (List Text) → Prop
  | .choose uuids _ => plugin.link.pipe ≠ none → plugin.link.generation = plugin.observed →
      wireModule uuids = wireModule plugin.settings.enabledModuleUuids
  | _ => True

instance (plugin : Plugin FaceSettings FaceTrackingConfig Text)
    (event : Event FaceSettings (List Text)) : Decidable (KeepsFirstModule plugin event) :=
  match event with
  | .choose _ _ => inferInstanceAs (Decidable (_ → _))
  | .start _ _ | .edit _ _ | .other _ | .heartbeat _ | .restart => isTrue trivial

theorem KeepsFirstModule.keepsView {plugin : Plugin FaceSettings FaceTrackingConfig Text}
    {event : Event FaceSettings (List Text)} (keeps : KeepsFirstModule plugin event) :
    KeepsView faceTracking id plugin event := by
  cases event with
  | choose uuids sending =>
    intro opened fresh
    exact congrArg (fun uuid => { plugin.settings.encode with activeModuleUuid := uuid })
      (keeps opened fresh)
  | start | edit | other | heartbeat | restart => trivial

/-- After a heartbeat that records no error: the captions configuration in the driver is what the
settings encode to, in every run; so is the face tracking configuration but for its module, and its
supervisor was last handed the current module, in every run; and so is the whole configuration in
every run whose selections keep to the condition. -/
theorem configurations_agree (captionsSettings : CaptionsSettings) (faceSettings : FaceSettings)
    (answers : Heartbeat) :
    (∀ plugin,
      Reaches (step captions) (fun _ _ => True) (captions.initial captionsSettings) plugin →
      (plugin.maintainDriverConnection captions answers).1 = false →
        (plugin.maintainDriverConnection captions answers).2.Agrees captions id) ∧
    (∀ plugin,
      Reaches (step faceTracking) (fun _ _ => True) (faceTracking.initial faceSettings) plugin →
      (plugin.maintainDriverConnection faceTracking answers).1 = false →
        (plugin.maintainDriverConnection faceTracking answers).2.Agrees faceTracking
          withoutModule) ∧
    (∀ plugin,
      Reaches (step faceTracking) KeepsFirstModule (faceTracking.initial faceSettings) plugin →
      (plugin.maintainDriverConnection faceTracking answers).1 = false →
        (plugin.maintainDriverConnection faceTracking answers).2.Agrees faceTracking id) := by
  refine ⟨fun plugin reached clean => ?_, fun plugin reached clean => ?_,
    fun plugin reached clean => ?_⟩
  · refine agrees_after_heartbeat (reached.mono fun before event _ => ?_) answers clean
    cases event with
    | choose choice => exact choice.elim
    | start | edit | other | heartbeat | restart => trivial
  · refine agrees_after_heartbeat (reached.mono fun before event _ => ?_) answers clean
    cases event with
    | choose choice => exact fun _ _ => rfl
    | start | edit | other | heartbeat | restart => trivial
  · exact agrees_after_heartbeat (reached.mono fun _ _ keeps => keeps.keepsView) answers clean

/-- A module is enabled, the driver comes up, and the heartbeat pushes over the new connection. -/
def pushedModule : List (Event FaceSettings (List Text)) :=
  [.start {} {}, .heartbeat {}]

/-- An edit is lost with the pipe; the heartbeat after it connects to a driver that was restarted, and
leaves it in agreement. -/
theorem lost_edit_is_repaired :
    ∃ plugin, Reaches (step faceTracking) KeepsFirstModule
        (faceTracking.initial { enabledModuleUuids := [[65]] }) plugin ∧
      plugin.link.driver.config = {} ∧
      (plugin.maintainDriverConnection faceTracking {}).1 = false ∧
      (plugin.maintainDriverConnection faceTracking {}).2.link.driver.config.gazeSmoothing = 50 ∧
      (plugin.maintainDriverConnection faceTracking {}).2.Agrees faceTracking id := by
  obtain ⟨plugin, reached, lost, clean, pushed⟩ :
      ∃ plugin, Reaches (step faceTracking) KeepsFirstModule
          (faceTracking.initial { enabledModuleUuids := [[65]] }) plugin ∧
        plugin.link.driver.config = {} ∧
        (plugin.maintainDriverConnection faceTracking {}).1 = false ∧
        (plugin.maintainDriverConnection faceTracking {}).2.link.driver.config.gazeSmoothing = 50 :=
    reaches_evaluates (pushedModule ++ [.edit { gazeSmoothing := 50, enabledModuleUuids := [[65]] }
      { exchange := { first := { restarts := true, broken := false } } }]) (by decide +kernel)
  exact ⟨plugin, reached, lost, clean, pushed,
    (configurations_agree {} { enabledModuleUuids := [[65]] } {}).2.2 plugin reached clean⟩

/-- Another module is selected over the open pipe. The heartbeat records no error, the supervisor has
the new module, and the configuration in the driver still names the old one. -/
theorem selected_module_is_not_stored :
    ∃ plugin, Reaches (step faceTracking) (fun _ _ => True)
        (faceTracking.initial { enabledModuleUuids := [[65]] }) plugin ∧
      (plugin.maintainDriverConnection faceTracking {}).1 = false ∧
      (plugin.maintainDriverConnection faceTracking {}).2.settings.enabledModuleUuids = [[66]] ∧
      (plugin.maintainDriverConnection faceTracking {}).2.link.driver.handed = some [66] ∧
      (plugin.maintainDriverConnection faceTracking {}).2.link.driver.config.activeModuleUuid = [65] ∧
      ¬(plugin.maintainDriverConnection faceTracking {}).2.Agrees faceTracking id :=
  reaches_evaluates (pushedModule ++ [.choose [[66]] {}]) (by decide +kernel)

end PairDriver.ConfigAgreement
