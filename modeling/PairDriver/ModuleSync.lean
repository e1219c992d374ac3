/-
This file models how the face tracking overlay keeps its modules: the catalogue
of sources, the sync script that installs and removes modules, the queue that
runs one script at a time, and the list of enabled modules in the profile. The
start-up, the tick and the modules tab are the events of a machine whose state
is what lies on disk and what the running overlay holds.
-/

import PairDriver.Machine
import PairDriver.Bytes

namespace PairDriver.ModuleSync

/-- A string of the source, as its bytes. -/
abbrev Text := List UInt8

/-! ### Sources and installed modules -/

inductive SourceKind where
  | registry
  | folder
  | gitHub
deriving DecidableEq

/-- An entry of `sources.json`. -/
structure ModuleSource where
  id : Text
  kind : SourceKind := .registry
  url : Text := []
  path : Text := []
  ownerRepo : Text := []
  autoUpdate : Bool := false
  lastCheckedAt : Text := []
  lastReleaseTag : Text := []
deriving DecidableEq

/-- A version directory of a module with its manifest; the source and the tag come from its
`source.json` and are empty without one. -/
structure InstalledModule where
  uuid : Text
  version : Text
  sourceId : Text := []
  releaseTag : Text := []
deriving DecidableEq

/-- The built-in registry. -/
def registrySource : ModuleSource where
  id := List.replicate 31 48 ++ [49]
  kind := .registry
  url := ascii "https://legacy-registry.whyknot.dev"
  autoUpdate := true

/-- The entries of the file that have an id. -/
def loadSourcesCatalogue (file : List ModuleSource) : List ModuleSource :=
  file.filter fun source => source.id ≠ []

/-- The catalogue with the built-in registry in it. -/
def ensureSourcesCatalogue (file : List ModuleSource) : List ModuleSource :=
  let catalogue := loadSourcesCatalogue file
  if catalogue.any fun source => source.id = registrySource.id then catalogue
  else registrySource :: catalogue

/-- The file after the catalogue was asked for: it is written only to seed the registry. -/
def seededSources (file : List ModuleSource) : List ModuleSource :=
  if (loadSourcesCatalogue file).any fun source => source.id = registrySource.id then file
  else ensureSourcesCatalogue file

/-! ### The operations of the sync runner -/

inductive Action where
  | add
  | update
  | remove
deriving DecidableEq

/-- The description of a source that is handed to the script; an absent property is `none`. -/
structure SourceData where
  id : Text
  kind : SourceKind
  path : Option Text := none
  ownerRepo : Option Text := none
  url : Option Text := none
  lastReleaseTag : Option Text := none
deriving DecidableEq

structure PendingOp where
  action : Action
  sourceData : Option SourceData := none
  sourceId : Text
deriving DecidableEq

/-- A property that is left out when its text is empty. -/
def property? (text : Text) : Option Text :=
  if text = [] then none else some text

/-- What the modules tab hands to the script. -/
def buildSourceDataJson (source : ModuleSource) : SourceData where
  id := source.id
  kind := source.kind
  path := property? source.path
  ownerRepo := property? source.ownerRepo
  url := property? source.url

/-- What the start-up hands to the script. -/
def autoUpdateData (source : ModuleSource) : SourceData where
  id := source.id
  kind := .gitHub
  ownerRepo := some source.ownerRepo
  lastReleaseTag := some source.lastReleaseTag

/-! ### The sync script -/

/-- The outcomes the script and the runner report, one for each text. -/
inductive Message where
  | sourceIdRequired
  | removed
  | sourceDataRequired
  | folderNotFound
  | noManifest
  | manifestIncomplete
  | installedFromFolder
  | ownerRepoRequired
  | apiError
  | upToDate
  | noZipAsset
  | downloadFailed
  | extractionFailed
  | installedRelease
  | noUrl
  | indexFetchFailed
  | noModulesArray
  | registrySummary
  | timedOut
  | parseError
  | done
  | failed
deriving DecidableEq

structure SyncResult where
  ok : Bool
  message : Message
  installedUuid : Text := []
  installedVersion : Text := []
deriving DecidableEq

structure Manifest where
  uuid : Text
  version : Text
deriving DecidableEq

/-- The first zip of a release, and what becomes of it. -/
structure ZipAsset where
  downloads : Bool := true
  extracts : Bool := true
  manifest : Option Manifest
deriving DecidableEq

/-- The answer about the latest release of a repository. -/
structure Release where
  tagName : Text
  zip : Option ZipAsset
deriving DecidableEq

/-- An entry of a registry's index. `manifestVersion` is the version in the manifest, if it has
one; the outer `none` is a failed fetch. -/
structure IndexEntry where
  uuid : Text
  version : Text
  manifestVersion : Option (Option Text)
  downloads : Bool := true
  shaMatches : Bool := true
  extracts : Bool := true
  copies : Bool := true
deriving DecidableEq

/-- What a run of the script finds outside: the folder with its manifest, the latest release and
the index of the registry with its array of modules. -/
structure Surroundings where
  folder : Option (Option Manifest) := none
  release : Option Release := none
  index : Option (Option (List IndexEntry)) := none
deriving DecidableEq

/-- A comparison of the script, which does not tell upper from lower case. -/
def sameText (first second : Text) : Bool :=
  let lower (byte : UInt8) : UInt8 := if 65 ≤ byte ∧ byte ≤ 90 then byte + 32 else byte
  first.map lower = second.map lower

/-- The version directory is filled, replacing what was there. -/
def copyModuleFolder (entry : InstalledModule) (modules : List InstalledModule) :
    List InstalledModule :=
  modules.filter (fun other => ¬(other.uuid = entry.uuid ∧ other.version = entry.version)) ++
    [entry]

def removeSourceModules (sourceId : Text) (modules : List InstalledModule) :
    List InstalledModule :=
  modules.filter fun entry => !sameText entry.sourceId sourceId

/-- A run that ends with an error, and installs nothing. -/
def fails (modules : List InstalledModule) (message : Message) :
    List InstalledModule × SyncResult :=
  (modules, ⟨false, message, [], []⟩)

/-- A manifest that names the module and its version. -/
def Manifest.complete (manifest : Manifest) : Bool :=
  manifest.uuid ≠ [] ∧ manifest.version ≠ []

/-- The branch for a folder. -/
def syncFolder (source : SourceData) (folder : Option (Option Manifest))
    (modules : List InstalledModule) : List InstalledModule × SyncResult :=
  if source.path.getD [] = [] then fails modules .folderNotFound
  else
    match folder with
    | none => fails modules .folderNotFound
    | some none => fails modules .noManifest
    | some (some manifest) =>
      if manifest.complete then
        (copyModuleFolder ⟨manifest.uuid, manifest.version, source.id, []⟩ modules,
          ⟨true, .installedFromFolder, manifest.uuid, manifest.version⟩)
      else fails modules .manifestIncomplete

/-- A release is downloaded and unpacked. -/
def Release.unpack (release : Release) : Except Message Manifest :=
  match release.zip with
  | none => .error .noZipAsset
  | some zip =>
    if ¬zip.downloads then .error .downloadFailed
    else if ¬zip.extracts then .error .extractionFailed
    else
      match zip.manifest with
      | none => .error .noManifest
      | some manifest => if manifest.complete then .ok manifest else .error .manifestIncomplete

/-- The branch for a repository. -/
def syncGitHub (action : Action) (source : SourceData) (latest : Option Release)
    (modules : List InstalledModule) : List InstalledModule × SyncResult :=
  if source.ownerRepo.getD [] = [] then fails modules .ownerRepoRequired
  else
    match latest with
    | none => fails modules .apiError
    | some release =>
      if action = .update ∧ sameText (source.lastReleaseTag.getD []) release.tagName then
        (modules, ⟨true, .upToDate, [], []⟩)
      else
        match release.unpack with
        | .error message => fails modules message
        | .ok manifest =>
          (copyModuleFolder ⟨manifest.uuid, manifest.version, source.id, release.tagName⟩ modules,
            ⟨true, .installedRelease, manifest.uuid, manifest.version⟩)

/-- A version of a module lies on disk with its manifest. -/
def hasVersion (modules : List InstalledModule) (uuid version : Text) : Bool :=
  modules.any fun entry => entry.uuid = uuid ∧ entry.version = version

/-- One entry of the index: whether it failed, and what is installed afterwards. -/
def syncIndexEntry (sourceId : Text) (state : List InstalledModule × Nat) (entry : IndexEntry) :
    List InstalledModule × Nat :=
  let (modules, failed) := state
  if entry.uuid = [] ∨ entry.version = [] then (modules, failed + 1)
  else if hasVersion modules entry.uuid entry.version then state
  else
    match entry.manifestVersion with
    | none => (modules, failed + 1)
    | some manifestVersion =>
      let version := manifestVersion.getD entry.version
      if version ≠ entry.version ∧ hasVersion modules entry.uuid version then state
      else if entry.downloads ∧ entry.shaMatches ∧ entry.extracts ∧ entry.copies then
        (copyModuleFolder ⟨entry.uuid, version, sourceId, []⟩ modules, failed)
      else (modules, failed + 1)

/-- The branch for a registry. -/
def syncRegistry (source : SourceData) (index : Option (Option (List IndexEntry)))
    (modules : List InstalledModule) : List InstalledModule × SyncResult :=
  if source.url.getD [] = [] then fails modules .noUrl
  else
    match index with
    | none => fails modules .indexFetchFailed
    | some none => fails modules .noModulesArray
    | some (some entries) =>
      let (after, failed) := entries.foldl (syncIndexEntry source.id) (modules, 0)
      (after, ⟨failed = 0, .registrySummary, [], []⟩)

/-- A whole run of `face-module-sync.ps1`. -/
def faceModuleSync (op : PendingOp) (outside : Surroundings) (modules : List InstalledModule) :
    List InstalledModule × SyncResult :=
  match op.action with
  | .remove =>
    if op.sourceId = [] then fails modules .sourceIdRequired
    else (removeSourceModules op.sourceId modules, ⟨true, .removed, [], []⟩)
  | .add | .update =>
    match op.sourceData with
    | none => fails modules .sourceDataRequired
    | some source =>
      match source.kind with
      | .folder => syncFolder source outside.folder modules
      | .gitHub => syncGitHub op.action source outside.release modules
      | .registry => syncRegistry source outside.index modules

/-! ### The sync runner -/

/-- How a script process ended: its exit code, and its result file, which may not open or may not
parse. -/
structure Exit where
  code : Nat := 0
  file : Option (Option SyncResult)
deriving DecidableEq

structure Process where
  op : PendingOp
  exited : Option Exit := none
deriving DecidableEq

structure Runner where
  queue : List PendingOp := []
  proc : Option Process := none
deriving DecidableEq

/-- The next operation leaves the queue; its process may fail to start. -/
def Runner.launchNext (launches : PendingOp → Bool) (runner : Runner) : Runner :=
  match runner.queue with
  | [] => runner
  | op :: rest =>
    if launches op then { queue := rest, proc := some { op := op } }
    else { runner with queue := rest }

/-- `StartAdd`, `StartUpdate` and `StartRemove`: an operation beyond the eighth is dropped. -/
def Runner.enqueue (launches : PendingOp → Bool) (op : PendingOp) (runner : Runner) : Runner :=
  if 8 ≤ runner.queue.length then runner
  else
    let queued := { runner with queue := runner.queue ++ [op] }
    if runner.proc.isSome then queued else queued.launchNext launches

/-- The result of a process that has ended. -/
def Exit.result (exit : Exit) : SyncResult :=
  match exit.file with
  | none => ⟨exit.code = 0, if exit.code = 0 then .done else .failed, [], []⟩
  | some none => ⟨false, .parseError, [], []⟩
  | some (some result) => result

/-- One poll; `late` tells whether the process has run for more than 90 seconds. -/
def Runner.poll (launches : PendingOp → Bool) (late : Bool) (runner : Runner) :
    Runner × Option SyncResult :=
  match runner.proc with
  | none => (runner.launchNext launches, none)
  | some process =>
    let idle := { runner with proc := none }
    match process.exited with
    | none =>
      if late then (idle.launchNext launches, some ⟨false, .timedOut, [], []⟩) else (runner, none)
    | some exit => (idle.launchNext launches, some exit.result)

/-! ### When a source is due -/

/-- The number a `%d` reads, after blanks and a sign. -/
def scanInt (text : Text) : Option (Int × Text) :=
  let unblanked := text.dropWhile fun byte => byte = 32 ∨ 9 ≤ byte ∧ byte ≤ 13
  let negative := unblanked.head? = some 45
  let unsigned := if negative ∨ unblanked.head? = some 43 then unblanked.tail else unblanked
  let digits := unsigned.takeWhile fun byte => 48 ≤ byte ∧ byte ≤ 57
  let value := digits.foldl (fun (value : Int) byte => value * 10 + (byte.toNat - 48)) 0
  if digits = [] then none
  else some (if negative then -value else value, unsigned.drop digits.length)

/-- A plain character of a scan format. -/
def scanLiteral (byte : UInt8) : Text → Option Text
  | [] => none
  | first :: rest => if first = byte then some rest else none

/-- The broken-down time, with the month from zero and the year from 1900. -/
structure BrokenDownTime where
  year : Int
  month : Int
  day : Int
  hour : Int
  minute : Int
  second : Int

/-- The six numbers of `YYYY-MM-DDTHH:MM:SSZ`. -/
def scanTimestamp (text : Text) : Option BrokenDownTime := do
  let (year, text) ← scanInt text
  let (month, text) ← scanInt (← scanLiteral 45 text)
  let (day, text) ← scanInt (← scanLiteral 45 text)
  let (hour, text) ← scanInt (← scanLiteral 84 text)
  let (minute, text) ← scanInt (← scanLiteral 58 text)
  let (second, _) ← scanInt (← scanLiteral 58 text)
  return ⟨year - 1900, month - 1, day, hour, minute, second⟩

/-- The days from the epoch to the first of a month, in the Gregorian calendar; the months count
from March, so that the leap day comes last. -/
def daysBeforeMonth (year month : Int) : Int :=
  let shifted := year * 12 + month - 2
  let marchYear := shifted / 12
  let marchMonth := shifted % 12
  marchYear * 365 + marchYear / 4 - marchYear / 100 + marchYear / 400 +
    (153 * marchMonth + 2) / 5 - 719468

/-- The time in seconds; fields beyond their range carry over, and only the times from 1970 to 3000
are defined. -/
def mkgmtime (time : BrokenDownTime) : Option Int :=
  let days := daysBeforeMonth (time.year + 1900) time.month + time.day - 1
  let seconds := ((days * 24 + time.hour) * 60 + time.minute) * 60 + time.second
  if 0 ≤ seconds ∧ seconds < (daysBeforeMonth 3001 0) * 86400 then some seconds else none

/-- Six hours. -/
def autoUpdateInterval : Int := 6 * 60 * 60

/-- Whether a source is due at a start. -/
def needsCheck (now : Int) (lastCheckedAt : Text) : Bool :=
  if lastCheckedAt = [] then true
  else
    match (scanTimestamp lastCheckedAt).bind mkgmtime with
    | none => true
    | some last => autoUpdateInterval ≤ now - last

/-- The sources a start asks to update. -/
def autoUpdates (now : Int) (catalogue : List ModuleSource) : List ModuleSource :=
  catalogue.filter fun source =>
    source.kind = .gitHub ∧ source.autoUpdate ∧ needsCheck now source.lastCheckedAt

/-! ### The enabled modules -/

/-- The list under construction, and whether it differs from the current one. -/
structure Pruned where
  next : List Text := []
  changed : Bool := false

/-- One entry is kept if it is installed and not a repetition. -/
def pruneEntry (installed : List Text) (pruned : Pruned) (uuid : Text) : Pruned :=
  if uuid ∉ installed then { pruned with changed := true }
  else if uuid ∉ pruned.next then { pruned with next := pruned.next ++ [uuid] }
  else { pruned with changed := true }

/-- The uuids found on disk. -/
def installedUuids (modules : List InstalledModule) : List Text :=
  (modules.map (·.uuid)).filter fun uuid => uuid ≠ []

/-- `ReconcileEnabledModulesWithInstalled`: the list it sends, if it sends one. -/
def reconcileEnabledModules (preferred : Text) (modules : List InstalledModule)
    (current : List Text) : Option (List Text) :=
  let installed := installedUuids modules
  let pruned := current.foldl (pruneEntry installed) {}
  if preferred ≠ [] ∧ preferred ∈ installed then
    if preferred ∉ pruned.next then some (preferred :: pruned.next)
    else if pruned.changed ∨ pruned.next.head? = some preferred then some pruned.next
    else none
  else if pruned.changed then some pruned.next
  else none

/-! ### The overlay -/

/-- The state of the modules tab: its last scan. -/
structure TabState where
  installed : List InstalledModule := []
  catalogue : List ModuleSource := []
deriving DecidableEq

/-- What lies on disk (`sources.json`, the module directories and the list of enabled modules in the
profile), and what the running overlay holds. -/
structure World where
  sources : List ModuleSource := []
  modules : List InstalledModule := []
  profile : List Text := []
  enabled : List Text := []
  runner : Runner := {}
  tab : TabState := {}
deriving DecidableEq

/-- A list is taken over and saved. -/
def World.sendEnabledModules (uuids : List Text) (world : World) : World :=
  { world with enabled := uuids, profile := uuids }

/-- The list of the profile file; empty entries are not read. -/
def loadEnabled (profile : List Text) : List Text :=
  profile.filter fun uuid => uuid ≠ []

/-- A start of the overlay: what the process before it held is gone. -/
def World.onStart (now : Int) (launches : PendingOp → Bool) (world : World) : World :=
  { world with
    sources := seededSources world.sources
    enabled := loadEnabled world.profile
    runner := (autoUpdates now (ensureSourcesCatalogue world.sources)).foldl
      (fun runner source => runner.enqueue launches ⟨.update, autoUpdateData source, source.id⟩) {}
    tab := {} }

/-- The uuid of a successful result is reconciled with the modules on disk. -/
def World.reconcile (uuid : Text) (world : World) : World :=
  match reconcileEnabledModules uuid world.modules world.enabled with
  | some next => world.sendEnabledModules next
  | none => world

/-- A poll by the tick. -/
def World.tick (launches : PendingOp → Bool) (late : Bool) (world : World) : World :=
  let (runner, result) := world.runner.poll launches late
  let polled := { world with runner := runner }
  match result with
  | none => polled
  | some result =>
    let refreshed := { polled with sources := seededSources world.sources }
    if result.ok then refreshed.reconcile result.installedUuid else refreshed

/-- A poll by the modules tab. -/
def World.drawSources (launches : PendingOp → Bool) (late : Bool) (world : World) : World :=
  let (runner, result) := world.runner.poll launches late
  let polled := { world with runner := runner }
  match result with
  | none => polled
  | some result =>
    if result.ok then
      { polled with
        sources := seededSources world.sources
        tab := { world.tab with catalogue := ensureSourcesCatalogue world.sources } }.reconcile
          result.installedUuid
    else polled

/-- A click on one row of the table: the box shows what the profile holds. -/
def clickRow (current next : List Text) (uuid : Text) : List Text :=
  if uuid ∉ current then if uuid ∈ next then next else next ++ [uuid]
  else next.filter (· ≠ uuid)

/-- The rows of the table whose boxes are clicked in one frame. -/
def World.clickedRows (clicked : InstalledModule → Bool) (world : World) : List Text :=
  (world.tab.installed.filter clicked).map (·.uuid)

/-- A frame of the table of installed modules. -/
def World.drawInstalled (clicked : InstalledModule → Bool) (world : World) : World :=
  match world.clickedRows clicked with
  | [] => world
  | rows => world.sendEnabledModules (rows.foldl (clickRow world.enabled) world.enabled)

/-- The modules the last scan found from a source are taken out of the list. -/
def World.disableModulesFromSource (sourceId : Text) (world : World) : World :=
  if sourceId = [] then world
  else
    let next := (world.tab.installed.filter (·.sourceId = sourceId)).foldl
      (fun next entry => next.filter (· ≠ entry.uuid)) world.enabled
    if next.length ≠ world.enabled.length then world.sendEnabledModules next else world

/-- An edited catalogue is shown and saved. -/
def World.saveCatalogue (catalogue : List ModuleSource) (world : World) : World :=
  { world with tab := { world.tab with catalogue := catalogue }, sources := catalogue }

/-- A new source is appended, and its first install is queued. -/
def World.addSource (launches : PendingOp → Bool) (source : ModuleSource) (world : World) : World :=
  let saved := world.saveCatalogue (world.tab.catalogue ++ [source])
  { saved with runner := saved.runner.enqueue launches ⟨.add, buildSourceDataJson source, source.id⟩ }

/-! ### Events -/

inductive Event where
  | start (now : Int) (launches : PendingOp → Bool)
  | save
  | refresh
  | click (clicked : InstalledModule → Bool)
  | setAutoUpdate (index : Nat) (on : Bool)
  | sync (index : Nat) (launches : PendingOp → Bool)
  | remove (index : Nat) (launches : PendingOp → Bool)
  | addFolder (id path : Text) (launches : PendingOp → Bool)
  | addGitHub (id ownerRepo : Text) (launches : PendingOp → Bool)
  | tick (now : Int) (launches : PendingOp → Bool) (late : Bool)
  | drawSources (now : Int) (launches : PendingOp → Bool) (late : Bool)
  | exit (outside : Surroundings)
  | crash (modules : List InstalledModule) (code : Nat)
  | touch (modules : List InstalledModule)

/-- The script process ends. -/
def World.exits (process : Process) (modules : List InstalledModule) (exit : Exit)
    (world : World) : World :=
  { world with
    modules := modules
    runner := { world.runner with proc := some { process with exited := some exit } } }

/-- One event; undefined where the tab does not offer it or no script is running. A crash leaves the
modules in any state and no result behind; a touch is a change made from outside. -/
def step (world : World) : Event → Option World
  | .start now launches => some (world.onStart now launches)
  | .save => some { world with profile := world.enabled }
  | .refresh => some
      { world with
        sources := seededSources world.sources
        tab := ⟨world.modules, ensureSourcesCatalogue world.sources⟩ }
  | .click clicked => some (world.drawInstalled clicked)
  | .setAutoUpdate index on =>
    match world.tab.catalogue[index]? with
    | some source =>
      if source.kind = .gitHub then
        some (world.saveCatalogue (world.tab.catalogue.set index { source with autoUpdate := on }))
      else none
    | none => none
  | .sync index launches =>
    match world.tab.catalogue[index]? with
    | some source =>
      if world.runner.proc.isSome ∨ source.id = [] then none
      else
        let op : PendingOp := ⟨.update, buildSourceDataJson source, source.id⟩
        some { world with runner := world.runner.enqueue launches op }
    | none => none
  | .remove index launches =>
    match world.tab.catalogue[index]? with
    | some source =>
      if world.runner.proc.isSome ∨ source.kind = .registry then none
      else
        let disabled := world.disableModulesFromSource source.id
        some { disabled.saveCatalogue (world.tab.catalogue.eraseIdx index) with
          runner := world.runner.enqueue launches ⟨.remove, none, source.id⟩ }
    | none => none
  | .addFolder id path launches =>
    if world.runner.proc.isSome ∨ path = [] then none
    else some (world.addSource launches { id := id, kind := .folder, path := path })
  | .addGitHub id ownerRepo launches =>
    if ownerRepo = [] then none
    else some (world.addSource launches
      { id := id, kind := .gitHub, ownerRepo := ownerRepo, autoUpdate := true })
  | .tick _ launches late => some (world.tick launches late)
  | .drawSources _ launches late => some (world.drawSources launches late)
  | .exit outside =>
    match world.runner.proc with
    | some ⟨op, none⟩ =>
      let (modules, result) := faceModuleSync op outside world.modules
      some (world.exits ⟨op, none⟩ modules
        { code := if result.ok then 0 else 1, file := some (some result) })
    | _ => none
  | .crash modules code =>
    match world.runner.proc with
    | some ⟨op, none⟩ => some (world.exits ⟨op, none⟩ modules { code := code, file := some none })
    | _ => none
  | .touch modules => some { world with modules := modules }

/-- The overlay of a new installation after its first start. -/
def fresh : World := { sources := [registrySource] }

end PairDriver.ModuleSync
