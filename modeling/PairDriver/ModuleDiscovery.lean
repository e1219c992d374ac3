/-
This file models how the face module host finds its modules: `LoadAllAsync`, which
looks into the install directory, `TryDiscoverModuleAsync`, which makes a module of
one version directory, and `SelectActive`, which scans again and takes the module
of an identifier. What is on the disk is arbitrary, up to the null fields that the
JSON reader lets through.

Of each module directory only one version is looked at, the one whose path sorts
last as a string. So the newest complete version is found exactly if the order of
the strings puts it there; and the scan throws on an identifier that its messages
cannot abbreviate.
-/

import Mathlib.Data.List.Lex
import Mathlib.Data.List.MinMax
import Mathlib.Data.List.Nodup

namespace PairDriver.ModuleDiscovery

/-! ### Texts -/

/-- A string of the source, as its UTF-16 code units. -/
abbrev Text := List UInt16

/-- The code units of a literal. -/
def text (literal : String) : Text :=
  literal.toList.map fun character => UInt16.ofNat character.toNat

/-- `char.IsWhiteSpace`. -/
def isWhiteSpace (unit : UInt16) : Bool :=
  [0x20, 0x85, 0xA0, 0x1680, 0x2028, 0x2029, 0x202F, 0x205F, 0x3000].contains unit ||
    (0x09 ≤ unit && unit ≤ 0x0D) || (0x2000 ≤ unit && unit ≤ 0x200A)

/-- `string.IsNullOrWhiteSpace` of a string. -/
def isBlank (uuid : Text) : Bool :=
  uuid.all isWhiteSpace

/-- The range `[..8]`, which throws for a shorter string. -/
def abbreviation? (uuid : Text) : Option Text :=
  if uuid.length < 8 then none else some (uuid.take 8)

def isSeparator (unit : UInt16) : Bool :=
  unit = 0x5C || unit = 0x2F

/-- `Path.IsPathRooted`. -/
def isPathRooted : Text → Bool
  | [] => false
  | first :: rest => isSeparator first ||
    (((0x41 ≤ first && first ≤ 0x5A) || (0x61 ≤ first && first ≤ 0x7A)) && rest.head? = some 0x3A)

/-- `Path.Combine` of two paths. -/
def pathCombine (path child : Text) : Text :=
  if path = [] then child
  else if child = [] then path
  else if isPathRooted child then child
  else if path.getLast?.any isSeparator then path ++ child
  else path ++ 0x5C :: child

/-! ### The disk -/

/-- What there is of a JSON file: none, one the reader throws on, or what it reads. -/
inductive JsonFile (Value : Type) where
  | missing
  | malformed
  | parsed (value : Value)
deriving DecidableEq

/-- The fields of a manifest that the host uses. They are required, but may be null. -/
structure Manifest where
  uuid : Option Text
  name : Option Text
  entryAssembly : Option Text
  entryType : Option Text
deriving DecidableEq

structure BridgeConfig where
  upstreamAssembly : Option Text
deriving DecidableEq

/-- A version directory with its `manifest.json` and its `assemblies/bridge.json`. -/
structure VersionDir where
  name : Text
  manifest : JsonFile Manifest
  bridge : JsonFile BridgeConfig := .missing
deriving DecidableEq

structure UuidDir where
  name : Text
  versions : List VersionDir
deriving DecidableEq

/-- The install directory, if it exists, in the order of its enumeration, and `File.Exists`. -/
structure Disk where
  modulesInstallDir : Text
  uuidDirs : Option (List UuidDir)
  fileExists : Text → Bool
  distinct : ∀ dirs ∈ uuidDirs, (dirs.map UuidDir.name).Nodup

/-- The module directories there are. -/
def Disk.dirs (disk : Disk) : List UuidDir :=
  disk.uuidDirs.getD []

theorem Disk.dirs_distinct (disk : Disk) : (disk.dirs.map UuidDir.name).Nodup := by
  unfold Disk.dirs
  cases dirs : disk.uuidDirs with
  | none => exact List.nodup_nil
  | some dirs => exact disk.distinct _ dirs

/-- The path of a version directory. -/
def Disk.versionPath (disk : Disk) (dir : UuidDir) (version : VersionDir) : Text :=
  pathCombine (pathCombine disk.modulesInstallDir dir.name) version.name

/-! ### The host -/

/-- A loaded module. The names of the directories it was found in are recorded for the
specification. -/
structure DiscoveredModule where
  uuid : Text
  manifest : Manifest
  moduleDllPath : Text
  uuidDir : Text
  versionDir : Text
deriving DecidableEq

/-- The phases that discovery and selection set, and the one for those of the loop. -/
inductive Phase where
  | running
  | discoveringModules
  | noModules
  | modulesLoaded
  | moduleDisabled
  | moduleSelectFailed
  | moduleSelected
deriving DecidableEq

structure SubprocessManager where
  loaded : List DiscoveredModule := []
  activeModule : Option DiscoveredModule := none
  breakerUuid : Option Text := none
  breakerCount : Nat := 0
  phase : Phase := .running
  lastError : Text := []
deriving DecidableEq

inductive Exception where
  | argumentNull
  | argumentOutOfRange
deriving DecidableEq

/-- How a call ends: what it leaves, and the exception it throws. -/
structure Completion where
  manager : SubprocessManager
  exception : Option Exception
deriving DecidableEq

/-- `SetPhase`. Only the phases that end in `failed` keep the last error. -/
def SubprocessManager.setPhase (phase : Phase) (error : Option Text) (manager : SubprocessManager) :
    SubprocessManager :=
  { manager with
    phase := phase
    lastError := match error with
      | some error => error
      | none => if phase = .moduleSelectFailed then manager.lastError else [] }

/-! ### Discovery -/

def vrcftCompatAdapterType : Text :=
  text "OpenVRPair.FaceTracking.VrcftCompat." ++ text "ReflectingExtTrackingModuleAdapter"

/-- The path of the library of a version, none if it is skipped. Only the bridge is read inside a
`try`. -/
def Disk.moduleDllPath (disk : Disk) (dir : UuidDir) (version : VersionDir) (manifest : Manifest) :
    Except Exception (Option Text) :=
  let assemblies := pathCombine (disk.versionPath dir version) (text "assemblies")
  if manifest.entryType = some vrcftCompatAdapterType then
    match version.bridge with
    | .parsed config => .ok (config.upstreamAssembly.map (pathCombine assemblies))
    | _ => .ok none
  else match manifest.entryAssembly with
    | none => .error .argumentNull
    | some entryAssembly => .ok (some (pathCombine assemblies entryAssembly))

/-- `TryDiscoverModuleAsync`, which throws the exceptions outside its `try` blocks. -/
def Disk.tryDiscoverModuleAsync (disk : Disk) (dir : UuidDir) (version : VersionDir) :
    Except Exception (Option DiscoveredModule) :=
  match version.manifest with
  | .parsed manifest =>
    match disk.moduleDllPath dir version manifest with
    | .error exception => .error exception
    | .ok none => .ok none
    | .ok (some moduleDllPath) =>
      if disk.fileExists moduleDllPath then
        match manifest.uuid with
        | none => .error .argumentNull
        | some uuid => .ok (some ⟨uuid, manifest, moduleDllPath, dir.name, version.name⟩)
      else .ok none
  | _ => .ok none

section Host

variable {Key : Type} [LinearOrder Key] (sortKey : Text → Key)

/-- The version directory the host looks at. Strings are ordered as their sort keys, and the first
of equals comes first. -/
def Disk.versionDir? (disk : Disk) (dir : UuidDir) : Option VersionDir :=
  dir.versions.argmax fun version => sortKey (disk.versionPath dir version)

/-- The body of the loop over the module directories. -/
def Disk.discover (disk : Disk) (dir : UuidDir) : Except Exception (Option DiscoveredModule) :=
  match disk.versionDir? sortKey dir with
  | none => .ok none
  | some version => disk.tryDiscoverModuleAsync dir version

/-- The loop, with the list it fills. An exception leaves it. -/
def Disk.discoverAll (disk : Disk) :
    List UuidDir → List DiscoveredModule → List DiscoveredModule × Option Exception
  | [], loaded => (loaded, none)
  | dir :: rest, loaded =>
    match disk.discover sortKey dir with
    | .error exception => (loaded, some exception)
    | .ok none => disk.discoverAll rest loaded
    | .ok (some module) => disk.discoverAll rest (loaded ++ [module])

/-- What the message at the end of a scan says of a module. -/
def label? (module : DiscoveredModule) : Option Text :=
  (abbreviation? module.uuid).map fun short =>
    short ++ text "../" ++ module.manifest.name.getD []

/-- `LoadAllAsync`. -/
def SubprocessManager.loadAllAsync (disk : Disk) (manager : SubprocessManager) : Completion :=
  let manager := { manager.setPhase .discoveringModules none with loaded := [] }
  match disk.uuidDirs with
  | none => ⟨manager, none⟩
  | some dirs =>
    let (loaded, exception) := disk.discoverAll sortKey dirs []
    let manager := { manager with loaded := loaded }
    match exception with
    | some exception => ⟨manager, some exception⟩
    | none =>
      match loaded.mapM label? with
      | none => ⟨manager, some .argumentOutOfRange⟩
      | some _ => ⟨manager.setPhase (if loaded = [] then .noModules else .modulesLoaded) none, none⟩

/-- The message of a selection that finds no module. -/
def notFoundMessage (uuid : Text) (shorts : List Text) : Text :=
  text "SelectActive: module " ++ uuid ++ text " not found in loaded list (loaded=" ++
    List.intercalate (text ",") shorts ++ text ")"

/-- `SelectActive`. What its scan throws is caught; what its own message throws is not. -/
def SubprocessManager.selectActive (disk : Disk) (uuid : Option Text)
    (manager : SubprocessManager) : Completion :=
  let uuid := uuid.getD []
  if isBlank uuid then
    let cleared := { manager with activeModule := none, breakerUuid := none, breakerCount := 0 }
    ⟨cleared.setPhase (if manager.loaded = [] then .noModules else .moduleDisabled) none, none⟩
  else
    let scanned := (manager.loadAllAsync sortKey disk).manager
    match scanned.loaded.find? fun module => module.uuid = uuid with
    | none =>
      match scanned.loaded.mapM fun module => abbreviation? module.uuid with
      | none => ⟨scanned, some .argumentOutOfRange⟩
      | some shorts =>
        let activeModule := scanned.activeModule.filter fun module => module.uuid ≠ uuid
        ⟨{ scanned with activeModule := activeModule }.setPhase .moduleSelectFailed
          (some (notFoundMessage uuid shorts)), none⟩
    | some module =>
      let forgiven := scanned.breakerUuid = some uuid
      ⟨{ scanned with
        activeModule := some module
        breakerUuid := if forgiven then none else scanned.breakerUuid
        breakerCount := if forgiven then 0 else scanned.breakerCount }.setPhase
          .moduleSelected none, none⟩

/-! ### Versions -/

/-- A component of a version, a run of digits. -/
def component? (digits : Text) : Option Nat :=
  if digits ≠ [] ∧ digits.all (fun unit => 0x30 ≤ unit && unit ≤ 0x39) then
    some (digits.foldl (fun value digit => 10 * value + (digit.toNat - 0x30)) 0)
  else none

/-- The numbers of a dotted version. -/
def dottedNumbers (version : Text) : Option (List Nat) :=
  (version.splitOn 0x2E).mapM component?

/-- A version comes after another in dotted numeric order. -/
def Newer (version other : Text) : Prop :=
  ∃ numbers ∈ dottedNumbers version, ∃ others ∈ dottedNumbers other, others < numbers

/-- A version directory has a valid manifest and its library, and makes this module. -/
structure Disk.Provides (disk : Disk) (dir : UuidDir) (version : VersionDir)
    (module : DiscoveredModule) : Prop where
  manifest : version.manifest = .parsed module.manifest
  uuid : module.manifest.uuid = some module.uuid
  dll : disk.moduleDllPath dir version module.manifest = .ok (some module.moduleDllPath)
  present : disk.fileExists module.moduleDllPath = true
  uuidDir : module.uuidDir = dir.name
  versionDir : module.versionDir = version.name

def Disk.Complete (disk : Disk) (dir : UuidDir) (version : VersionDir) : Prop :=
  ∃ module, disk.Provides dir version module

/-- Discovery works on a disk: neither the scan nor a selection throws, of every module directory
with a complete version exactly the newest is loaded, and a selection of a loaded module makes it
active. -/
structure Works (disk : Disk) (manager : SubprocessManager) : Prop where
  loads : (manager.loadAllAsync sortKey disk).exception = none
  selects : ∀ uuid, (manager.selectActive sortKey disk uuid).exception = none
  newest : ∀ dir ∈ disk.dirs, (∃ version ∈ dir.versions, disk.Complete dir version) →
    ∃ version ∈ dir.versions, ∃ module, disk.Provides dir version module ∧
      (∀ other ∈ dir.versions, disk.Complete dir other → ¬Newer other.name version.name) ∧
      ((manager.loadAllAsync sortKey disk).manager.loaded.filter fun loaded =>
        loaded.uuidDir = dir.name) = [module]
  active : ∀ uuid, (∃ module ∈ (manager.loadAllAsync sortKey disk).manager.loaded,
      module.uuid = uuid) →
    ∃ module ∈ (manager.loadAllAsync sortKey disk).manager.loaded, module.uuid = uuid ∧
      (manager.selectActive sortKey disk (some uuid)).manager.activeModule = some module

/-- A version directory comes first in the descending order of the paths. -/
structure Disk.Foremost (disk : Disk) (dir : UuidDir) (version : VersionDir) : Prop where
  mem : version ∈ dir.versions
  last : ∀ other ∈ dir.versions,
    sortKey (disk.versionPath dir other) ≤ sortKey (disk.versionPath dir version)
  first : ∀ other ∈ dir.versions,
    sortKey (disk.versionPath dir version) ≤ sortKey (disk.versionPath dir other) →
      dir.versions.idxOf version ≤ dir.versions.idxOf other

/-- The manifest of a version names a library, and if the library is there an identifier of at
least eight units, not all white space. -/
structure Disk.Sliceable (disk : Disk) (dir : UuidDir) (version : VersionDir)
    (manifest : Manifest) : Prop where
  assembly : manifest.entryType ≠ some vrcftCompatAdapterType → manifest.entryAssembly ≠ none
  uuid : ∀ path, disk.moduleDllPath dir version manifest = .ok (some path) →
    disk.fileExists path = true →
      ∃ uuid, manifest.uuid = some uuid ∧ 8 ≤ uuid.length ∧ isBlank uuid = false

/-- In every module directory, the version directory that comes first in the order of the paths is
complete if any is, no complete one is newer, and its manifest can be read and abbreviated. -/
structure Sorted (disk : Disk) : Prop where
  newest : ∀ dir ∈ disk.dirs, ∀ version, disk.Foremost sortKey dir version →
    ∀ other ∈ dir.versions, disk.Complete dir other →
      disk.Complete dir version ∧ ¬Newer other.name version.name
  sliceable : ∀ dir ∈ disk.dirs, ∀ version, disk.Foremost sortKey dir version →
    ∀ manifest, version.manifest = .parsed manifest → disk.Sliceable dir version manifest

/-! ### Lemmas on lists -/

theorem mapM_eq_none {Item Value : Type} (read : Item → Option Value) (items : List Item) :
    items.mapM read = none ↔ ∃ item ∈ items, read item = none := by
  induction items with
  | nil => simp
  | cons item rest inductionHypothesis =>
    rw [List.mapM_cons, List.exists_mem_cons_iff, ← inductionHypothesis]
    cases read item with
    | none => simp
    | some value => cases rest.mapM read <;> simp

/-- Of values found under different names, those under one name are what was found there. -/
theorem filter_filterMap_key {Item Value Name : Type} [DecidableEq Name] {name : Item → Name}
    {key : Value → Name} {find : Item → Option Value}
    (named : ∀ item value, find item = some value → key value = name item) {items : List Item}
    (distinct : (items.map name).Nodup) {item : Item} (member : item ∈ items) :
    (items.filterMap find).filter (fun value => key value = name item) = (find item).toList := by
  induction items with
  | nil => cases member
  | cons first rest inductionHypothesis =>
    rw [List.map_cons, List.nodup_cons] at distinct
    rcases List.mem_cons.mp member with rfl | later
    · have others : (rest.filterMap find).filter (fun value => key value = name item) = [] := by
        refine List.filter_eq_nil_iff.mpr fun value listed => ?_
        obtain ⟨other, inRest, found⟩ := List.mem_filterMap.mp listed
        intro same
        refine distinct.1 (List.mem_map.mpr ⟨other, inRest, ?_⟩)
        rw [← named other value found, of_decide_eq_true same]
      cases here : find item with
      | none => rw [List.filterMap_cons_none here, others, Option.toList_none]
      | some value =>
        rw [List.filterMap_cons_some here, List.filter_cons_of_pos, others, Option.toList_some]
        exact decide_eq_true (named item value here)
    · cases here : find first with
      | none => rw [List.filterMap_cons_none here, inductionHypothesis distinct.2 later]
      | some value =>
        rw [List.filterMap_cons_some here, List.filter_cons_of_neg,
          inductionHypothesis distinct.2 later]
        intro same
        refine distinct.1 (List.mem_map.mpr ⟨item, later, ?_⟩)
        rw [← of_decide_eq_true same, named first value here]

/-! ### One module directory -/

theorem versionDir?_eq_some (disk : Disk) (dir : UuidDir) (version : VersionDir) :
    disk.versionDir? sortKey dir = some version ↔ disk.Foremost sortKey dir version := by
  unfold Disk.versionDir?
  rw [List.argmax_eq_some_iff]
  exact ⟨fun found => ⟨found.1, found.2.1, found.2.2⟩,
    fun foremost => ⟨foremost.mem, foremost.last, foremost.first⟩⟩

theorem exists_foremost (disk : Disk) {dir : UuidDir} {version : VersionDir}
    (member : version ∈ dir.versions) : ∃ first, disk.Foremost sortKey dir first := by
  cases found : disk.versionDir? sortKey dir with
  | none =>
    unfold Disk.versionDir? at found
    rw [List.argmax_eq_none] at found
    rw [found] at member
    cases member
  | some first => exact ⟨first, (versionDir?_eq_some sortKey disk dir first).mp found⟩

/-- The discovery of a version finds the module it provides. -/
theorem tryDiscover_eq_some {disk : Disk} {dir : UuidDir} {version : VersionDir}
    {module : DiscoveredModule} :
    disk.tryDiscoverModuleAsync dir version = .ok (some module) ↔
      disk.Provides dir version module := by
  constructor
  · intro found
    unfold Disk.tryDiscoverModuleAsync at found
    split at found
    case h_2 => cases found
    case h_1 manifest parsed =>
      split at found
      case h_1 => cases found
      case h_2 => cases found
      case h_3 path dll =>
        split at found
        case isFalse => cases found
        case isTrue present =>
          split at found
          case h_1 => cases found
          case h_2 uuid named =>
            cases found
            exact ⟨parsed, named, dll, present, rfl, rfl⟩
  · intro provides
    obtain ⟨uuid, manifest, path, uuidDir, versionDir⟩ := module
    obtain ⟨parsed, named, dll, present, rfl, rfl⟩ := provides
    have given : manifest.uuid = some uuid := named
    unfold Disk.tryDiscoverModuleAsync
    simp only [parsed, dll, present, given, if_true]

/-- The discovery of a version throws exactly if a field that it needs is null. -/
theorem tryDiscover_error {disk : Disk} {dir : UuidDir} {version : VersionDir} :
    (∃ exception, disk.tryDiscoverModuleAsync dir version = .error exception) ↔
      ∃ manifest, version.manifest = .parsed manifest ∧
        ((manifest.entryType ≠ some vrcftCompatAdapterType ∧ manifest.entryAssembly = none) ∨
          (manifest.uuid = none ∧
            ∃ path, disk.moduleDllPath dir version manifest = .ok (some path) ∧
              disk.fileExists path = true)) := by
  constructor
  · rintro ⟨exception, thrown⟩
    unfold Disk.tryDiscoverModuleAsync at thrown
    split at thrown
    case h_2 => cases thrown
    case h_1 manifest parsed =>
      refine ⟨manifest, parsed, ?_⟩
      split at thrown
      case h_1 unnamed =>
        left
        unfold Disk.moduleDllPath at unnamed
        split at unnamed
        case isTrue => split at unnamed <;> cases unnamed
        case isFalse plain =>
          split at unnamed
          case h_1 missing => exact ⟨plain, missing⟩
          case h_2 => cases unnamed
      case h_2 => cases thrown
      case h_3 path dll =>
        split at thrown
        case isFalse => cases thrown
        case isTrue present =>
          split at thrown
          case h_1 missing => exact .inr ⟨missing, path, dll, present⟩
          case h_2 => cases thrown
  · rintro ⟨manifest, parsed, ⟨plain, missing⟩ | ⟨missing, path, dll, present⟩⟩
    · refine ⟨.argumentNull, ?_⟩
      have unnamed : disk.moduleDllPath dir version manifest = .error .argumentNull := by
        unfold Disk.moduleDllPath
        simp only [if_neg plain, missing]
      unfold Disk.tryDiscoverModuleAsync
      simp only [parsed, unnamed]
    · refine ⟨.argumentNull, ?_⟩
      unfold Disk.tryDiscoverModuleAsync
      simp only [parsed, dll, present, missing, if_true]

/-- The module of a directory, if one is found and nothing is thrown. -/
def Disk.found (disk : Disk) (dir : UuidDir) : Option DiscoveredModule :=
  (disk.discover sortKey dir).toOption.join

theorem found_eq_some {disk : Disk} {dir : UuidDir} {module : DiscoveredModule} :
    disk.found sortKey dir = some module ↔
      ∃ version, disk.Foremost sortKey dir version ∧ disk.Provides dir version module := by
  have ok : disk.found sortKey dir = some module ↔
      disk.discover sortKey dir = .ok (some module) := by
    unfold Disk.found
    rcases disk.discover sortKey dir with exception | _ | other <;> simp [Except.toOption]
  rw [ok]
  unfold Disk.discover
  constructor
  · intro found
    split at found
    case h_1 => cases found
    case h_2 version first =>
      exact ⟨version, (versionDir?_eq_some sortKey disk dir version).mp first,
        tryDiscover_eq_some.mp found⟩
  · rintro ⟨version, foremost, provides⟩
    simp only [(versionDir?_eq_some sortKey disk dir version).mpr foremost]
    exact tryDiscover_eq_some.mpr provides

theorem discover_error {disk : Disk} {dir : UuidDir} :
    (∃ exception, disk.discover sortKey dir = .error exception) ↔
      ∃ version, disk.Foremost sortKey dir version ∧
        ∃ exception, disk.tryDiscoverModuleAsync dir version = .error exception := by
  unfold Disk.discover
  constructor
  · rintro ⟨exception, thrown⟩
    split at thrown
    case h_1 => cases thrown
    case h_2 version first =>
      exact ⟨version, (versionDir?_eq_some sortKey disk dir version).mp first, exception, thrown⟩
  · rintro ⟨version, foremost, thrown⟩
    simp only [(versionDir?_eq_some sortKey disk dir version).mpr foremost]
    exact thrown

theorem found_uuidDir {disk : Disk} {dir : UuidDir} {module : DiscoveredModule}
    (found : disk.found sortKey dir = some module) : module.uuidDir = dir.name := by
  obtain ⟨version, -, provides⟩ := (found_eq_some sortKey).mp found
  exact provides.uuidDir

/-! ### The scan -/

/-- The loop throws where a directory does, and otherwise adds what is found in each. -/
theorem discoverAll_none (disk : Disk) (dirs : List UuidDir) (loaded : List DiscoveredModule) :
    (disk.discoverAll sortKey dirs loaded).2 = none ↔
      ∀ dir ∈ dirs, ¬∃ exception, disk.discover sortKey dir = .error exception := by
  induction dirs generalizing loaded with
  | nil => simp [Disk.discoverAll]
  | cons dir rest inductionHypothesis =>
    rw [List.forall_mem_cons]
    rcases here : disk.discover sortKey dir with exception | _ | module <;>
      simp [Disk.discoverAll, here, inductionHypothesis]

theorem discoverAll_loaded {disk : Disk} {dirs : List UuidDir} {loaded : List DiscoveredModule}
    (quiet : (disk.discoverAll sortKey dirs loaded).2 = none) :
    (disk.discoverAll sortKey dirs loaded).1 = loaded ++ dirs.filterMap (disk.found sortKey) := by
  induction dirs generalizing loaded with
  | nil => simp [Disk.discoverAll]
  | cons dir rest inductionHypothesis =>
    rcases here : disk.discover sortKey dir with exception | _ | module
    · simp [Disk.discoverAll, here] at quiet
    · have nothing : disk.found sortKey dir = none := by simp [Disk.found, here, Except.toOption]
      simp only [Disk.discoverAll, here] at quiet ⊢
      rw [inductionHypothesis quiet, List.filterMap_cons_none nothing]
    · have one : disk.found sortKey dir = some module := by
        simp [Disk.found, here, Except.toOption]
      simp only [Disk.discoverAll, here] at quiet ⊢
      rw [inductionHypothesis quiet, List.filterMap_cons_some one, List.append_assoc,
        List.singleton_append]

theorem abbreviation?_eq_none (uuid : Text) : abbreviation? uuid = none ↔ uuid.length < 8 := by
  unfold abbreviation?
  split <;> simp_all

/-- The scan throws if a directory does, or an identifier that it loads is short. -/
theorem loadAll_exception {disk : Disk} {manager : SubprocessManager} :
    (manager.loadAllAsync sortKey disk).exception = none ↔
      (∀ dir ∈ disk.dirs, ¬∃ exception, disk.discover sortKey dir = .error exception) ∧
        ∀ module ∈ (manager.loadAllAsync sortKey disk).manager.loaded, 8 ≤ module.uuid.length := by
  rw [← discoverAll_none sortKey disk disk.dirs []]
  unfold SubprocessManager.loadAllAsync Disk.dirs
  cases disk.uuidDirs with
  | none => simp [Disk.discoverAll]
  | some dirs =>
    simp only [Option.getD_some]
    obtain ⟨loaded, exception⟩ := disk.discoverAll sortKey dirs []
    cases exception with
    | some exception => simp
    | none =>
      have labels : loaded.mapM label? = none ↔ ∃ module ∈ loaded, module.uuid.length < 8 := by
        simp only [mapM_eq_none, label?, Option.map_eq_none_iff, abbreviation?_eq_none]
      simp only [true_and]
      cases read : loaded.mapM label? with
      | none =>
        obtain ⟨module, member, short⟩ := labels.mp read
        refine iff_of_false (by simp) fun long => ?_
        exact absurd (long module member) (by omega)
      | some texts =>
        refine iff_of_true rfl fun module member => ?_
        by_contra short
        rw [labels.mpr ⟨module, member, by omega⟩] at read
        cases read

theorem loadAll_loaded {disk : Disk} (manager : SubprocessManager)
    (quiet : ∀ dir ∈ disk.dirs, ¬∃ exception, disk.discover sortKey dir = .error exception) :
    (manager.loadAllAsync sortKey disk).manager.loaded =
      disk.dirs.filterMap (disk.found sortKey) := by
  have silent := (discoverAll_none sortKey disk disk.dirs []).mpr quiet
  have filled := discoverAll_loaded sortKey silent
  unfold SubprocessManager.loadAllAsync
  unfold Disk.dirs at silent filled ⊢
  cases dirs : disk.uuidDirs with
  | none => rfl
  | some dirs =>
    simp only [dirs, Option.getD_some, List.nil_append] at silent filled ⊢
    simp only [silent]
    split <;> exact filled

/-! ### Selections -/

/-- A selection throws only if its scan does. -/
theorem selectActive_exception {disk : Disk} {manager : SubprocessManager}
    (loads : (manager.loadAllAsync sortKey disk).exception = none) (uuid : Option Text) :
    (manager.selectActive sortKey disk uuid).exception = none := by
  have long := ((loadAll_exception sortKey).mp loads).2
  unfold SubprocessManager.selectActive
  simp only
  split
  · rfl
  · split
    · split
      case h_1 read =>
        obtain ⟨module, member, short⟩ := (mapM_eq_none _ _).mp read
        rw [abbreviation?_eq_none] at short
        exact absurd (long module member) (by omega)
      case h_2 => rfl
    · rfl

/-- A selection of an identifier that is loaded and not blank takes a module of it. -/
theorem selectActive_active {disk : Disk} {manager : SubprocessManager} {uuid : Text}
    (visible : isBlank uuid = false)
    (loaded : ∃ module ∈ (manager.loadAllAsync sortKey disk).manager.loaded, module.uuid = uuid) :
    ∃ module ∈ (manager.loadAllAsync sortKey disk).manager.loaded, module.uuid = uuid ∧
      (manager.selectActive sortKey disk (some uuid)).manager.activeModule = some module := by
  unfold SubprocessManager.selectActive
  simp only [Option.getD_some, visible, Bool.false_eq_true, if_false]
  split
  case h_1 none =>
    obtain ⟨module, member, same⟩ := loaded
    have other := List.find?_eq_none.mp none module member
    exact absurd (decide_eq_true same) other
  case h_2 module found =>
    have same := List.find?_some found
    exact ⟨module, List.mem_of_find?_eq_some found, of_decide_eq_true same, rfl⟩

/-- A selection of a blank identifier leaves no module active. -/
theorem selectActive_blank (disk : Disk) (manager : SubprocessManager) {uuid : Text}
    (blank : isBlank uuid = true) :
    (manager.selectActive sortKey disk (some uuid)).manager.activeModule = none := by
  unfold SubprocessManager.selectActive
  simp only [Option.getD_some, blank, if_true]
  rfl

/-! ### Discovery works -/

/-- A directory whose first version can be read throws nothing. -/
theorem quiet_of_sorted {disk : Disk} (sorted : Sorted sortKey disk) :
    ∀ dir ∈ disk.dirs, ¬∃ exception, disk.discover sortKey dir = .error exception := by
  intro dir member thrown
  obtain ⟨version, foremost, thrown⟩ := (discover_error sortKey).mp thrown
  obtain ⟨manifest, parsed, unnamed⟩ := tryDiscover_error.mp thrown
  have sliceable := sorted.sliceable dir member version foremost manifest parsed
  rcases unnamed with ⟨plain, missing⟩ | ⟨missing, path, dll, present⟩
  · exact sliceable.assembly plain missing
  · obtain ⟨uuid, named, -⟩ := sliceable.uuid path dll present
    rw [missing] at named
    cases named

/-- What is loaded comes from the first version of a directory, with an identifier that is long
enough and not blank. -/
theorem found_of_sorted {disk : Disk} (sorted : Sorted sortKey disk) {module : DiscoveredModule}
    (loaded : module ∈ disk.dirs.filterMap (disk.found sortKey)) :
    8 ≤ module.uuid.length ∧ isBlank module.uuid = false := by
  obtain ⟨dir, member, found⟩ := List.mem_filterMap.mp loaded
  obtain ⟨version, foremost, provides⟩ := (found_eq_some sortKey).mp found
  obtain ⟨uuid, named, long, visible⟩ :=
    (sorted.sliceable dir member version foremost _ provides.manifest).uuid _ provides.dll
      provides.present
  rw [provides.uuid] at named
  cases named
  exact ⟨long, visible⟩

theorem works_of_sorted {disk : Disk} {manager : SubprocessManager}
    (sorted : Sorted sortKey disk) : Works sortKey disk manager := by
  have quiet := quiet_of_sorted sortKey sorted
  have loaded := loadAll_loaded sortKey manager quiet
  have loads : (manager.loadAllAsync sortKey disk).exception = none := by
    refine (loadAll_exception sortKey).mpr ⟨quiet, fun module member => ?_⟩
    rw [loaded] at member
    exact (found_of_sorted sortKey sorted member).1
  refine ⟨loads, selectActive_exception sortKey loads, ?_, ?_⟩
  · rintro dir member ⟨other, among, complete⟩
    obtain ⟨version, foremost⟩ := exists_foremost sortKey disk among
    obtain ⟨⟨module, provides⟩, -⟩ := sorted.newest dir member version foremost other among complete
    refine ⟨version, foremost.mem, module, provides, fun rival listed complete =>
      (sorted.newest dir member version foremost rival listed complete).2, ?_⟩
    rw [loaded, filter_filterMap_key (fun _ _ => found_uuidDir sortKey) disk.dirs_distinct member,
      (found_eq_some sortKey).mpr ⟨version, foremost, provides⟩, Option.toList_some]
  · rintro uuid ⟨module, member, rfl⟩
    refine selectActive_active sortKey ?_ ⟨module, member, rfl⟩
    rw [loaded] at member
    exact (found_of_sorted sortKey sorted member).2

theorem sorted_of_works {disk : Disk} {manager : SubprocessManager}
    (works : Works sortKey disk manager) : Sorted sortKey disk := by
  obtain ⟨quiet, long⟩ := (loadAll_exception sortKey).mp works.loads
  have loaded := loadAll_loaded sortKey manager quiet
  have listed : ∀ dir ∈ disk.dirs, ∀ version, disk.Foremost sortKey dir version →
      ∀ module, disk.Provides dir version module →
        module ∈ (manager.loadAllAsync sortKey disk).manager.loaded := by
    intro dir member version foremost module provides
    rw [loaded]
    exact List.mem_filterMap.mpr
      ⟨dir, member, (found_eq_some sortKey).mpr ⟨version, foremost, provides⟩⟩
  refine ⟨fun dir member version foremost other among complete => ?_,
    fun dir member version foremost manifest parsed => ?_⟩
  · obtain ⟨best, -, module, provides, newest, only⟩ :=
      works.newest dir member ⟨other, among, complete⟩
    rw [loaded, filter_filterMap_key (fun _ _ => found_uuidDir sortKey) disk.dirs_distinct member]
      at only
    cases found : disk.found sortKey dir with
    | none =>
      rw [found] at only
      cases only
    | some chosen =>
      rw [found, Option.toList_some, List.singleton_inj] at only
      subst only
      obtain ⟨first, firstForemost, firstProvides⟩ := (found_eq_some sortKey).mp found
      have same : first = version := Option.some.inj
        (((versionDir?_eq_some sortKey disk dir first).mpr firstForemost).symm.trans
          ((versionDir?_eq_some sortKey disk dir version).mpr foremost))
      subst same
      refine ⟨⟨chosen, firstProvides⟩, ?_⟩
      rw [← firstProvides.versionDir, provides.versionDir]
      exact newest other among complete
  · have noError : ¬∃ exception, disk.tryDiscoverModuleAsync dir version = .error exception :=
      fun thrown => quiet dir member ((discover_error sortKey).mpr ⟨version, foremost, thrown⟩)
    rw [tryDiscover_error] at noError
    refine ⟨fun plain missing => noError ⟨manifest, parsed, .inl ⟨plain, missing⟩⟩,
      fun path dll present => ?_⟩
    cases named : manifest.uuid with
    | none => exact absurd ⟨manifest, parsed, .inr ⟨named, path, dll, present⟩⟩ noError
    | some uuid =>
      have inList := listed dir member version foremost
        ⟨uuid, manifest, path, dir.name, version.name⟩ ⟨parsed, named, dll, present, rfl, rfl⟩
      refine ⟨uuid, rfl, long _ inList, ?_⟩
      by_contra blank
      obtain ⟨module, -, -, active⟩ := works.active uuid ⟨_, inList, rfl⟩
      rw [selectActive_blank sortKey disk manager (by simpa using blank)] at active
      cases active

/-- Discovery works exactly on the disks where, in every module directory, the first version in
the order of the paths is complete if any is, no complete one is newer, and its manifest gives
the scan what it needs. -/
theorem discovery_works_iff (disk : Disk) (manager : SubprocessManager) :
    Works sortKey disk manager ↔ Sorted sortKey disk :=
  ⟨sorted_of_works sortKey, works_of_sorted sortKey⟩

end Host

/-! ### An update to a version of two digits -/

/-- The order of the code units, which agrees with every culture on digits and points. -/
def ordinal (path : Text) : List Nat :=
  path.map UInt16.toNat

def moduleManifest : Manifest where
  uuid := some (text "b2d4c0de-7a11")
  name := some (text "Module")
  entryAssembly := some (text "Module.dll")
  entryType := some (text "Module.Tracking")

/-- A module directory with two complete versions. -/
def updated : UuidDir where
  name := text "b2d4c0de-7a11"
  versions := [⟨text "10.0.0", .parsed moduleManifest, .missing⟩,
    ⟨text "9.0.0", .parsed moduleManifest, .missing⟩]

def updatedDisk : Disk where
  modulesInstallDir := text "C:\\modules"
  uuidDirs := some [updated]
  fileExists _ := true
  distinct := by
    rintro dirs ⟨⟩
    exact List.nodup_singleton _

/-- The module of the older version is loaded, and the newer one is complete. -/
theorem update_to_ten_not_loaded : ¬∀ disk, Works ordinal disk {} := by
  intro works
  obtain ⟨version, -, module, provides, newest, only⟩ := (works updatedDisk).newest updated
    List.mem_cons_self ⟨⟨text "10.0.0", .parsed moduleManifest, .missing⟩, List.mem_cons_self, _,
      tryDiscover_eq_some.mp rfl⟩
  have older : ((SubprocessManager.loadAllAsync ordinal updatedDisk {}).manager.loaded.filter
      fun loaded => loaded.uuidDir = updated.name).map DiscoveredModule.versionDir =
        [text "9.0.0"] := by
    decide +kernel
  rw [only, List.map_singleton, provides.versionDir, List.singleton_inj] at older
  refine newest ⟨text "10.0.0", .parsed moduleManifest, .missing⟩ List.mem_cons_self
    ⟨_, tryDiscover_eq_some.mp rfl⟩ ?_
  rw [older]
  exact ⟨[10, 0, 0], by decide +kernel, [9, 0, 0], by decide +kernel, by decide⟩

end PairDriver.ModuleDiscovery
