/-
This file models the file operations of the module sync script: the copy of a
payload into its version directory, the loop over the index of a registry, and the
removal of a source. The machine performs one operation after the other; any of
them may fail, which ends the entry or the run as in the script, and a run may be
followed by any other. What a run installs, and under which strings, is arbitrary.

The directory of a version is built from strings of the source, and a payload is
copied into it file by file, with the manifest that marks it as installed among
them. So a run stays inside the modules directory, and leaves whole versions, as
long as the strings lead to a directory of a version, every file is copied under
its own name, and no operation fails between the manifest and the last file.
-/

import PairDriver.FileTree
import PairDriver.ModuleSync

namespace PairDriver.ModuleInstall

open ModuleSync (Text sameText)

/-! ### Paths -/

/-- A path, as the names from the root of its drive. -/
abbrev Path := List Text

/-- What the file system takes a name for; it tells the two files of the script apart. -/
structure Naming where
  canonical : Text → Text
  tells : canonical (ascii "manifest.json") ≠ canonical (ascii "source.json")

def Naming.manifestJson (naming : Naming) : Text := naming.canonical (ascii "manifest.json")

def Naming.sourceJson (naming : Naming) : Text := naming.canonical (ascii "source.json")

def isSeparator (byte : UInt8) : Bool :=
  byte = 92 || byte = 47

/-- The steps of a relative path. Doubled separators count once. -/
def pathSteps (path : Text) : List Text :=
  (path.splitOnP isSeparator).filter fun name => name ≠ []

/-- `Join-Path $modsDir "$uuid\$version"`, resolved. -/
def Naming.versionDir (naming : Naming) (modsDir : Path) (uuid version : Text) : Path :=
  resolve (ascii ".") (ascii "..") naming.canonical modsDir (pathSteps (uuid ++ 92 :: version))

/-! ### Payloads -/

/-- The characters for which `-Path` does not stand for itself. -/
def isWildcard (byte : UInt8) : Bool :=
  [42, 63, 91, 93, 96].contains byte

/-- An item of a payload: its names below the root, in canonical form, whether it is hidden or in a
hidden folder, the `source_id` it has if it is read as JSON, and whether its path, taken as a
pattern, names a file of the payload. -/
structure Item where
  parents : Path := []
  name : Text
  isContainer : Bool := false
  isHidden : Bool := false
  sourceId : Option Text := none
  matchesFile : Bool := false
deriving DecidableEq

def Item.relative (item : Item) : Path := item.parents ++ [item.name]

/-- `Copy-Item -Path` finds a file for the path of the item. -/
def Item.found (item : Item) : Bool :=
  item.relative.all (fun name => name.all fun byte => !isWildcard byte) || item.matchesFile

/-- The files of a payload. -/
def payloadFiles (items : List Item) : List Path :=
  (items.filter fun item => !item.isContainer).map Item.relative

/-- A module to be installed. -/
structure Module where
  uuid : Text
  version : Text
  items : List Item

/-! ### The script -/

/-- The operations of the script on the modules directory. A copy and the manifest carry the files
of their payload, for the specification. -/
inductive Action where
  | newDirectory (path : Path)
  | ensureDirectory (path : Path)
  | copy (destDir : Path) (files : List Path) (item : Item)
  | writeManifest (destDir : Path) (files : List Path)
  | writeSource (destDir : Path) (sourceId : Text)
  | sweep (sourceId : Text) (uuidDir : Path)
  | inspect (sourceId : Text) (verDir : Path)
  | cleanUp (uuidDir : Path)
  | remove (path : Path)

/-- What an error does: it ends the run, it ends the entry of the registry, or it is ignored. -/
inductive Handler where
  | exit
  | nextEntry
  | ignore
deriving DecidableEq

/-- What a registry serves for a version: the fields of the manifest that are read, and the
download with its hash, which may not extract. -/
structure ServedManifest where
  version : Option Text := none
  payloadSha256 : Option Text := none

structure Download where
  sha256 : Text := []
  items : Option (List Item)

/-- An entry of the index of a registry, with what its fetches give. -/
structure IndexEntry where
  uuid : Text
  version : Text
  manifest : Option ServedManifest
  download : Option Download

/-- A run of the script, with what it finds outside: what it installs from a folder or a release if
it comes to the copy, the index it is served, or the source it removes. -/
inductive Run where
  | install (sourceId : Text) (module : Option Module)
  | registry (sourceId : Text) (index : List IndexEntry)
  | remove (sourceId : Text)

/-- The modules directory with the run that works on it. `touched` records the files that were
created, overwritten or removed, and `origins` the payload that a directory last came from. -/
structure State where
  tree : FileTree Text
  sourceIds : Path → Option Text := fun _ => none
  block : List (Action × Handler) := []
  entries : List (Text × IndexEntry) := []
  touched : List Path := []
  origins : List (Path × List Path) := []

/-- No run is under way. -/
def State.idle (state : State) : Bool :=
  state.block.isEmpty && state.entries.isEmpty

/-- An empty modules directory. -/
def fresh (modsDir : Path) : State where
  tree := { directories := modsDir.inits }

section Script

variable (naming : Naming) (modsDir : Path)

/-- The loop that copies the items. `Get-ChildItem` does not list the hidden ones. -/
def copyItems (destDir : Path) (items : List Item) (handler : Handler) : List (Action × Handler) :=
  (items.filter fun item => !item.isHidden).map fun item =>
    (if item.isContainer then .ensureDirectory (destDir ++ item.relative)
      else .copy destDir (payloadFiles items) item, handler)

/-- `Copy-ModuleFolder`. -/
def copyModuleFolder (sourceId : Text) (module : Module) : List (Action × Handler) :=
  let destDir := naming.versionDir modsDir module.uuid module.version
  (.ensureDirectory destDir, .exit) ::
    copyItems destDir module.items .exit ++ [(.writeSource destDir sourceId, .exit)]

/-- What the loop over the index does for a module that it installs. -/
def installEntry (sourceId : Text) (module : Module) : List (Action × Handler) :=
  let destDir := naming.versionDir modsDir module.uuid module.version
  (.newDirectory destDir, .exit) :: copyItems destDir module.items .nextEntry ++
    [(.writeManifest destDir (payloadFiles module.items), .exit),
      (.writeSource destDir sourceId, .exit)]

/-- A registry sync takes a version for installed. -/
def isInstalled (tree : FileTree Text) (uuid version : Text) : Bool :=
  tree.has (naming.versionDir modsDir uuid version ++ [naming.manifestJson])

/-- The module that the loop over the index installs for an entry, if it gets that far. The
version of the manifest is trusted over the one of the entry. -/
def entryModule (tree : FileTree Text) (entry : IndexEntry) : Option Module :=
  if entry.uuid = [] ∨ entry.version = [] ∨
      isInstalled naming modsDir tree entry.uuid entry.version then none
  else do
    let manifest ← entry.manifest
    let manifestVersion := manifest.version.getD entry.version
    let changed := !sameText manifestVersion entry.version
    if changed ∧ isInstalled naming modsDir tree entry.uuid manifestVersion then none
    else
      let expected := manifest.payloadSha256.getD []
      let download ← entry.download
      if expected ≠ [] ∧ !sameText download.sha256 expected then none
      else
        let items ← download.items
        some ⟨entry.uuid, if changed then manifestVersion else entry.version, items⟩

/-- A file is written. -/
def State.write (state : State) (path : Path) (sourceId : Option Text) : Option State :=
  (state.tree.writeFile path).map fun tree => { state with
    tree := tree
    sourceIds := fun other => if other = path then sourceId else state.sourceIds other
    touched := path :: state.touched }

/-- A directory now comes from a payload. -/
def State.comesFrom (state : State) (destDir : Path) (files : List Path) : State :=
  { state with origins :=
      (destDir, files) :: state.origins.filter fun origin => origin.1 ≠ destDir }

def State.remove (state : State) (path : Path) (gone : Path → Bool) : State :=
  { state with
    tree := state.tree.remove path gone
    touched := state.tree.removed path gone ++ state.touched }

/-- What an action does, none if it throws. A file that is copied onto a directory goes into it. -/
def State.perform (state : State) : Action → Option State
  | .newDirectory path =>
    (state.tree.makeDirectory path).map fun tree => { state with tree := tree }
  | .ensureDirectory path =>
    if state.tree.has path then some state
    else (state.tree.makeDirectory path).map fun tree => { state with tree := tree }
  | .copy destDir files item =>
    let target := destDir ++ item.relative
    if item.found then
      (state.write (if target ∈ state.tree.directories then target ++ [item.name] else target)
        item.sourceId).map fun after => after.comesFrom destDir files
    else some state
  | .writeManifest destDir files =>
    (state.write (destDir ++ [naming.manifestJson]) none).map fun after =>
      after.comesFrom destDir files
  | .writeSource destDir sourceId => state.write (destDir ++ [naming.sourceJson]) (some sourceId)
  | .sweep sourceId uuidDir => some { state with
      block := (state.tree.children uuidDir).map
        (fun verDir => (.inspect sourceId verDir, .exit)) ++
          (.cleanUp uuidDir, .exit) :: state.block }
  | .inspect sourceId verDir =>
    let sourceFile := verDir ++ [naming.sourceJson]
    if sourceFile ∈ state.tree.files then
      (state.sourceIds sourceFile).map fun other =>
        if sameText other sourceId then
          { state with block := (.remove verDir, .exit) :: state.block }
        else state
    else if state.tree.has sourceFile then none
    else some state
  | .cleanUp uuidDir => some <|
    if state.tree.children uuidDir = [] then
      { state with block := (.remove uuidDir, .ignore) :: state.block }
    else state
  | .remove path => some (state.remove path fun _ => true)

/-- A run begins. -/
def State.begin (state : State) : Run → State
  | .install _ none => state
  | .install sourceId (some module) =>
    if module.uuid = [] ∨ module.version = [] then state
    else { state with block := copyModuleFolder naming modsDir sourceId module }
  | .registry sourceId index =>
    { state with entries := index.map fun entry => (sourceId, entry) }
  | .remove sourceId =>
    { state with block := (state.tree.children modsDir).map fun uuidDir =>
        (.sweep sourceId uuidDir, .exit) }

/-- What an action that fails leaves. A removal may have removed a part, the others nothing. -/
def State.broken (state : State) (gone : Path → Bool) : Action → State
  | .remove path => state.remove path gone
  | _ => state

/-- An error, in the first action or before an entry. -/
def State.fail (state : State) (gone : Path → Bool) : Option State :=
  match state.block with
  | [] => if state.entries.isEmpty then none else some { state with entries := [] }
  | (action, handler) :: rest =>
    let after := state.broken gone action
    some <| match handler with
      | .exit => { after with block := [], entries := [] }
      | .nextEntry => { after with block := [] }
      | .ignore => { after with block := rest }

/-- A run begins when none is under way; the next action is performed, or the next entry of the
index is begun; or the action fails. -/
inductive Event where
  | sync (run : Run)
  | next
  | fail (gone : Path → Bool)

def step (state : State) : Event → Option State
  | .sync run => if state.idle then some (state.begin naming modsDir run) else none
  | .next =>
    match state.block, state.entries with
    | (action, _) :: rest, _ => { state with block := rest }.perform naming action
    | [], (sourceId, entry) :: later => some { state with
        block := (entryModule naming modsDir state.tree entry).elim []
          (installEntry naming modsDir sourceId)
        entries := later }
    | [], [] => none
  | .fail gone => state.fail gone

/-! ### Contained and whole -/

/-- The file lies below the modules directory. -/
def Below (path : Path) : Prop :=
  modsDir <+: path ∧ modsDir.length < path.length

/-- Every file that was touched lies below the modules directory. -/
def State.Contained (state : State) : Prop :=
  ∀ path ∈ state.touched, Below modsDir path

/-- Every directory with a manifest has all files of the payload it came from. -/
def State.Whole (state : State) : Prop :=
  ∀ origin ∈ state.origins, origin.1 ++ [naming.manifestJson] ∈ state.tree.files →
    ∀ file ∈ origin.2, origin.1 ++ file ∈ state.tree.files

/-! ### Conditions -/

/-- A directory two levels below the modules directory. -/
def IsVersionDir (path : Path) : Prop :=
  modsDir <+: path ∧ path.length = modsDir.length + 2

/-- The strings of a module lead to the directory of a version, and no file of its payload is
hidden. -/
structure Module.Fits (module : Module) : Prop where
  versionDir : IsVersionDir modsDir (naming.versionDir modsDir module.uuid module.version)
  visible : ∀ item ∈ module.items, item.isContainer = true ∨ item.isHidden = false

/-- The module of a run that installs one, if its strings are not empty. -/
def Run.module? : Run → Option Module
  | .install _ module => module.filter fun module => module.uuid ≠ [] ∧ module.version ≠ []
  | _ => none

/-- A copy gives its file: it is found and no directory stands in its place, or it is there
already. -/
def Action.Gives (state : State) : Action → Prop
  | .copy destDir _ item =>
    if item.found then destDir ++ item.relative ∉ state.tree.directories
    else destDir ++ item.relative ∈ state.tree.files
  | _ => True

/-- A copy that is still to come replaces a file, if its directory has files of the payload and a
manifest. -/
def Action.InPlace (state : State) : Action → Prop
  | .copy destDir files item => (destDir, files) ∈ state.origins →
    destDir ++ [naming.manifestJson] ∈ state.tree.files →
      destDir ++ item.relative ∈ state.tree.files
  | _ => True

/-- A removal that fails leaves a manifest only with all files of the payload. -/
def Action.LeavesWhole (state : State) (gone : Path → Bool) : Action → Prop
  | .remove path => ∀ origin ∈ state.origins, path <+: origin.1 →
    gone (origin.1 ++ [naming.manifestJson]) = false →
      ∀ file ∈ origin.2, gone (origin.1 ++ file) = false
  | _ => True

/-- The modules that are installed fit, their copies give their files, no action fails while the
directory has a manifest and lacks files of its payload, and no removal fails with such a rest. -/
def Allowed (state : State) : Event → Prop
  | .sync run => ∀ module ∈ run.module?, module.Fits naming modsDir
  | .next => (∀ task ∈ state.block.head?, task.1.Gives state) ∧
    (state.block = [] → ∀ queued ∈ state.entries.head?,
      ∀ module ∈ entryModule naming modsDir state.tree queued.2, module.Fits naming modsDir)
  | .fail gone => (∀ task ∈ state.block, task.1.InPlace naming state) ∧
    ∀ task ∈ state.block.head?, task.1.LeavesWhole naming state gone

section Decidable

variable (state : State) (gone : Path → Bool) (action : Action)

instance (path : Path) : Decidable (Below modsDir path) :=
  inferInstanceAs (Decidable (_ ∧ _))

instance : Decidable (state.Contained modsDir) :=
  inferInstanceAs (Decidable (∀ path ∈ state.touched, Below modsDir path))

instance : Decidable (state.Whole naming) :=
  inferInstanceAs (Decidable (∀ origin ∈ state.origins,
    origin.1 ++ [naming.manifestJson] ∈ state.tree.files →
      ∀ file ∈ origin.2, origin.1 ++ file ∈ state.tree.files))

instance (path : Path) : Decidable (IsVersionDir modsDir path) :=
  inferInstanceAs (Decidable (_ ∧ _))

instance (module : Module) : Decidable (module.Fits naming modsDir) :=
  decidable_of_iff (IsVersionDir modsDir (naming.versionDir modsDir module.uuid module.version) ∧
      ∀ item ∈ module.items, item.isContainer = true ∨ item.isHidden = false)
    ⟨fun fits => ⟨fits.1, fits.2⟩, fun fits => ⟨fits.versionDir, fits.visible⟩⟩

instance : Decidable (action.Gives state) :=
  match action with
  | .copy destDir _ item => inferInstanceAs (Decidable (if item.found then
      destDir ++ item.relative ∉ state.tree.directories
    else destDir ++ item.relative ∈ state.tree.files))
  | .newDirectory _ | .ensureDirectory _ | .writeManifest _ _ | .writeSource _ _ | .sweep _ _
  | .inspect _ _ | .cleanUp _ | .remove _ => inferInstanceAs (Decidable True)

instance : Decidable (action.InPlace naming state) :=
  match action with
  | .copy destDir files item => inferInstanceAs (Decidable ((destDir, files) ∈ state.origins →
      destDir ++ [naming.manifestJson] ∈ state.tree.files →
        destDir ++ item.relative ∈ state.tree.files))
  | .newDirectory _ | .ensureDirectory _ | .writeManifest _ _ | .writeSource _ _ | .sweep _ _
  | .inspect _ _ | .cleanUp _ | .remove _ => inferInstanceAs (Decidable True)

instance : Decidable (action.LeavesWhole naming state gone) :=
  match action with
  | .remove path => inferInstanceAs (Decidable (∀ origin ∈ state.origins, path <+: origin.1 →
      gone (origin.1 ++ [naming.manifestJson]) = false →
        ∀ file ∈ origin.2, gone (origin.1 ++ file) = false))
  | .newDirectory _ | .ensureDirectory _ | .copy _ _ _ | .writeManifest _ _ | .writeSource _ _
  | .sweep _ _ | .inspect _ _ | .cleanUp _ => inferInstanceAs (Decidable True)

instance (event : Event) : Decidable (Allowed naming modsDir state event) :=
  match event with
  | .sync run => inferInstanceAs (Decidable (∀ module ∈ run.module?, module.Fits naming modsDir))
  | .next => inferInstanceAs (Decidable ((∀ task ∈ state.block.head?, task.1.Gives state) ∧
      (state.block = [] → ∀ queued ∈ state.entries.head?,
        ∀ module ∈ entryModule naming modsDir state.tree queued.2, module.Fits naming modsDir)))
  | .fail gone => inferInstanceAs (Decidable ((∀ task ∈ state.block, task.1.InPlace naming state) ∧
      ∀ task ∈ state.block.head?, task.1.LeavesWhole naming state gone))

end Decidable

/-! ### The invariant -/

/-- The payload that an action belongs to. -/
def Action.payload : Action → Option (Path × List Path)
  | .copy destDir files _ | .writeManifest destDir files => some (destDir, files)
  | _ => none

def Action.isRemoval : Action → Bool
  | .sweep .. | .inspect .. | .cleanUp .. | .remove .. => true
  | _ => false

/-- The paths of an action lie as deep as they should. -/
def Action.Placed : Action → Prop
  | .newDirectory _ | .ensureDirectory _ => True
  | .copy destDir .. | .writeManifest destDir _ | .writeSource destDir _ =>
    IsVersionDir modsDir destDir
  | .sweep _ uuidDir | .cleanUp uuidDir =>
    modsDir <+: uuidDir ∧ uuidDir.length = modsDir.length + 1
  | .inspect _ verDir => IsVersionDir modsDir verDir
  | .remove path => Below modsDir path ∧ path.length ≤ modsDir.length + 2

/-- Every file of a payload is there, or its copy is still to come. -/
def State.Covers (state : State) (destDir : Path) (files : List Path) : Prop :=
  ∀ file ∈ files, destDir ++ file ∈ state.tree.files ∨
    ∃ item handler, (Action.copy destDir files item, handler) ∈ state.block ∧
      item.relative = file

/-- The invariant: what was touched is contained, the actions are placed, the payloads under way
and those of the directories with a manifest are covered, a removal is alone, and only removals
ignore errors. -/
structure Sound (state : State) : Prop where
  contained : state.Contained modsDir
  placed : ∀ task ∈ state.block, task.1.Placed modsDir
  versions : ∀ origin ∈ state.origins, IsVersionDir modsDir origin.1
  covered : ∀ origin ∈ state.origins, origin.1 ++ [naming.manifestJson] ∈ state.tree.files →
    state.Covers origin.1 origin.2
  filling : ∀ task ∈ state.block, ∀ destDir files, task.1.payload = some (destDir, files) →
    state.Covers destDir files
  removing : ∀ task ∈ state.block, task.1.isRemoval = true →
    ∀ other ∈ state.block, other.1.payload = none
  ignoring : ∀ task ∈ state.block, task.2 = .ignore → task.1.payload = none

theorem Sound.fresh : Sound naming modsDir (fresh modsDir) where
  contained _ member := nomatch member
  placed _ member := nomatch member
  versions _ member := nomatch member
  covered _ member := nomatch member
  filling _ member := nomatch member
  removing _ member := nomatch member
  ignoring _ member := nomatch member

section Invariant

variable {naming modsDir}

theorem below_append {destDir : Path} (version : IsVersionDir modsDir destDir) (rest : Path) :
    Below modsDir (destDir ++ rest) := by
  refine ⟨version.1.trans (List.prefix_append destDir rest), ?_⟩
  rw [List.length_append, version.2]
  omega

/-- Different directories of versions have no file in common. -/
theorem versionDir_inj {first second : Path} (firstVersion : IsVersionDir modsDir first)
    (secondVersion : IsVersionDir modsDir second) {rest other : Path}
    (same : first ++ rest = second ++ other) : first = second ∧ rest = other :=
  List.append_inj same (firstVersion.2.trans secondVersion.2.symm)

theorem Action.Placed.versionDir {action : Action} (placed : action.Placed modsDir)
    {destDir : Path} {files : List Path} (payload : action.payload = some (destDir, files)) :
    IsVersionDir modsDir destDir := by
  cases action <;> cases payload <;> exact placed

theorem State.Covers.mono {before after : State} {destDir : Path} {files : List Path}
    (covers : before.Covers destDir files)
    (grown : ∀ file ∈ before.tree.files, file ∈ after.tree.files)
    (kept : ∀ item handler, (Action.copy destDir files item, handler) ∈ before.block →
      (Action.copy destDir files item, handler) ∈ after.block ∨
        destDir ++ item.relative ∈ after.tree.files) :
    after.Covers destDir files := by
  intro file listed
  rcases covers file listed with there | ⟨item, handler, copy, rfl⟩
  · exact .inl (grown _ there)
  · rcases kept item handler copy with still | there
    · exact .inr ⟨item, handler, still, rfl⟩
    · exact .inl there

/-- An action is done that copies nothing, or whose file is there. -/
theorem Sound.pop {state : State} (sound : Sound naming modsDir state) {action : Action}
    {handler : Handler} {rest : List (Action × Handler)}
    (head : state.block = (action, handler) :: rest)
    (done : ∀ destDir files item, action = .copy destDir files item →
      destDir ++ item.relative ∈ state.tree.files) :
    Sound naming modsDir { state with block := rest } := by
  have later : ∀ task ∈ rest, task ∈ state.block := fun task member => by
    rw [head]
    exact List.mem_cons_of_mem _ member
  have covers : ∀ destDir files, state.Covers destDir files →
      State.Covers { state with block := rest } destDir files := by
    refine fun destDir files covers => covers.mono (fun _ => id) fun item handler copy => ?_
    rw [head] at copy
    rcases List.mem_cons.mp copy with same | member
    · exact .inr (done _ _ _ (congrArg Prod.fst same).symm)
    · exact .inl member
  exact {
    contained := sound.contained
    placed := fun task member => sound.placed task (later task member)
    versions := sound.versions
    covered := fun origin member installed =>
      covers _ _ (sound.covered origin member installed)
    filling := fun task member destDir files payload =>
      covers _ _ (sound.filling task (later task member) destDir files payload)
    removing := fun task member removal other listed =>
      sound.removing task (later task member) removal other (later other listed)
    ignoring := fun task member => sound.ignoring task (later task member) }

/-- An action without a payload has no file to show for it. -/
theorem Sound.pop_of_payload {state : State} (sound : Sound naming modsDir state) {action : Action}
    {handler : Handler} {rest : List (Action × Handler)}
    (head : state.block = (action, handler) :: rest) (none : action.payload = none) :
    Sound naming modsDir { state with block := rest } := by
  refine sound.pop head fun destDir files item copy => ?_
  rw [copy] at none
  cases none

/-- Files are written that lie where they should, and no manifest among them. -/
theorem Sound.grow {before after : State} (sound : Sound naming modsDir before)
    (block : after.block = before.block) (origins : after.origins = before.origins)
    (grown : ∀ file ∈ before.tree.files, file ∈ after.tree.files)
    (touched : ∀ path ∈ after.touched, path ∈ before.touched ∨ Below modsDir path)
    (manifests : ∀ origin ∈ before.origins,
      origin.1 ++ [naming.manifestJson] ∈ after.tree.files →
        origin.1 ++ [naming.manifestJson] ∈ before.tree.files) :
    Sound naming modsDir after := by
  have covers : ∀ destDir files, before.Covers destDir files → after.Covers destDir files :=
    fun destDir files covers => covers.mono grown fun item handler copy => .inl (block ▸ copy)
  exact {
    contained := fun path member => (touched path member).elim (sound.contained path) id
    placed := by
      rw [block]
      exact sound.placed
    versions := by
      rw [origins]
      exact sound.versions
    covered := by
      rw [origins]
      exact fun origin member installed =>
        covers _ _ (sound.covered origin member (manifests origin member installed))
    filling := by
      rw [block]
      exact fun task member destDir files payload =>
        covers _ _ (sound.filling task member destDir files payload)
    removing := by
      rw [block]
      exact sound.removing
    ignoring := by
      rw [block]
      exact sound.ignoring }

/-- A file of a payload, or its manifest, is written, and the directory now comes from it. -/
theorem Sound.place {before after : State} (sound : Sound naming modsDir before) {action : Action}
    {handler : Handler} (head : before.block = (action, handler) :: after.block)
    {destDir rest : Path} {files : List Path} (payload : action.payload = some (destDir, files))
    (written : after.tree.files = (destDir ++ rest) :: before.tree.files)
    (touched : after.touched = (destDir ++ rest) :: before.touched)
    (origins : after.origins =
      (destDir, files) :: before.origins.filter fun origin => origin.1 ≠ destDir)
    (done : ∀ other otherFiles item, action = .copy other otherFiles item →
      other ++ item.relative = destDir ++ rest) :
    Sound naming modsDir after := by
  have later : ∀ task ∈ after.block, task ∈ before.block := fun task member => by
    rw [head]
    exact List.mem_cons_of_mem _ member
  have first : (action, handler) ∈ before.block := by
    rw [head]
    exact List.mem_cons_self
  have version := (sound.placed _ first).versionDir payload
  have covers : ∀ other otherFiles, before.Covers other otherFiles →
      after.Covers other otherFiles := by
    refine fun other otherFiles covers => covers.mono (fun file member => ?_)
      fun item copyHandler copy => ?_
    · rw [written]
      exact List.mem_cons_of_mem _ member
    · rw [head] at copy
      rcases List.mem_cons.mp copy with same | member
      · right
        rw [written, done _ _ item (congrArg Prod.fst same).symm]
        exact List.mem_cons_self
      · exact .inl member
  exact {
    contained := by
      unfold State.Contained
      rw [touched, List.forall_mem_cons]
      exact ⟨below_append version rest, sound.contained⟩
    placed := fun task member => sound.placed task (later task member)
    versions := by
      rw [origins, List.forall_mem_cons]
      exact ⟨version, fun origin member => sound.versions origin (List.mem_of_mem_filter member)⟩
    covered := by
      rw [origins, List.forall_mem_cons]
      refine ⟨fun _ => covers _ _ (sound.filling _ first _ _ payload),
        fun origin member installed => ?_⟩
      obtain ⟨known, apart⟩ := List.mem_filter.mp member
      rw [written] at installed
      rcases List.mem_cons.mp installed with same | there
      · exact absurd (versionDir_inj (sound.versions origin known) version same).1
          (of_decide_eq_true apart)
      · exact covers _ _ (sound.covered origin known there)
    filling := fun task member other otherFiles payload =>
      covers _ _ (sound.filling task (later task member) other otherFiles payload)
    removing := fun task member removal other listed =>
      sound.removing task (later task member) removal other (later other listed)
    ignoring := fun task member => sound.ignoring task (later task member) }

/-- Where no copy is to come, what is covered is there. -/
theorem Sound.there {state : State} (sound : Sound naming modsDir state)
    (alone : ∀ task ∈ state.block, task.1.payload = none) : state.Whole naming := by
  intro origin member installed file listed
  rcases sound.covered origin member installed file listed with there | ⟨item, handler, copy, -⟩
  · exact there
  · cases alone _ copy

theorem Sound.whole {state : State} (sound : Sound naming modsDir state) (done : state.block = []) :
    state.Whole naming :=
  sound.there (by rw [done]; exact nofun)

/-- A removal that leaves whole payloads keeps the invariant. -/
theorem Sound.remove {state : State} (sound : Sound naming modsDir state)
    (alone : ∀ task ∈ state.block, task.1.payload = none) {path : Path} {gone : Path → Bool}
    (below : Below modsDir path) (short : path.length ≤ modsDir.length + 2)
    (whole : (Action.remove path).LeavesWhole naming state gone) :
    Sound naming modsDir (state.remove path gone) where
  contained := by
    intro file member
    rcases List.mem_append.mp member with removed | earlier
    · have inside := (mem_removed.mp removed).2.1
      exact ⟨below.1.trans inside, below.2.trans_le inside.length_le⟩
    · exact sound.contained file earlier
  placed := sound.placed
  versions := sound.versions
  covered := by
    intro origin member installed file listed
    obtain ⟨there, kept⟩ := mem_files_remove.mp installed
    refine .inl (mem_files_remove.mpr ⟨sound.there alone origin member there file listed, ?_⟩)
    rintro ⟨inside, goes⟩
    have version := sound.versions origin member
    have above : path <+: origin.1 :=
      List.prefix_of_prefix_length_le inside (List.prefix_append origin.1 file)
        (short.trans_eq version.2.symm)
    have stays : gone (origin.1 ++ [naming.manifestJson]) = false := by
      by_contra gone
      exact kept ⟨above.trans (List.prefix_append _ _), by simpa using gone⟩
    rw [whole origin member above stays file listed] at goes
    cases goes
  filling := by
    intro task member destDir files payload
    rw [alone task member] at payload
    cases payload
  removing := sound.removing
  ignoring := sound.ignoring

/-- A whole state stays sound when the actions that are left are dropped. -/
theorem Sound.drop {state : State} (sound : Sound naming modsDir state)
    (whole : state.Whole naming) (entries : List (Text × IndexEntry)) :
    Sound naming modsDir { state with block := [], entries := entries } where
  contained := sound.contained
  placed _ member := nomatch member
  versions := sound.versions
  covered origin member installed file listed := .inl (whole origin member installed file listed)
  filling _ member := nomatch member
  removing _ member := nomatch member
  ignoring _ member := nomatch member

theorem Action.payload_of_isRemoval {action : Action} (removal : action.isRemoval = true) :
    action.payload = none := by
  cases action <;> first | rfl | cases removal

/-- Removals are put in front of removals. -/
theorem Sound.push {state : State} (sound : Sound naming modsDir state)
    (alone : ∀ task ∈ state.block, task.1.payload = none) (pushed : List (Action × Handler))
    (removals : ∀ task ∈ pushed, task.1.isRemoval = true ∧ task.1.Placed modsDir) :
    Sound naming modsDir { state with block := pushed ++ state.block } := by
  have none : ∀ task ∈ pushed ++ state.block, task.1.payload = none := fun task member =>
    (List.mem_append.mp member).elim
      (fun new => Action.payload_of_isRemoval (removals task new).1) (alone task)
  exact {
    contained := sound.contained
    placed := fun task member => (List.mem_append.mp member).elim
      (fun new => (removals task new).2) (sound.placed task)
    versions := sound.versions
    covered := fun origin member installed file listed =>
      .inl (sound.there alone origin member installed file listed)
    filling := by
      intro task member destDir files payload
      rw [none task member] at payload
      cases payload
    removing := fun _ _ _ => none
    ignoring := fun task member _ => none task member }

/-- A block that fills one directory begins when nothing else is to be done. -/
theorem Sound.install {state : State} (sound : Sound naming modsDir state)
    (whole : state.Whole naming) {block : List (Action × Handler)}
    (placed : ∀ task ∈ block, task.1.Placed modsDir ∧ task.1.isRemoval = false ∧ task.2 ≠ .ignore)
    (filling : ∀ task ∈ block, ∀ destDir files, task.1.payload = some (destDir, files) →
      ∀ file ∈ files, ∃ item handler, (Action.copy destDir files item, handler) ∈ block ∧
        item.relative = file) (entries : List (Text × IndexEntry)) :
    Sound naming modsDir { state with block := block, entries := entries } where
  contained := sound.contained
  placed task member := (placed task member).1
  versions := sound.versions
  covered origin member installed file listed := .inl (whole origin member installed file listed)
  filling task member destDir files payload file listed :=
    .inr (filling task member destDir files payload file listed)
  removing task member removal := by
    rw [(placed task member).2.1] at removal
    cases removal
  ignoring task member ignored := absurd ignored (placed task member).2.2

/-! ### Steps -/

structure State.Wrote (before after : State) (path : Path) : Prop where
  block : after.block = before.block
  origins : after.origins = before.origins
  files : after.tree.files = path :: before.tree.files
  touched : after.touched = path :: before.touched

theorem write_eq_some {state after : State} {path : Path} {sourceId : Option Text}
    (written : state.write path sourceId = some after) : state.Wrote after path := by
  obtain ⟨tree, wrote, rfl⟩ := Option.map_eq_some_iff.mp written
  exact ⟨rfl, rfl, files_writeFile wrote, rfl⟩

theorem Sound.makeDirectory {state after : State} (sound : Sound naming modsDir state) {path : Path}
    (made : ((state.tree.makeDirectory path).map fun tree => { state with tree := tree }) =
      some after) : Sound naming modsDir after := by
  obtain ⟨tree, directory, rfl⟩ := Option.map_eq_some_iff.mp made
  have same := files_makeDirectory directory
  refine sound.grow rfl rfl (fun file member => ?_) (fun path member => .inl member)
    fun origin _ installed => ?_
  · exact same ▸ member
  · exact same ▸ installed

/-- The children of a directory are one level deeper. -/
theorem child_deeper {tree : FileTree Text} {path child : Path} (above : modsDir <+: path)
    (member : child ∈ tree.children path) :
    modsDir <+: child ∧ child.length = path.length + 1 := by
  obtain ⟨name, rfl⟩ := exists_of_mem_children member
  exact ⟨above.trans (List.prefix_append path [name]), by simp⟩

/-- A copy that gives its file keeps the invariant. -/
theorem copy_sound {state after : State} (sound : Sound naming modsDir state) {destDir : Path}
    {files : List Path} {item : Item} {handler : Handler} {rest : List (Action × Handler)}
    (head : state.block = (.copy destDir files item, handler) :: rest)
    (gives : (Action.copy destDir files item).Gives state)
    (performed : State.perform naming { state with block := rest } (.copy destDir files item) =
      some after) : Sound naming modsDir after := by
  simp only [Action.Gives] at gives
  simp only [State.perform] at performed
  split at performed
  case isTrue found =>
    rw [if_pos found] at gives
    rw [if_neg gives] at performed
    obtain ⟨middle, written, rfl⟩ := Option.map_eq_some_iff.mp performed
    have wrote := write_eq_some written
    have head : state.block = (.copy destDir files item, handler) :: middle.block := by
      rw [head, wrote.block]
    refine @Sound.place _ _ _ (middle.comesFrom destDir files) sound _ _ head _ _ _ rfl
      wrote.files wrote.touched ?_ ?_
    · rw [State.comesFrom, wrote.origins]
    · intro other otherFiles otherItem same
      cases same
      rfl
  case isFalse missing =>
    rw [if_neg missing] at gives
    cases performed
    refine sound.pop head fun other otherFiles otherItem same => ?_
    cases same
    exact gives

/-- The manifest that is written last marks a payload whose copies are done. -/
theorem writeManifest_sound {state after : State} (sound : Sound naming modsDir state)
    {destDir : Path} {files : List Path} {handler : Handler} {rest : List (Action × Handler)}
    (head : state.block = (.writeManifest destDir files, handler) :: rest)
    (performed : State.perform naming { state with block := rest } (.writeManifest destDir files) =
      some after) : Sound naming modsDir after := by
  obtain ⟨middle, written, rfl⟩ := Option.map_eq_some_iff.mp performed
  have wrote := write_eq_some written
  have head : state.block = (.writeManifest destDir files, handler) :: middle.block := by
    rw [head, wrote.block]
  refine @Sound.place _ _ _ (middle.comesFrom destDir files) sound _ _ head _ _ _ rfl
    wrote.files wrote.touched ?_ nofun
  rw [State.comesFrom, wrote.origins]

/-- The other file of the script is no manifest. -/
theorem writeSource_sound {state after : State} (sound : Sound naming modsDir state)
    {destDir : Path} (version : IsVersionDir modsDir destDir) {sourceId : Option Text}
    (written : state.write (destDir ++ [naming.sourceJson]) sourceId = some after) :
    Sound naming modsDir after := by
  have wrote := write_eq_some written
  refine sound.grow wrote.block wrote.origins (fun file member => ?_)
    (fun path member => ?_) fun origin member installed => ?_
  · rw [wrote.files]
    exact List.mem_cons_of_mem _ member
  · rw [wrote.touched] at member
    rcases List.mem_cons.mp member with rfl | earlier
    · exact .inr (below_append version _)
    · exact .inl earlier
  · rw [wrote.files] at installed
    rcases List.mem_cons.mp installed with same | there
    · have names := (versionDir_inj (sound.versions origin member) version same).2
      exact absurd (List.singleton_inj.mp names) naming.tells
    · exact there

section Removal

variable {state after : State} (sound : Sound naming modsDir state)
  (alone : ∀ task ∈ state.block, task.1.payload = none)
include sound alone

theorem sweep_sound {sourceId : Text} {uuidDir : Path}
    (placed : (Action.sweep sourceId uuidDir).Placed modsDir)
    (performed : state.perform naming (.sweep sourceId uuidDir) = some after) :
    Sound naming modsDir after := by
  cases performed
  rw [List.append_cons]
  refine sound.push alone _ fun task member => ?_
  rcases List.mem_append.mp member with inspects | cleans
  · obtain ⟨verDir, child, rfl⟩ := List.mem_map.mp inspects
    obtain ⟨above, length⟩ := child_deeper placed.1 child
    exact ⟨rfl, above, by rw [length, placed.2]⟩
  · rw [List.mem_singleton.mp cleans]
    exact ⟨rfl, placed⟩

/-- A directory that is to be removed lies where it should. -/
theorem pushRemove_sound {path : Path} (handler : Handler) (above : modsDir <+: path)
    (deeper : modsDir.length < path.length) (short : path.length ≤ modsDir.length + 2) :
    Sound naming modsDir { state with block := (.remove path, handler) :: state.block } := by
  refine sound.push alone [(.remove path, handler)] fun task member => ?_
  rw [List.mem_singleton.mp member]
  exact ⟨rfl, ⟨above, deeper⟩, short⟩

theorem inspect_sound {sourceId : Text} {verDir : Path}
    (placed : (Action.inspect sourceId verDir).Placed modsDir)
    (performed : state.perform naming (.inspect sourceId verDir) = some after) :
    Sound naming modsDir after := by
  simp only [State.perform] at performed
  split at performed
  · obtain ⟨other, -, rfl⟩ := Option.map_eq_some_iff.mp performed
    split
    · have length := placed.2
      exact pushRemove_sound sound alone .exit placed.1 (by omega) (by omega)
    · exact sound
  · split at performed
    · cases performed
    · cases performed
      exact sound

theorem cleanUp_sound {uuidDir : Path} (placed : (Action.cleanUp uuidDir).Placed modsDir)
    (performed : state.perform naming (.cleanUp uuidDir) = some after) :
    Sound naming modsDir after := by
  simp only [State.perform, Option.some.injEq] at performed
  split at performed
  · subst performed
    have length := placed.2
    exact pushRemove_sound sound alone .ignore placed.1 (by omega) (by omega)
  · subst performed
    exact sound

end Removal

/-- An action that is performed keeps the invariant. -/
theorem perform_sound {state after : State} (sound : Sound naming modsDir state) {action : Action}
    {handler : Handler} {rest : List (Action × Handler)}
    (head : state.block = (action, handler) :: rest) (gives : action.Gives state)
    (performed : State.perform naming { state with block := rest } action = some after) :
    Sound naming modsDir after := by
  have first : (action, handler) ∈ state.block := by
    rw [head]
    exact List.mem_cons_self
  have placed := sound.placed _ first
  have alone : action.isRemoval = true → ∀ task ∈ rest, task.1.payload = none :=
    fun removal task member => sound.removing _ first removal task (by
      rw [head]
      exact List.mem_cons_of_mem _ member)
  cases action with
  | newDirectory path => exact (sound.pop_of_payload head rfl).makeDirectory performed
  | ensureDirectory path =>
    simp only [State.perform] at performed
    split at performed
    · cases performed
      exact sound.pop_of_payload head rfl
    · exact (sound.pop_of_payload head rfl).makeDirectory performed
  | copy destDir files item => exact copy_sound sound head gives performed
  | writeManifest destDir files => exact writeManifest_sound sound head performed
  | writeSource destDir sourceId =>
    exact writeSource_sound (sound.pop_of_payload head rfl) placed performed
  | sweep sourceId uuidDir =>
    exact sweep_sound (sound.pop_of_payload head rfl) (alone rfl) placed performed
  | inspect sourceId verDir =>
    exact inspect_sound (sound.pop_of_payload head rfl) (alone rfl) placed performed
  | cleanUp uuidDir => exact cleanUp_sound (sound.pop_of_payload head rfl) (alone rfl) placed performed
  | remove path =>
    cases performed
    exact (sound.pop_of_payload head rfl).remove (alone rfl) placed.1 placed.2
      fun origin _ _ stays => by cases stays

theorem mem_copyItems {destDir : Path} {items : List Item} {handler : Handler}
    {task : Action × Handler} (member : task ∈ copyItems destDir items handler) :
    task.2 = handler ∧ ((∃ path, task.1 = .ensureDirectory path) ∨
      ∃ item, task.1 = .copy destDir (payloadFiles items) item) := by
  obtain ⟨item, -, rfl⟩ := List.mem_map.mp member
  refine ⟨rfl, ?_⟩
  by_cases container : item.isContainer = true
  · exact .inl ⟨_, if_pos container⟩
  · exact .inr ⟨item, if_neg container⟩

/-- The files of a payload that is visible are all copied. -/
theorem copies_payload {destDir : Path} {items : List Item} (handler : Handler)
    (visible : ∀ item ∈ items, item.isContainer = true ∨ item.isHidden = false) {file : Path}
    (listed : file ∈ payloadFiles items) :
    ∃ item handler', (Action.copy destDir (payloadFiles items) item, handler') ∈
      copyItems destDir items handler ∧ item.relative = file := by
  obtain ⟨item, member, rfl⟩ := List.mem_map.mp listed
  obtain ⟨among, plain⟩ := List.mem_filter.mp member
  have plain : item.isContainer = false := by simpa using plain
  have shown : item.isHidden = false := (visible item among).resolve_left (by simp [plain])
  refine ⟨item, handler, List.mem_map.mpr ⟨item, List.mem_filter.mpr ⟨among, by simp [shown]⟩, ?_⟩,
    rfl⟩
  rw [if_neg (by simp [plain])]

/-- A module that fits can be installed by a block that makes its directory, copies its items and
then writes files into the directory. -/
theorem Sound.installModule {state : State} (sound : Sound naming modsDir state)
    (whole : state.Whole naming) {module : Module} (fits : module.Fits naming modsDir)
    {first : Action} {handler : Handler} (last : List (Action × Handler))
    (copying : handler ≠ .ignore)
    (making : ∃ path, first = .newDirectory path ∨ first = .ensureDirectory path)
    (closing : ∀ task ∈ last, task.2 = .exit ∧
      (task.1 = .writeManifest (naming.versionDir modsDir module.uuid module.version)
          (payloadFiles module.items) ∨
        ∃ sourceId, task.1 =
          .writeSource (naming.versionDir modsDir module.uuid module.version) sourceId))
    (entries : List (Text × IndexEntry)) :
    Sound naming modsDir { state with
      block := (first, .exit) :: copyItems (naming.versionDir modsDir module.uuid module.version)
        module.items handler ++ last
      entries := entries } := by
  have known : ∀ task ∈ (first, Handler.exit) :: copyItems
      (naming.versionDir modsDir module.uuid module.version) module.items handler ++ last,
      task.1.Placed modsDir ∧ task.1.isRemoval = false ∧ task.2 ≠ .ignore ∧
        ∀ destDir files, task.1.payload = some (destDir, files) →
          destDir = naming.versionDir modsDir module.uuid module.version ∧
            files = payloadFiles module.items := by
    intro task member
    rcases List.mem_append.mp member with front | member
    · rcases List.mem_cons.mp front with rfl | member
      · obtain ⟨path, rfl | rfl⟩ := making <;> exact ⟨trivial, rfl, nofun, nofun⟩
      · obtain ⟨handled, ⟨path, same⟩ | ⟨item, same⟩⟩ := mem_copyItems member
        · rw [same, handled]
          exact ⟨trivial, rfl, copying, nofun⟩
        · rw [same, handled]
          refine ⟨fits.versionDir, rfl, copying, ?_⟩
          rintro destDir files ⟨⟩
          exact ⟨rfl, rfl⟩
    · obtain ⟨handled, same | ⟨sourceId, same⟩⟩ := closing task member
      · rw [same, handled]
        refine ⟨fits.versionDir, rfl, nofun, ?_⟩
        rintro destDir files ⟨⟩
        exact ⟨rfl, rfl⟩
      · rw [same, handled]
        exact ⟨fits.versionDir, rfl, nofun, nofun⟩
  refine sound.install whole (fun task member => ?_) (fun task member destDir files payload => ?_)
    entries
  · obtain ⟨placed, installs, handled, -⟩ := known task member
    exact ⟨placed, installs, handled⟩
  · obtain ⟨-, -, -, only⟩ := known task member
    obtain ⟨rfl, rfl⟩ := only destDir files payload
    intro file listed
    obtain ⟨item, copyHandler, copied, same⟩ := copies_payload handler fits.visible listed
    exact ⟨item, copyHandler, List.mem_append_left _ (List.mem_cons_of_mem _ copied), same⟩

/-- A run begins with nothing to do. -/
theorem begin_sound {state : State} (sound : Sound naming modsDir state)
    (done : state.block = []) {run : Run} (allowed : Allowed naming modsDir state (.sync run)) :
    Sound naming modsDir (state.begin naming modsDir run) := by
  have whole := sound.whole done
  cases run with
  | install sourceId module =>
    cases module with
    | none => exact sound
    | some module =>
      have copying : Handler.exit ≠ .ignore := nofun
      simp only [State.begin]
      split
      case isTrue => exact sound
      case isFalse complete =>
        rw [not_or] at complete
        refine sound.installModule whole (allowed module ?_) _ copying ⟨_, .inr rfl⟩ ?_
          state.entries
        · simpa [Run.module?] using complete
        intro task member
        rw [List.mem_singleton.mp member]
        exact ⟨rfl, .inr ⟨sourceId, rfl⟩⟩
  | registry sourceId index =>
    have dropped := sound.drop whole (index.map fun entry => (sourceId, entry))
    rw [← done] at dropped
    exact dropped
  | remove sourceId =>
    have none : ∀ task ∈ state.block, task.1.payload = none := by
      rw [done]
      exact nofun
    have pushed := sound.push none ((state.tree.children modsDir).map fun uuidDir =>
      (.sweep sourceId uuidDir, .exit)) (by
        intro task member
        obtain ⟨uuidDir, child, rfl⟩ := List.mem_map.mp member
        exact ⟨rfl, child_deeper (List.prefix_refl modsDir) child⟩)
    rw [done, List.append_nil] at pushed
    exact pushed

/-- What an action that fails leaves is sound, and whole. -/
theorem broken_sound {state : State} (sound : Sound naming modsDir state) {gone : Path → Bool}
    (allowed : Allowed naming modsDir state (.fail gone)) {action : Action} {handler : Handler}
    {rest : List (Action × Handler)} (head : state.block = (action, handler) :: rest) :
    Sound naming modsDir (state.broken gone action) ∧ (state.broken gone action).Whole naming := by
  have first : (action, handler) ∈ state.block := by
    rw [head]
    exact List.mem_cons_self
  by_cases removal : ∃ path, action = .remove path
  · obtain ⟨path, rfl⟩ := removal
    have alone := sound.removing _ first rfl
    obtain ⟨below, short⟩ := sound.placed _ first
    have left := sound.remove alone below short
      (allowed.2 (.remove path, handler) (by rw [head]; rfl))
    exact ⟨left, left.there alone⟩
  · have same : state.broken gone action = state := by
      cases action <;> first | rfl | exact absurd ⟨_, rfl⟩ removal
    rw [same]
    refine ⟨sound, fun origin member installed file listed => ?_⟩
    rcases sound.covered origin member installed file listed with there | ⟨item, _, copy, rfl⟩
    · exact there
    · exact allowed.1 _ copy member installed

/-- An error keeps the invariant, if it leaves whole payloads. -/
theorem fail_sound {state after : State} (sound : Sound naming modsDir state) {gone : Path → Bool}
    (allowed : Allowed naming modsDir state (.fail gone)) (failed : state.fail gone = some after) :
    Sound naming modsDir after := by
  unfold State.fail at failed
  split at failed
  case h_1 done =>
    split at failed
    · cases failed
    · cases failed
      have dropped := sound.drop (sound.whole done) []
      rw [← done] at dropped
      exact dropped
  case h_2 action handler rest head =>
    obtain ⟨left, whole⟩ := broken_sound sound allowed head
    cases failed
    cases handler with
    | exit => exact left.drop whole []
    | nextEntry => exact left.drop whole (state.broken gone action).entries
    | ignore =>
      have block : (state.broken gone action).block = (action, .ignore) :: rest := by
        rw [← head]
        cases action <;> rfl
      refine left.pop block fun destDir files item same => ?_
      have none := left.ignoring (action, .ignore) (by rw [block]; exact List.mem_cons_self) rfl
      rw [same] at none
      cases none

/-- Every step keeps the invariant. -/
theorem step_sound {state after : State} (sound : Sound naming modsDir state) {event : Event}
    (allowed : Allowed naming modsDir state event)
    (stepped : step naming modsDir state event = some after) : Sound naming modsDir after := by
  cases event with
  | sync run =>
    simp only [step] at stepped
    split at stepped
    case isTrue idle =>
      cases stepped
      rw [State.idle, Bool.and_eq_true, List.isEmpty_iff] at idle
      exact begin_sound sound idle.1 allowed
    case isFalse => cases stepped
  | next =>
    simp only [step] at stepped
    split at stepped
    case h_1 _ action handler rest head =>
      exact perform_sound sound head (allowed.1 (action, handler) (by rw [head]; rfl)) stepped
    case h_2 sourceId entry later done entries =>
      cases stepped
      have whole := sound.whole done
      have fits := allowed.2 done (sourceId, entry) (by rw [entries]; rfl)
      cases chosen : entryModule naming modsDir state.tree entry with
      | none => exact sound.drop whole later
      | some module =>
        have copying : Handler.nextEntry ≠ .ignore := nofun
        refine sound.installModule whole (fits module chosen) _ copying ⟨_, .inl rfl⟩ ?_ later
        intro task member
        simp only [List.mem_cons, List.not_mem_nil, or_false] at member
        rcases member with rfl | rfl
        · exact ⟨rfl, .inl rfl⟩
        · exact ⟨rfl, .inr ⟨sourceId, rfl⟩⟩
    case h_3 => cases stepped
  | fail gone => exact fail_sound sound allowed stepped

end Invariant

/-- Along every run of syncs in which the modules that are installed fit, their copies give their
files, and no action fails while a manifest stands without files of its payload, every file that
is touched lies below the modules directory, and whenever no module is being installed or removed,
every directory with a manifest has all files of the payload it came from. -/
theorem installs_contained_and_whole {state : State}
    (reached : Reaches (step naming modsDir) (Allowed naming modsDir) (fresh modsDir) state) :
    state.Contained modsDir ∧ (state.block = [] → state.Whole naming) := by
  have sound : Sound naming modsDir state :=
    reached.invariant (Sound.fresh naming modsDir)
      fun _ _ _ sound allowed stepped => step_sound sound allowed stepped
  exact ⟨sound.contained, sound.whole⟩

end Script

/-! ### Runs of a registry -/

/-- Names that differ in the case of letters only are one. -/
def ignoringCase : Naming where
  canonical name := name.map fun byte => if 65 ≤ byte ∧ byte ≤ 90 then byte + 32 else byte
  tells := by decide +kernel

def someModsDir : Path :=
  [ascii "locallow", ascii "wkopenvr", ascii "facetracking", ascii "modules"]

/-- A payload of a manifest and a library. -/
def somePayload : List Item :=
  [{ name := ascii "manifest.json" }, { name := ascii "assemblies", isContainer := true },
    { parents := [ascii "assemblies"], name := ascii "module.dll" }]

/-- An entry of an index under some strings. -/
def someEntry (uuid version : String) : IndexEntry where
  uuid := ascii uuid
  version := ascii version
  manifest := some {}
  download := some { items := some somePayload }

def start : State :=
  fresh someModsDir

def advance : State → Event → Option State :=
  step ignoringCase someModsDir

/-- A sync up to the first copy. -/
def untilCopy (entry : IndexEntry) : List Event :=
  [.sync (.registry (ascii "1") [entry]), .next, .next]

/-- A module is installed; of its update no file can be copied. -/
def installedOnce : List Event :=
  untilCopy (someEntry "a" "1") ++ List.replicate 5 .next ++ untilCopy (someEntry "a" "2") ++
    [.fail fun _ => false]

theorem installs_contained_and_whole_once : ∃ state : State, state.block = [] ∧
    someModsDir ++ [ascii "a", ascii "1", ascii "manifest.json"] ∈ state.tree.files ∧
      state.Contained someModsDir ∧ state.Whole ignoringCase := by
  obtain ⟨state, reached, done, installed⟩ :
      ∃ state, Reaches advance (Allowed ignoringCase someModsDir) start state ∧
        state.block = [] ∧
          someModsDir ++ [ascii "a", ascii "1", ascii "manifest.json"] ∈ state.tree.files :=
    reaches_evaluates installedOnce (by decide +kernel)
  obtain ⟨contained, whole⟩ := installs_contained_and_whole ignoringCase someModsDir reached
  exact ⟨state, done, installed, contained, whole done⟩

/-- Strings with steps to the parent directory lead out of the modules directory, and an error
after the copy of the manifest leaves a directory that later syncs take for installed, without the
library of its payload. -/
theorem syncs_escape_and_leave_parts :
    (∃ state, run advance start (untilCopy (someEntry "..\\.." "x") ++ [.next]) = some state ∧
      ¬state.Contained someModsDir) ∧
    ∃ state, run advance start (untilCopy (someEntry "a" "1") ++ [.next, .fail fun _ => false]) =
        some state ∧
      state.idle = true ∧ ¬state.Whole ignoringCase ∧
        (entryModule ignoringCase someModsDir state.tree (someEntry "a" "1")).isNone = true :=
  ⟨run_evaluates (by decide +kernel), run_evaluates (by decide +kernel)⟩

end PairDriver.ModuleInstall
