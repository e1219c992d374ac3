/-
This file models the script that installs and removes the packs of the captions
module. A pack has files, zips with entries to extract, a snapshot of a model
repository, and other packs that it depends on; a stamp in the install directory
says that it is installed. The machine performs one operation of the script after
the other; any of them may fail, which ends the run where it stands, and a run may
be followed by any other.

Destinations are paths as the file system resolves them, and identifiers are in the
form in which the comparisons of the script, which ignore case, tell them apart.
-/

import PairDriver.FileTree
import PairDriver.Machine
import PairDriver.ModuleSync

namespace PairDriver.CaptionsPacks

open ModuleSync (Text sameText)

/-! ### The manifest -/

/-- A path, as the names from the root of its drive. -/
abbrev Path := List Text

/-- An entry of `extract`. -/
structure ZipEntry where
  fromPath : Text
  toPath : Path
deriving DecidableEq

structure PackFile where
  url : Text
  destination : Path
  sha256 : Text := []
  extract : List ZipEntry := []
deriving DecidableEq

structure Snapshot where
  repo : Text := []
  revision : Text := []
  destination : Option Path := none
deriving DecidableEq

structure Pack where
  id : Text
  dependencies : List Text := []
  files : List PackFile := []
  hfSnapshot : Option Snapshot := none
deriving DecidableEq

/-- `Get-Pack`. -/
def getPack (packs : List Pack) (id : Text) : Option Pack :=
  packs.find? fun pack => pack.id = id

def dependencies (packs : List Pack) (id : Text) : List Text :=
  (getPack packs id).elim [] Pack.dependencies

/-- A manifest whose packs do not depend on themselves, directly or through others. -/
structure Manifest where
  packs : List Pack
  acyclic : ∀ id, ¬Relation.TransGen (fun id dep => dep ∈ dependencies packs id) id id

/-- The files that a pack lists. -/
def Pack.listed (pack : Pack) : List Path :=
  pack.files.flatMap fun file => file.destination :: file.extract.map ZipEntry.toPath

/-! ### What a run finds outside -/

/-- What matters of the content of a file: its hash, and the `id` it has if it is read as a
stamp. -/
structure Content where
  sha256 : Text
  stampId : Option Text
deriving DecidableEq

/-- What a zip has under a name. -/
inductive Extracted where
  | file (name : Text) (content : Content)
  | folder (name : Text)
deriving DecidableEq

/-- A file of a repository: its name, the same escaped, the path it leads to below the
destination, and its hash if the repository has one. -/
structure Sibling where
  rfilename : Text
  urlRel : Text
  relative : Path
  sha256 : Text := []

/-- What is served under an address, the files of a revision of a repository, what a zip has under
a name, and the hash a stamp will have. -/
structure World where
  served : Text → Option Content
  siblings : Text → Text → Option (List Sibling)
  extracted : Path → Text → Option Extracted
  stampSha256 : Text → Text

/-! ### Operations of the script -/

inductive Action where
  | install (id : Text)
  | ensureParent (path : Path)
  | download (url : Text) (destination : Path) (sha256 : Text)
  | clear (tmp : Path)
  | fetch (url : Text) (tmp : Path) (sha256 : Text)
  | move (tmp destination : Path)
  | extract (zipPath : Path) (entry : ZipEntry)
  | copyEntry (item : Extracted) (toPath : Path)
  | readSnapshot (id : Text) (snapshot : Snapshot)
  | writeStamp (pack : Pack)
deriving DecidableEq

inductive RemovalAction where
  | remove (path : Path)
  | prune (path : Path)
deriving DecidableEq

/-- A pack that is being removed, and what is left to do before its stamp is removed. -/
structure Removal where
  id : Text
  actions : List RemovalAction

/-- The run that is under way. A release is a pack that was removed and one of its dependencies,
which is removed too unless another installed pack needs it. -/
inductive Job where
  | idle
  | installing (world : World) (actions : List Action)
  | removing (current : Option Removal) (releases : List (Text × Text))

/-- The install directory with the run that works on it. `fetched` are the files of the snapshot of
a pack that the run under way downloads, `recorded` those that were downloaded when its stamp was
written. -/
structure State where
  tree : FileTree Text
  contents : Path → Content := fun _ => ⟨[], none⟩
  fetched : Text → List Path := fun _ => []
  recorded : Text → List Path := fun _ => []
  job : Job := .idle

/-- `"$Destination.download"`. -/
def downloadPath (destination : Path) : Path :=
  destination.dropLast ++ [destination.getLastD [] ++ ascii ".download"]

/-- What Download-VerifiedFile does if the file is not there. -/
def fetchActions (url : Text) (destination : Path) (sha256 : Text) : List Action :=
  [.clear (downloadPath destination), .fetch url (downloadPath destination) sha256,
    .move (downloadPath destination) destination]

/-- A file of a pack: `Download-VerifiedFile` and `Extract-ZipEntries`. -/
def PackFile.actions (file : PackFile) : List Action :=
  .ensureParent file.destination :: .download file.url file.destination file.sha256 ::
    file.extract.map (.extract file.destination)

/-- The rest of `Install-Pack`, once its pack is found. -/
def Pack.installActions (pack : Pack) : List Action :=
  pack.dependencies.map .install ++ pack.files.flatMap PackFile.actions ++
    (pack.hfSnapshot.map (.readSnapshot pack.id)).toList ++ [.writeStamp pack]

/-- The paths that `Uninstall-Pack` removes before the stamp. -/
def Pack.removals (pack : Pack) : List Path :=
  (pack.files.flatMap fun file => file.extract.map ZipEntry.toPath ++ [file.destination]) ++
    (pack.hfSnapshot.bind Snapshot.destination).toList

def removalActions (packs : List Pack) (id : Text) : List RemovalAction :=
  ((getPack packs id).elim [] Pack.removals).flatMap fun path => [.remove path, .prune path]

/-- The script downloads the file of a repository. -/
def Sibling.isKept (sibling : Sibling) : Bool :=
  sibling.rfilename ≠ [] && sibling.rfilename.getLast? ≠ some 47 &&
    !sameText sibling.rfilename (ascii ".gitattributes") &&
    !sameText (sibling.rfilename.drop (sibling.rfilename.length - 3)) (ascii ".md")

/-- The address of a file of a repository. -/
def Sibling.url (sibling : Sibling) (repo revision : Text) : Text :=
  ascii "https://huggingface.co/" ++ repo ++ ascii "/resolve/" ++ revision ++ ascii "/" ++
    sibling.urlRel

/-- The downloads of `Install-HfSnapshot`. -/
def Snapshot.actions (snapshot : Snapshot) (revision : Text) (destRoot : Path)
    (siblings : List Sibling) : List Action :=
  siblings.flatMap fun sibling =>
    [.ensureParent (destRoot ++ sibling.relative),
      .download (sibling.url snapshot.repo revision) (destRoot ++ sibling.relative)
        sibling.sha256]

section Script

variable (root : Path) (packs : List Pack)

def stampPath (id : Text) : Path :=
  root ++ [ascii "installed-" ++ id ++ ascii ".json"]

/-- The name of a stamp, for `Get-ChildItem`. -/
def isStampName (name : Text) : Bool :=
  (ascii "installed-").isPrefixOf name && (ascii ".json").isSuffixOf name

/-- `Get-InstalledPackIds`. -/
def State.installedPackIds (state : State) : List Text :=
  (state.tree.files.filter fun file =>
    file.dropLast = root ∧ isStampName (file.getLastD [])).filterMap fun file =>
      (state.contents file).stampId

/-- `Test-InstalledPackDependency`. -/
def State.isDependedOn (state : State) (dependencyId ignorePackId : Text) : Bool :=
  (state.installedPackIds root).any fun id =>
    id ≠ ignorePackId ∧ dependencyId ∈ dependencies packs id

/-- A file is written. -/
def State.write (state : State) (path : Path) (content : Content) : Option State :=
  (state.tree.writeFile path).map fun tree => { state with
    tree := tree
    contents := fun other => if other = path then content else state.contents other }

/-- Where a file goes that is moved or copied to a path: into it if it is a directory. -/
def State.target (state : State) (path : Path) (name : Text) : Path :=
  if path ∈ state.tree.directories then path ++ [name] else path

/-- `Write-PackStamp`. -/
def State.stamp (state : State) (id : Text) (content : Content) : Option State :=
  (state.write (stampPath root id) content).map fun after => { after with
    recorded := fun other => if other = id then state.fetched id else state.recorded other }

/-- The pack whose stamp an action writes. -/
def Action.stamps : Action → Option Pack
  | .writeStamp pack => some pack
  | _ => none

/-- The pack is in `$Visiting`. -/
def isVisiting (actions : List Action) (id : Text) : Bool :=
  actions.any fun action => action.stamps.any fun pack => pack.id = id

/-- What the first action of an install does before the rest, none if it throws. -/
def State.performAction (state : State) (world : World) (rest : List Action) :
    Action → Option State
  | .install id =>
    if isVisiting rest id then none
    else (getPack packs id).map fun pack => { state with
      fetched := fun other => if other = id then [] else state.fetched other
      job := .installing world (pack.installActions ++ rest) }
  | .ensureParent path => (state.tree.ensureParent path).map fun tree =>
    { state with tree := tree, job := .installing world rest }
  | .download url destination sha256 =>
    if sha256 ≠ [] ∧ destination ∈ state.tree.directories then none
    else if sha256 ≠ [] ∧ destination ∈ state.tree.files ∧
        sameText (state.contents destination).sha256 sha256 then
      some { state with job := .installing world rest }
    else some { state with
      job := .installing world (fetchActions url destination sha256 ++ rest) }
  | .clear tmp =>
    if tmp ∈ state.tree.directories then
      if state.tree.isEmptyDirectory tmp then some { state with
        tree := state.tree.removeDirectory tmp, job := .installing world rest }
      else none
    else some { state with tree := state.tree.removeFile tmp, job := .installing world rest }
  | .fetch url tmp sha256 => do
    let content ← world.served url
    if sha256 ≠ [] ∧ !sameText content.sha256 sha256 then none
    else
      let after ← state.write tmp content
      some { after with job := .installing world rest }
  | .move tmp destination =>
    if tmp ∈ state.tree.files then do
      let moved := { state with tree := state.tree.removeFile tmp }
      let after ← moved.write (state.target destination (tmp.getLastD [])) (state.contents tmp)
      some { after with job := .installing world rest }
    else none
  | .extract zipPath entry => (world.extracted zipPath entry.fromPath).map fun item =>
    { state with
      job := .installing world
        (.ensureParent entry.toPath :: .copyEntry item entry.toPath :: rest) }
  | .copyEntry (.file name content) toPath => do
    let after ← state.write (state.target toPath name) content
    some { after with job := .installing world rest }
  | .copyEntry (.folder name) toPath =>
    if toPath ∈ state.tree.files then none
    else (state.tree.makeDirectory (state.target toPath name)).map fun tree =>
      { state with tree := tree, job := .installing world rest }
  | .readSnapshot id snapshot => do
    let revision := if snapshot.revision = [] then ascii "main" else snapshot.revision
    let destRoot ← if snapshot.repo = [] then none else snapshot.destination
    let siblings ← world.siblings snapshot.repo revision
    if siblings = [] then none
    else
      let tree ← state.tree.makeDirectory destRoot
      let kept := siblings.filter Sibling.isKept
      some { state with
        tree := tree
        fetched := fun other =>
          if other = id then kept.map fun sibling => destRoot ++ sibling.relative
          else state.fetched other
        job := .installing world (snapshot.actions revision destRoot kept ++ rest) }
  | .writeStamp pack => do
    let after ← state.stamp root pack.id ⟨world.stampSha256 pack.id, some pack.id⟩
    some { after with job := .installing world rest }

/-- What comes next in an uninstall, none if it throws. -/
def State.performRemoval (state : State) :
    Option Removal → List (Text × Text) → Option State
  | some ⟨id, .remove path :: rest⟩, releases => some { state with
    tree := state.tree.remove path fun _ => true
    job := .removing (some ⟨id, rest⟩) releases }
  | some ⟨id, .prune path :: rest⟩, releases =>
    if root ∈ state.tree.directories then some { state with
      tree := state.tree.pruneParents root path.length path.dropLast
      job := .removing (some ⟨id, rest⟩) releases }
    else none
  | some ⟨id, []⟩, releases => some { state with
    tree := state.tree.remove (stampPath root id) fun _ => true
    job := .removing none ((dependencies packs id).map (fun dep => (id, dep)) ++ releases) }
  | none, (id, dep) :: releases =>
    if state.isDependedOn root packs dep id then
      some { state with job := .removing none releases }
    else (getPack packs dep).map fun _ => { state with
      job := .removing (some ⟨dep, removalActions packs dep⟩) releases }
  | none, [] => some { state with job := .idle }

/-- What an action that fails leaves: a removal has removed what is `gone`, a download or a copy may
have left a file, and a move may have removed the file it was to replace. -/
def State.broken (state : State) (gone : Path → Bool) (left : Option Content) : Job → State
  | .installing _ (.fetch _ tmp _ :: _) =>
    match left with
    | some content => (state.write tmp content).getD state
    | none => if gone tmp then { state with tree := state.tree.removeFile tmp } else state
  | .installing _ (.move _ destination :: _) =>
    if gone destination then { state with tree := state.tree.removeFile destination } else state
  | .installing _ (.copyEntry (.file name _) toPath :: _) =>
    (left.bind fun content => state.write (state.target toPath name) content).getD state
  | .installing _ (.writeStamp pack :: _) =>
    (left.bind fun content => state.stamp root pack.id content).getD state
  | .removing (some ⟨_, .remove path :: _⟩) _ =>
    { state with tree := state.tree.remove path gone }
  | _ => state

/-- A run begins when none is under way; its next action is performed, or fails, which ends it. -/
inductive Event where
  | install (world : World) (id : Text)
  | uninstall (id : Text)
  | next
  | fail (gone : Path → Bool) (left : Option Content)

/-- The run of the script begins with the install directory and the pack. -/
def State.begin (state : State) (id : Text) (job : Job) : Option State :=
  match state.job with
  | .idle => (state.tree.makeDirectory root).map fun tree =>
    { state with tree := tree, job := if (getPack packs id).isSome then job else .idle }
  | _ => none

def step (state : State) : Event → Option State
  | .install world id => state.begin root packs id (.installing world [.install id])
  | .uninstall id =>
    state.begin root packs id (.removing (some ⟨id, removalActions packs id⟩) [])
  | .next =>
    match state.job with
    | .idle => none
    | .installing _ [] => some { state with job := .idle }
    | .installing world (action :: rest) => state.performAction root packs world rest action
    | .removing current releases => state.performRemoval root packs current releases
  | .fail gone left =>
    match state.job with
    | .idle => none
    | job => some { state.broken root gone left job with job := .idle }

/-! ### The store -/

/-- A pack of the manifest that has a stamp. -/
def State.Installed (state : State) (id : Text) : Prop :=
  id ∈ packs.map Pack.id ∧ stampPath root id ∈ state.tree.files

/-- The files of a pack: those it lists, and those of its snapshot when it was installed. -/
def State.filesOf (state : State) (id : Text) : List Path :=
  (getPack packs id).elim [] Pack.listed ++ state.recorded id

/-- Every pack that has a stamp has its files and the stamps of its dependencies, and what it
depends on has its files too. -/
structure State.Consistent (state : State) : Prop where
  files : ∀ id, state.Installed root packs id →
    ∀ path ∈ state.filesOf packs id, path ∈ state.tree.files
  dependencies : ∀ id, state.Installed root packs id →
    ∀ dep ∈ dependencies packs id, state.Installed root packs dep
  shared : ∀ id, state.Installed root packs id → ∀ dep ∈ CaptionsPacks.dependencies packs id,
    ∀ path ∈ state.filesOf packs dep, path ∈ state.tree.files

end Script

end PairDriver.CaptionsPacks
