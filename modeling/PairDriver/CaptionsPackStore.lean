/-
This file follows the store of the captions packs through runs that end anywhere. It
says when a step leaves the packs that have a stamp alone, what an install still
owes its stamps, and what a removal has begun; the packs then have their files and
their dependencies whenever no run is under way. Without the conditions they need
not: a pack is removed from under another one, and a removal that is refused leaves
a stamp without files.
-/

import PairDriver.CaptionsPacks

namespace PairDriver.CaptionsPacks

open ModuleSync (Text)

section Store

variable (root : Path) (packs : List Pack)

/-! ### Steps that leave the packs alone -/

instance (state : State) (id : Text) : Decidable (state.Installed root packs id) :=
  inferInstanceAs (Decidable (id ∈ packs.map Pack.id ∧ stampPath root id ∈ state.tree.files))

/-- No file of a pack that has a stamp, nor the stamp, is hit; one pack is not looked at. -/
def State.Spares (state : State) (except : Option Text) (hit : Path → Bool) : Prop :=
  ∀ id ∈ packs.map Pack.id, state.Installed root packs id → some id ≠ except →
    ∀ path ∈ stampPath root id :: state.filesOf packs id, hit path = false

instance (state : State) (except : Option Text) (hit : Path → Bool) :
    Decidable (state.Spares root packs except hit) :=
  inferInstanceAs (Decidable (∀ id ∈ packs.map Pack.id, state.Installed root packs id →
    some id ≠ except → ∀ path ∈ stampPath root id :: state.filesOf packs id, hit path = false))

/-- The path is not that of a stamp. -/
def IsNoStamp (path : Path) : Prop :=
  ∀ id ∈ packs.map Pack.id, path ≠ stampPath root id

instance (path : Path) : Decidable (IsNoStamp root packs path) :=
  inferInstanceAs (Decidable (∀ id ∈ packs.map Pack.id, path ≠ stampPath root id))

/-- A file can be put at the path: no directory is there, and it is not that of a stamp. -/
def State.isPlace (state : State) (path : Path) : Bool :=
  path ∉ state.tree.directories ∧ IsNoStamp root packs path

/-- A temporary file is no file of a pack, and of none that is being installed. -/
def State.isTemporary (state : State) (tmp : Path) (rest : List Action) : Bool :=
  state.Spares root packs none (fun path => path = tmp) ∧
    ∀ pack ∈ rest.filterMap Action.stamps, tmp ∉ pack.listed ++ state.fetched pack.id

def State.allowsAction (state : State) (rest : List Action) : Action → Bool
  | .clear tmp => state.isTemporary root packs tmp rest
  | .move tmp destination =>
    state.isTemporary root packs tmp rest && state.isPlace root packs destination
  | .copyEntry (.file _ _) toPath => state.isPlace root packs toPath
  | .copyEntry (.folder _) _ => false
  | _ => true

/-- What a removal hits of what is gone. -/
def Removal.hits (removal : Removal) (gone : Path → Bool) : Path → Bool :=
  match removal.actions with
  | .remove path :: _ => fun file => path <+: file ∧ gone file
  | .prune _ :: _ => fun _ => false
  | [] => fun file => stampPath root removal.id <+: file ∧ gone file

/-- A removal that fails has removed nothing of its pack, or the pack has no stamp. -/
def State.allowsFailedRemoval (state : State) (removal : Removal) (gone : Path → Bool) : Bool :=
  match removal.actions with
  | .remove _ :: _ => state.Spares root packs (some removal.id) (removal.hits root gone) ∧
    (state.Installed root packs removal.id → removal.actions = removalActions packs removal.id ∧
      ∀ file ∈ state.tree.files, removal.hits root gone file = false)
  | _ => state.Installed root packs removal.id → removal.actions = removalActions packs removal.id

def State.allowsFailure (state : State) (gone : Path → Bool) (left : Option Content) : Job → Bool
  | .installing _ (.fetch _ tmp _ :: _) =>
    left = none → gone tmp → state.Spares root packs none fun path => path = tmp
  | .installing _ (.move _ destination :: _) =>
    gone destination → state.Spares root packs none fun path => path = destination
  | .installing _ (.copyEntry (.file _ _) toPath :: _) =>
    left.isSome → state.isPlace root packs toPath
  | .installing _ (.writeStamp pack :: _) =>
    ∀ content ∈ left, content.stampId = some pack.id
  | .removing (some removal) _ => state.allowsFailedRemoval root packs removal gone
  | _ => true

/-- No pack is removed that another one with a stamp depends on, no removal fails between its first
file and its stamp, and no step gets in the way of another pack. -/
def State.allows (state : State) : Event → Bool
  | .install _ _ => true
  | .uninstall id => ∀ other ∈ packs.map Pack.id, state.Installed root packs other →
    id ∉ dependencies packs other
  | .next =>
    match state.job with
    | .installing _ (action :: rest) => state.allowsAction root packs rest action
    | .removing (some removal) _ =>
      state.Spares root packs (some removal.id) (removal.hits root fun _ => true)
    | _ => true
  | .fail gone left => state.allowsFailure root packs gone left state.job

/-! ### What an install owes and a removal has begun -/

/-- The path at which an action leaves a file. -/
def Action.places : Action → List Path
  | .download _ destination _ => [destination]
  | .move _ destination => [destination]
  | .extract _ entry => [entry.toPath]
  | .copyEntry _ toPath => [toPath]
  | _ => []

/-- The pack that has a stamp once an action is done. -/
def Action.promises : Action → List Text
  | .install id => [id]
  | .writeStamp pack => [pack.id]
  | _ => []

/-- An action can be done when these files are there and these packs have stamps: a stamp is
written when the files and the dependencies of its pack are. -/
def Action.Ready (fetched : Text → List Path) (has : Path → Prop) (stamped : Text → Prop) :
    Action → Prop
  | .fetch _ tmp _ => IsNoStamp root packs tmp
  | .writeStamp pack => getPack packs pack.id = some pack ∧
    (∀ path ∈ pack.listed ++ fetched pack.id, has path) ∧ ∀ dep ∈ pack.dependencies, stamped dep
  | _ => True

/-- Each action is ready when those before it are done. -/
def Promised (fetched : Text → List Path) :
    (Path → Prop) → (Text → Prop) → List Action → Prop
  | _, _, [] => True
  | has, stamped, action :: rest => action.Ready root packs fetched has stamped ∧
    Promised fetched (fun path => has path ∨ path ∈ action.places)
      (fun id => stamped id ∨ id ∈ action.promises) rest

/-- The pack of which the run has removed something. -/
def Job.begun : Job → Option Text
  | .removing (some removal) _ =>
    if removal.actions = removalActions packs removal.id then none else some removal.id
  | _ => none

/-- The stamps are those of their packs, their dependencies have stamps, and their files are there
except for one pack. -/
structure State.Kept (state : State) (except : Option Text) : Prop where
  readable : ∀ id, state.Installed root packs id →
    (state.contents (stampPath root id)).stampId = some id
  closed : ∀ id, state.Installed root packs id →
    ∀ dep ∈ dependencies packs id, state.Installed root packs dep
  whole : ∀ id, state.Installed root packs id → some id ≠ except →
    ∀ path ∈ state.filesOf packs id, path ∈ state.tree.files

/-- An install owes nothing it does not do, and a removal is of a pack that no other one needs. -/
def State.OnCourse (state : State) : Job → Prop
  | .idle => True
  | .installing _ actions => Promised root packs state.fetched (fun path => path ∈ state.tree.files)
    (state.Installed root packs) actions
  | .removing current releases =>
    (∀ removal ∈ current, removal.actions <:+ removalActions packs removal.id ∧
      ∀ id, state.Installed root packs id → removal.id ∉ dependencies packs id) ∧
    ∀ release ∈ releases, ¬state.Installed root packs release.1

/-- The invariant of the store. -/
structure State.Sound (state : State) : Prop where
  kept : state.Kept root packs (state.job.begun packs)
  onCourse : state.OnCourse root packs state.job

/-- What a step leaves: all files but those that are lost, no new stamp, and the content of the
stamps. -/
structure State.Frames (state after : State) (lost : Path → Bool) : Prop where
  fetched : after.fetched = state.fetched
  recorded : after.recorded = state.recorded
  stays : ∀ path ∈ state.tree.files, lost path = false → path ∈ after.tree.files
  stamps : ∀ id ∈ packs.map Pack.id,
    stampPath root id ∈ after.tree.files → stampPath root id ∈ state.tree.files
  contents : ∀ id ∈ packs.map Pack.id,
    after.contents (stampPath root id) = state.contents (stampPath root id)

variable {root : Path} {packs : List Pack} {state after : State} {lost : Path → Bool}
  {except begun : Option Text} {fetched later : Text → List Path} {has more : Path → Prop}
  {stamped others : Text → Prop} {actions : List Action} {world : World}

theorem Promised.mono (promised : Promised root packs fetched has stamped actions)
    (files : ∀ pack ∈ actions.filterMap Action.stamps,
      ∀ path ∈ pack.listed ++ fetched pack.id, has path → more path)
    (refetched : ∀ id, ∀ path ∈ later id, path ∈ fetched id ∨ more path)
    (stamps : ∀ id, stamped id → others id) :
    Promised root packs later more others actions := by
  induction actions generalizing has more stamped others with
  | nil => trivial
  | cons action rest inductionHypothesis =>
    obtain ⟨ready, promised⟩ := promised
    refine ⟨?_, inductionHypothesis promised ?_ ?_ ?_⟩
    · cases action with
      | writeStamp pack =>
        refine ⟨ready.1, fun path member => ?_, fun dep member => stamps dep (ready.2.2 dep member)⟩
        have needed := files pack List.mem_cons_self path
        rcases List.mem_append.mp member with listed | fetchedLater
        · have before := List.mem_append_left (fetched pack.id) listed
          exact needed before (ready.2.1 path before)
        · rcases refetched pack.id path fetchedLater with earlier | there
          · have before := List.mem_append_right pack.listed earlier
            exact needed before (ready.2.1 path before)
          · exact there
      | fetch => exact ready
      | _ => trivial
    · intro pack member path needed there
      refine there.imp_left (files pack ?_ path needed)
      rw [List.filterMap_cons]
      split
      · exact member
      · exact List.mem_cons_of_mem _ member
    · exact fun id path member => (refetched id path member).imp_right Or.inl
    · exact fun id => Or.imp_left (stamps id)

/-- Actions that are always ready come before others that need what they leave. -/
theorem Promised.append {first rest : List Action}
    (plain : ∀ action ∈ first, ∀ has stamped, action.Ready root packs fetched has stamped)
    (promised : Promised root packs fetched
      (fun path => has path ∨ path ∈ first.flatMap Action.places)
      (fun id => stamped id ∨ id ∈ first.flatMap Action.promises) rest) :
    Promised root packs fetched has stamped (first ++ rest) := by
  induction first generalizing has stamped with
  | nil =>
    refine promised.mono ?_ (fun _ _ => Or.inl) ?_
    · intro _ _ path _ there
      simpa using there
    · intro id there
      simpa using there
  | cons action first inductionHypothesis =>
    rw [List.forall_mem_cons] at plain
    refine ⟨plain.1 _ _, inductionHypothesis plain.2 (promised.mono ?_ (fun _ _ => Or.inl) ?_)⟩
    · intro _ _ path _ there
      rw [List.flatMap_cons, List.mem_append] at there
      exact or_assoc.mpr there
    · intro id there
      rw [List.flatMap_cons, List.mem_append] at there
      exact or_assoc.mpr there

/-! ### Stamps among the files -/

theorem stampPath_injective {id other : Text} (same : stampPath root id = stampPath root other) :
    id = other := by
  simpa [stampPath] using same

/-- A temporary file ends otherwise than a stamp. -/
theorem isNoStamp_downloadPath (destination : Path) :
    IsNoStamp root packs (downloadPath destination) := by
  intro id _ same
  have ends := congrArg (fun path : Path => (path.getLastD []).getLast?) same
  have download : (ascii ".download").getLast? = some 100 := by decide
  have json : (ascii ".json").getLast? = some 110 := by decide
  simp [downloadPath, stampPath, List.getLast?_append, download, json] at ends

/-- A pack that has a readable stamp is among the ids that the script finds. -/
theorem mem_installedPackIds {id : Text} (installed : state.Installed root packs id)
    (readable : (state.contents (stampPath root id)).stampId = some id) :
    id ∈ state.installedPackIds root := by
  have named : isStampName (ascii "installed-" ++ id ++ ascii ".json") = true := by
    rw [isStampName, Bool.and_eq_true, List.isPrefixOf_iff_prefix, List.isSuffixOf_iff_suffix]
    exact ⟨⟨id ++ ascii ".json", (List.append_assoc _ _ _).symm⟩, List.suffix_append _ _⟩
  refine List.mem_filterMap.mpr ⟨stampPath root id, List.mem_filter.mpr ⟨installed.2, ?_⟩, readable⟩
  rw [decide_eq_true_eq, stampPath, List.dropLast_concat, List.getLastD_concat]
  exact ⟨rfl, named⟩

theorem State.Spares.installed (spares : state.Spares root packs none lost)
    (frames : state.Frames root packs after lost) {id : Text}
    (installed : state.Installed root packs id) : after.Installed root packs id :=
  ⟨installed.1, frames.stays _ installed.2
    (spares id installed.1 installed (by simp) _ List.mem_cons_self)⟩

theorem State.Frames.installed (frames : state.Frames root packs after lost) {id : Text}
    (installed : after.Installed root packs id) : state.Installed root packs id :=
  ⟨installed.1, frames.stamps id installed.1 installed.2⟩

/-- The run, and what it has downloaded, make no difference to what is kept. -/
theorem State.Kept.anyRun {later : Text → List Path} {job : Job}
    (kept : state.Kept root packs begun) :
    State.Kept root packs { state with fetched := later, job := job } begun :=
  ⟨kept.readable, kept.closed, kept.whole⟩

/-- A step that spares all packs but one, which no other needs, keeps them. -/
theorem State.Kept.frames {covered : Option Text} (kept : state.Kept root packs begun)
    (frames : state.Frames root packs after lost) (spares : state.Spares root packs except lost)
    (unneeded : ∀ dep, some dep = except →
      ∀ id, state.Installed root packs id → dep ∉ CaptionsPacks.dependencies packs id)
    (covers : ∀ id, after.Installed root packs id →
      some id = begun ∨ some id = except → some id = covered) :
    after.Kept root packs covered where
  readable id installed := by
    rw [frames.contents id installed.1]
    exact kept.readable id (frames.installed installed)
  closed id installed dep member := by
    have before := frames.installed installed
    have needed := kept.closed id before dep member
    have other : some dep ≠ except := fun same => unneeded dep same id before member
    exact ⟨needed.1, frames.stays _ needed.2
      (spares dep needed.1 needed other _ List.mem_cons_self)⟩
  whole id installed other path member := by
    have before := frames.installed installed
    rw [State.filesOf, frames.recorded] at member
    have notBegun : some id ≠ begun := fun same => other (covers id installed (Or.inl same))
    have notExcept : some id ≠ except := fun same => other (covers id installed (Or.inr same))
    exact frames.stays path (kept.whole id before notBegun path member)
      (spares id before.1 before notExcept path (List.mem_cons_of_mem _ member))

theorem kept_of_spares (kept : state.Kept root packs none)
    (spares : state.Spares root packs none lost) (frames : state.Frames root packs after lost) :
    after.Kept root packs none :=
  kept.frames frames spares (fun _ other => nomatch other) fun _ _ => nofun

/-! ### What the operations leave -/

theorem exists_of_write {path : Path} {content : Content}
    (written : state.write path content = some after) :
    ∃ tree, tree.files = path :: state.tree.files ∧ after = { state with
      tree := tree
      contents := fun other => if other = path then content else state.contents other } := by
  obtain ⟨tree, made, rfl⟩ := Option.map_eq_some_iff.mp written
  exact ⟨tree, files_writeFile made, rfl⟩

/-- Only the run changes, or directories. -/
theorem frames_of_files {tree : FileTree Text} {job : Job}
    (files : tree.files = state.tree.files) :
    state.Frames root packs { state with tree := tree, job := job } lost where
  fetched := rfl
  recorded := rfl
  stays _ member _ := files ▸ member
  stamps _ _ member := files ▸ member
  contents _ _ := rfl

theorem frames_of_write {path : Path} {content : Content} (noStamp : IsNoStamp root packs path)
    (written : state.write path content = some after) :
    state.Frames root packs after fun _ => false := by
  obtain ⟨tree, files, rfl⟩ := exists_of_write written
  refine ⟨rfl, rfl, fun path member _ => ?_, fun id member there => ?_, fun id member => ?_⟩
  · exact files ▸ List.mem_cons_of_mem _ member
  · have there : stampPath root id ∈ tree.files := there
    rw [files] at there
    exact List.mem_of_ne_of_mem (noStamp id member).symm there
  · exact if_neg (noStamp id member).symm

/-- Files are removed, as `lost` says. -/
theorem frames_of_removed {tree : FileTree Text} {job : Job}
    (files : ∀ path, path ∈ tree.files ↔ path ∈ state.tree.files ∧ lost path = false) :
    state.Frames root packs { state with tree := tree, job := job } lost where
  fetched := rfl
  recorded := rfl
  stays path member kept := (files path).mpr ⟨member, kept⟩
  stamps _ _ member := ((files _).mp member).1
  contents _ _ := rfl

theorem State.Frames.trans {last : State} (first : state.Frames root packs after lost)
    (second : after.Frames root packs last fun _ => false) : state.Frames root packs last lost where
  fetched := second.fetched.trans first.fetched
  recorded := second.recorded.trans first.recorded
  stays path member kept := second.stays path (first.stays path member kept) rfl
  stamps id member there := first.stamps id member (second.stamps id member there)
  contents id member := (second.contents id member).trans (first.contents id member)

theorem mem_removeFile_iff {tree : FileTree Text} {tmp path : Path} :
    path ∈ (tree.removeFile tmp).files ↔ path ∈ tree.files ∧ decide (path = tmp) = false := by
  rw [mem_files_removeFile, decide_eq_false_iff_not]

theorem mem_remove_iff {tree : FileTree Text} {path file : Path} {gone : Path → Bool} :
    file ∈ (tree.remove path gone).files ↔
      file ∈ tree.files ∧ decide (path <+: file ∧ gone file = true) = false := by
  rw [mem_files_remove, decide_eq_false_iff_not]

/-! ### Installing -/

/-- A step of an install that spares the packs keeps the invariant when it leaves what the actions
after it need. -/
theorem sound_of_frames (kept : state.Kept root packs none)
    (spares : state.Spares root packs none lost) (frames : state.Frames root packs after lost)
    (installing : after.job = .installing world actions)
    (promised : Promised root packs state.fetched (fun path => path ∈ after.tree.files)
      (state.Installed root packs) actions) : after.Sound root packs where
  kept := by
    rw [installing]
    exact kept_of_spares kept spares frames
  onCourse := by
    rw [installing]
    refine promised.mono (fun _ _ _ _ => id) ?_ fun _ => spares.installed frames
    intro id path member
    exact Or.inl (frames.fetched ▸ member)


theorem spares_nothing : state.Spares root packs except fun _ => false :=
  fun _ _ _ _ _ _ => rfl

/-- The actions that are left are promised when the first has left its file. -/
theorem Promised.tail {action : Action} {rest : List Action}
    (promised : Promised root packs fetched has stamped (action :: rest))
    (promises : action.promises = [])
    (files : ∀ pack ∈ rest.filterMap Action.stamps, ∀ path ∈ pack.listed ++ fetched pack.id,
      has path ∨ path ∈ action.places → more path) :
    Promised root packs fetched more stamped rest := by
  refine promised.2.mono files (fun _ _ => Or.inl) fun id there => there.resolve_right ?_
  rw [promises]
  exact List.not_mem_nil

variable {rest : List Action}

theorem download_sound {url sha256 : Text} {destination : Path}
    (kept : state.Kept root packs none)
    (promised : Promised root packs state.fetched (fun path => path ∈ state.tree.files)
      (state.Installed root packs) (.download url destination sha256 :: rest))
    (performed : state.performAction root packs world rest (.download url destination sha256) =
      some after) : after.Sound root packs := by
  simp only [State.performAction] at performed
  split at performed
  · cases performed
  split at performed
  · rename_i cached
    cases performed
    refine sound_of_frames kept spares_nothing (frames_of_files rfl) rfl ?_
    refine promised.tail rfl fun _ _ path _ there => ?_
    rcases there with there | placed
    · exact there
    · rw [List.mem_singleton.mp placed]
      exact cached.2.1
  · cases performed
    refine sound_of_frames kept spares_nothing (frames_of_files rfl) rfl ?_
    refine Promised.append ?_ (promised.2.mono (fun _ _ _ _ => id) (fun _ _ => Or.inl) fun _ => id)
    intro action member has stamped
    simp only [fetchActions, List.mem_cons, List.not_mem_nil, or_false] at member
    obtain rfl | rfl | rfl := member
    · trivial
    · exact isNoStamp_downloadPath destination
    · trivial

theorem clear_sound {tmp : Path} (kept : state.Kept root packs none)
    (promised : Promised root packs state.fetched (fun path => path ∈ state.tree.files)
      (state.Installed root packs) (.clear tmp :: rest))
    (temporary : state.isTemporary root packs tmp rest = true)
    (performed : state.performAction root packs world rest (.clear tmp) = some after) :
    after.Sound root packs := by
  obtain ⟨spares, unneeded⟩ := of_decide_eq_true temporary
  simp only [State.performAction] at performed
  split at performed
  · split at performed
    · cases performed
      refine sound_of_frames kept spares_nothing (frames_of_files rfl) rfl ?_
      exact promised.tail rfl fun _ _ path _ there => there.resolve_right List.not_mem_nil
    · cases performed
  · cases performed
    refine sound_of_frames kept spares (frames_of_removed fun _ => mem_removeFile_iff) rfl ?_
    refine promised.tail rfl fun pack pending path needed there => ?_
    refine mem_files_removeFile.mpr ⟨there.resolve_right List.not_mem_nil, ?_⟩
    rintro rfl
    exact unneeded pack pending needed

theorem fetch_sound {url sha256 : Text} {tmp : Path} (kept : state.Kept root packs none)
    (promised : Promised root packs state.fetched (fun path => path ∈ state.tree.files)
      (state.Installed root packs) (.fetch url tmp sha256 :: rest))
    (performed : state.performAction root packs world rest (.fetch url tmp sha256) = some after) :
    after.Sound root packs := by
  obtain ⟨content, -, performed⟩ := Option.bind_eq_some_iff.mp performed
  split at performed
  · cases performed
  obtain ⟨written, write, done⟩ := Option.bind_eq_some_iff.mp performed
  cases done
  have frames := frames_of_write promised.1 write
  refine sound_of_frames kept spares_nothing (frames.trans (frames_of_files rfl)) rfl ?_
  refine promised.tail rfl fun _ _ path _ there => ?_
  exact frames.stays path (there.resolve_right List.not_mem_nil) rfl

theorem mem_of_write {path : Path} {content : Content}
    (written : state.write path content = some after) : path ∈ after.tree.files := by
  obtain ⟨tree, files, rfl⟩ := exists_of_write written
  exact files ▸ List.mem_cons_self

/-- A file goes to the path itself where it can be put. -/
theorem target_of_isPlace {path : Path} (place : state.isPlace root packs path = true)
    (name : Text) : state.target path name = path ∧ IsNoStamp root packs path := by
  obtain ⟨free, noStamp⟩ := of_decide_eq_true place
  exact ⟨if_neg free, noStamp⟩


theorem move_sound {tmp destination : Path} (kept : state.Kept root packs none)
    (promised : Promised root packs state.fetched (fun path => path ∈ state.tree.files)
      (state.Installed root packs) (.move tmp destination :: rest))
    (temporary : state.isTemporary root packs tmp rest = true)
    (place : state.isPlace root packs destination = true)
    (performed : state.performAction root packs world rest (.move tmp destination) = some after) :
    after.Sound root packs := by
  obtain ⟨spares, unneeded⟩ := of_decide_eq_true temporary
  simp only [State.performAction] at performed
  split at performed
  · obtain ⟨written, write, done⟩ := Option.bind_eq_some_iff.mp performed
    cases done
    obtain ⟨target, noStamp⟩ := target_of_isPlace place (tmp.getLastD [])
    rw [target] at write
    have removed : state.Frames root packs { state with tree := state.tree.removeFile tmp }
        fun path => path = tmp := frames_of_removed fun _ => mem_removeFile_iff
    have placed := frames_of_write noStamp write
    refine sound_of_frames kept spares
      ((removed.trans placed).trans (frames_of_files rfl)) rfl ?_
    refine promised.tail rfl fun pack pending path needed there => ?_
    rcases there with there | here
    · refine placed.stays path (mem_files_removeFile.mpr ⟨there, ?_⟩) rfl
      rintro rfl
      exact unneeded pack pending needed
    · have arrived := mem_of_write write
      rwa [← List.mem_singleton.mp here] at arrived
  · cases performed

theorem extract_sound {zipPath : Path} {entry : ZipEntry} (kept : state.Kept root packs none)
    (promised : Promised root packs state.fetched (fun path => path ∈ state.tree.files)
      (state.Installed root packs) (.extract zipPath entry :: rest))
    (performed : state.performAction root packs world rest (.extract zipPath entry) = some after) :
    after.Sound root packs := by
  obtain ⟨item, -, rfl⟩ := Option.map_eq_some_iff.mp performed
  refine sound_of_frames kept spares_nothing (frames_of_files rfl) rfl ?_
  refine ⟨trivial, ?_, promised.2.mono ?_ (fun _ _ => Or.inl) fun _ => Or.inl⟩
  · cases item <;> trivial
  · exact fun _ _ _ _ there => there.imp_left Or.inl

theorem copyEntry_sound {name : Text} {content : Content} {toPath : Path}
    (kept : state.Kept root packs none)
    (promised : Promised root packs state.fetched (fun path => path ∈ state.tree.files)
      (state.Installed root packs) (.copyEntry (.file name content) toPath :: rest))
    (place : state.isPlace root packs toPath = true)
    (performed : state.performAction root packs world rest
      (.copyEntry (.file name content) toPath) = some after) : after.Sound root packs := by
  obtain ⟨written, write, done⟩ := Option.bind_eq_some_iff.mp performed
  cases done
  obtain ⟨target, noStamp⟩ := target_of_isPlace place name
  rw [target] at write
  have placed := frames_of_write noStamp write
  refine sound_of_frames kept spares_nothing (placed.trans (frames_of_files rfl)) rfl ?_
  refine promised.tail rfl fun _ _ path _ there => ?_
  rcases there with there | here
  · exact placed.stays path there rfl
  · have arrived := mem_of_write write
    rwa [← List.mem_singleton.mp here] at arrived

/-- The files and dependencies of a pack are what the actions before its stamp leave. -/
theorem mem_places_of_listed {pack : Pack} {path : Path} (listed : path ∈ pack.listed) :
    path ∈ (pack.files.flatMap PackFile.actions).flatMap Action.places := by
  obtain ⟨file, ofPack, member⟩ := List.mem_flatMap.mp listed
  have fromFile : ∀ action ∈ file.actions, path ∈ action.places →
      path ∈ (pack.files.flatMap PackFile.actions).flatMap Action.places :=
    fun action ofFile here =>
      List.mem_flatMap.mpr ⟨action, List.mem_flatMap.mpr ⟨file, ofPack, ofFile⟩, here⟩
  rcases List.mem_cons.mp member with rfl | member
  · exact fromFile (.download file.url file.destination file.sha256)
      (List.mem_cons_of_mem _ List.mem_cons_self) List.mem_cons_self
  · obtain ⟨entry, ofZip, rfl⟩ := List.mem_map.mp member
    exact fromFile (.extract file.destination entry)
      (List.mem_cons_of_mem _ (List.mem_cons_of_mem _ (List.mem_map_of_mem ofZip)))
      List.mem_cons_self

theorem ready_of_mem_actions {file : PackFile} {action : Action} (member : action ∈ file.actions) :
    action.Ready root packs fetched has stamped := by
  rcases List.mem_cons.mp member with rfl | member
  · trivial
  rcases List.mem_cons.mp member with rfl | member
  · trivial
  obtain ⟨entry, -, rfl⟩ := List.mem_map.mp member
  trivial

theorem install_sound {id : Text} (kept : state.Kept root packs none)
    (promised : Promised root packs state.fetched (fun path => path ∈ state.tree.files)
      (state.Installed root packs) (.install id :: rest))
    (performed : state.performAction root packs world rest (.install id) = some after) :
    after.Sound root packs := by
  simp only [State.performAction] at performed
  split at performed
  · cases performed
  obtain ⟨pack, found, rfl⟩ := Option.map_eq_some_iff.mp performed
  obtain rfl : pack.id = id := by simpa using List.find?_some found
  refine ⟨kept.anyRun, ?_⟩
  have emptied : ∀ other, ∀ path ∈ (if other = pack.id then [] else state.fetched other),
      path ∈ state.fetched other := by
    intro other path member
    split at member
    · cases member
    · exact member
  show Promised root packs _ _ _ (pack.installActions ++ rest)
  rw [Pack.installActions, List.append_assoc, List.singleton_append]
  refine Promised.append ?_ ⟨⟨found, ?_, ?_⟩, promised.2.mono ?_ ?_ ?_⟩
  · intro action member has stamped
    rcases List.mem_append.mp member with member | member
    · rcases List.mem_append.mp member with member | member
      · obtain ⟨dep, -, rfl⟩ := List.mem_map.mp member
        trivial
      · obtain ⟨file, -, member⟩ := List.mem_flatMap.mp member
        exact ready_of_mem_actions member
    · obtain ⟨snapshot, -, rfl⟩ := Option.map_eq_some_iff.mp (Option.mem_toList.mp member)
      trivial
  · intro path member
    have listed : path ∈ pack.listed := by simpa using member
    rw [List.flatMap_append, List.flatMap_append]
    exact Or.inr (List.mem_append_left _ (List.mem_append_right _ (mem_places_of_listed listed)))
  · intro dep member
    refine Or.inr (List.mem_flatMap.mpr ⟨.install dep, ?_, List.mem_cons_self⟩)
    exact List.mem_append_left _ (List.mem_append_left _ (List.mem_map_of_mem member))
  · exact fun _ _ path _ there => Or.inl (Or.inl (there.resolve_right List.not_mem_nil))
  · exact fun other path member => Or.inl (emptied other path member)
  · exact fun other there => there.imp_left Or.inl


theorem readSnapshot_sound {id : Text} {snapshot : Snapshot} (kept : state.Kept root packs none)
    (promised : Promised root packs state.fetched (fun path => path ∈ state.tree.files)
      (state.Installed root packs) (.readSnapshot id snapshot :: rest))
    (performed : state.performAction root packs world rest (.readSnapshot id snapshot) =
      some after) : after.Sound root packs := by
  simp only [State.performAction, Option.bind_eq_bind] at performed
  split at performed
  · cases performed
  obtain ⟨destRoot, -, performed⟩ := Option.bind_eq_some_iff.mp performed
  obtain ⟨siblings, -, performed⟩ := Option.bind_eq_some_iff.mp performed
  split at performed
  · cases performed
  obtain ⟨tree, made, done⟩ := Option.bind_eq_some_iff.mp performed
  cases done
  have files := files_makeDirectory made
  have frames : state.Frames root packs { state with tree := tree } fun _ => false :=
    frames_of_files files
  have spares : state.Spares root packs none fun _ => false := spares_nothing
  have directory := kept_of_spares kept spares frames
  refine ⟨directory.anyRun, ?_⟩
  have before : Promised root packs
      (fun other => if other = id then (siblings.filter Sibling.isKept).map
        fun sibling => destRoot ++ sibling.relative else state.fetched other)
      (fun path => path ∈ state.tree.files) (state.Installed root packs)
      (snapshot.actions (if snapshot.revision = [] then ascii "main" else snapshot.revision)
        destRoot (siblings.filter Sibling.isKept) ++ rest) := by
    refine Promised.append ?_ (promised.2.mono ?_ ?_ ?_)
    · intro action member has stamped
      obtain ⟨sibling, -, member⟩ := List.mem_flatMap.mp member
      simp only [List.mem_cons, List.not_mem_nil, or_false] at member
      obtain rfl | rfl := member <;> trivial
    · exact fun _ _ _ _ there => Or.inl (there.resolve_right List.not_mem_nil)
    · intro other path member
      split at member
      · obtain ⟨sibling, ofRepo, rfl⟩ := List.mem_map.mp member
        refine Or.inr (Or.inr (List.mem_flatMap.mpr ⟨_, List.mem_flatMap.mpr
          ⟨sibling, ofRepo, List.mem_cons_of_mem _ List.mem_cons_self⟩, List.mem_cons_self⟩))
      · exact Or.inl member
    · exact fun _ there => Or.inl (there.resolve_right List.not_mem_nil)
  exact before.mono (fun _ _ path _ there => files ▸ there) (fun _ _ => Or.inl)
    fun _ => spares.installed frames

theorem exists_of_stamp {id : Text} {content : Content}
    (stamped : state.stamp root id content = some after) :
    ∃ tree, tree.files = stampPath root id :: state.tree.files ∧ after = { state with
      tree := tree
      contents := fun other => if other = stampPath root id then content else state.contents other
      recorded := fun other => if other = id then state.fetched id else state.recorded other } := by
  obtain ⟨written, write, rfl⟩ := Option.map_eq_some_iff.mp stamped
  obtain ⟨tree, files, rfl⟩ := exists_of_write write
  exact ⟨tree, files, rfl⟩

theorem mem_ids_of_getPack {pack : Pack} (found : getPack packs pack.id = some pack) :
    pack.id ∈ packs.map Pack.id :=
  List.mem_map_of_mem (List.mem_of_find?_eq_some found)

/-- A stamp adds its pack to those that have one. -/
theorem installed_stamp_iff {pack : Pack} {content : Content}
    (found : getPack packs pack.id = some pack)
    (stamped : state.stamp root pack.id content = some after) (id : Text) :
    after.Installed root packs id ↔ id = pack.id ∨ state.Installed root packs id := by
  obtain ⟨tree, files, rfl⟩ := exists_of_stamp stamped
  unfold State.Installed
  rw [files, List.mem_cons]
  constructor
  · rintro ⟨member, same | there⟩
    · exact Or.inl (stampPath_injective same)
    · exact Or.inr ⟨member, there⟩
  · rintro (rfl | ⟨member, there⟩)
    · exact ⟨mem_ids_of_getPack found, Or.inl rfl⟩
    · exact ⟨member, Or.inr there⟩

/-- A stamp that is written when its pack is ready keeps the packs. -/
theorem State.Kept.stamp {pack : Pack} {content : Content} (kept : state.Kept root packs none)
    (ready : (Action.writeStamp pack).Ready root packs state.fetched
      (fun path => path ∈ state.tree.files) (state.Installed root packs))
    (readable : content.stampId = some pack.id)
    (stamped : state.stamp root pack.id content = some after) : after.Kept root packs none := by
  obtain ⟨found, files, dependencies⟩ := ready
  have installed := installed_stamp_iff found stamped
  have ofPack : CaptionsPacks.dependencies packs pack.id = pack.dependencies := by
    rw [CaptionsPacks.dependencies, found, Option.elim_some]
  have listed : (getPack packs pack.id).elim [] Pack.listed = pack.listed := by
    rw [found, Option.elim_some]
  obtain ⟨tree, there, rfl⟩ := exists_of_stamp stamped
  refine ⟨fun id has => ?_, fun id has dep member => ?_, fun id has _ path member => ?_⟩
  · show (if _ then _ else _ : Content).stampId = _
    split
    · rename_i same
      rw [readable, stampPath_injective same]
    · rename_i other
      refine kept.readable id (((installed id).mp has).resolve_left ?_)
      exact fun same => other (congrArg (stampPath root) same)
  · refine (installed dep).mpr (Or.inr ?_)
    rcases (installed id).mp has with rfl | before
    · exact dependencies dep (ofPack ▸ member)
    · exact kept.closed id before dep member
  · have stays : ∀ path ∈ state.tree.files, path ∈ tree.files :=
      fun _ member => there ▸ List.mem_cons_of_mem _ member
    refine stays path ?_
    by_cases same : id = pack.id
    · rw [State.filesOf, same, listed] at member
      exact files path (by simpa using member)
    · have before := ((installed id).mp has).resolve_left same
      refine kept.whole id before nofun path ?_
      simpa [State.filesOf, same] using member

theorem writeStamp_sound {pack : Pack} (kept : state.Kept root packs none)
    (promised : Promised root packs state.fetched (fun path => path ∈ state.tree.files)
      (state.Installed root packs) (.writeStamp pack :: rest))
    (performed : state.performAction root packs world rest (.writeStamp pack) = some after) :
    after.Sound root packs := by
  obtain ⟨stamped, stamp, done⟩ := Option.bind_eq_some_iff.mp performed
  cases done
  have installed := installed_stamp_iff promised.1.1 stamp
  have keeps := kept.stamp promised.1 rfl stamp
  refine ⟨keeps.anyRun, ?_⟩
  obtain ⟨tree, files, rfl⟩ := exists_of_stamp stamp
  refine promised.2.mono ?_ (fun _ _ => Or.inl) ?_
  · exact fun _ _ path _ there =>
      files ▸ List.mem_cons_of_mem _ (there.resolve_right List.not_mem_nil)
  · exact fun id there => (installed id).mpr (there.symm.imp_left List.mem_singleton.mp)

/-- Each action of an install keeps the invariant. -/
theorem performAction_sound {action : Action} (kept : state.Kept root packs none)
    (promised : Promised root packs state.fetched (fun path => path ∈ state.tree.files)
      (state.Installed root packs) (action :: rest))
    (allowed : state.allowsAction root packs rest action = true)
    (performed : state.performAction root packs world rest action = some after) :
    after.Sound root packs := by
  cases action with
  | install id => exact install_sound kept promised performed
  | ensureParent path =>
    obtain ⟨tree, made, rfl⟩ := Option.map_eq_some_iff.mp performed
    have files := files_ensureParent made
    refine sound_of_frames kept spares_nothing (frames_of_files files) rfl ?_
    exact promised.tail rfl fun _ _ _ _ there => files ▸ there.resolve_right List.not_mem_nil
  | download url destination sha256 => exact download_sound kept promised performed
  | clear tmp => exact clear_sound kept promised allowed performed
  | fetch url tmp sha256 => exact fetch_sound kept promised performed
  | move tmp destination =>
    obtain ⟨temporary, place⟩ := Bool.and_eq_true_iff.mp allowed
    exact move_sound kept promised temporary place performed
  | extract zipPath entry => exact extract_sound kept promised performed
  | copyEntry item toPath =>
    cases item with
    | file name content => exact copyEntry_sound kept promised allowed performed
    | folder name => cases allowed
  | readSnapshot id snapshot => exact readSnapshot_sound kept promised performed
  | writeStamp pack => exact writeStamp_sound kept promised performed


/-! ### Removing -/

section Removing

variable {removal : Removal} {releases : List (Text × Text)} {current : Option Removal}

/-- A removal that has done something has begun. -/
theorem begun_tail {action : RemovalAction} {id : Text} {rest : List RemovalAction}
    (part : action :: rest <:+ removalActions packs id) :
    (Job.removing (some ⟨id, rest⟩) releases).begun packs = some id := by
  refine if_neg fun same => ?_
  have shorter := part.length_le
  rw [← same, List.length_cons] at shorter
  exact Nat.not_succ_le_self _ shorter

theorem eq_of_begun {id : Text}
    (same : some id = (Job.removing (some removal) releases).begun packs) : id = removal.id := by
  simp only [Job.begun] at same
  split at same
  · cases same
  · exact Option.some.inj same

/-- The removal has gone on by one action, which spares the other packs. -/
theorem removed_sound {action : RemovalAction} {rest : List RemovalAction} {id : Text}
    (kept : state.Kept root packs
      ((Job.removing (some ⟨id, action :: rest⟩) releases).begun packs))
    (onCourse : state.OnCourse root packs (.removing (some ⟨id, action :: rest⟩) releases))
    (spares : state.Spares root packs (some id) lost)
    (frames : state.Frames root packs after lost)
    (removing : after.job = .removing (some ⟨id, rest⟩) releases) : after.Sound root packs := by
  obtain ⟨here, released⟩ := onCourse
  obtain ⟨part, unneeded⟩ := here _ rfl
  refine ⟨?_, ?_⟩
  · rw [removing, begun_tail part]
    refine kept.frames frames spares ?_ ?_
    · rintro dep same
      cases same
      exact unneeded
    · rintro other - (same | same)
      · rw [eq_of_begun same]
      · exact same
  · rw [removing]
    refine ⟨?_, fun release member installed =>
      released release member (frames.installed installed)⟩
    rintro current same
    cases same
    exact ⟨(List.suffix_cons _ _).trans part,
      fun other installed => unneeded other (frames.installed installed)⟩

theorem removeStamp_sound {id : Text}
    (kept : state.Kept root packs ((Job.removing (some ⟨id, []⟩) releases).begun packs))
    (onCourse : state.OnCourse root packs (.removing (some ⟨id, []⟩) releases))
    (spares : state.Spares root packs (some id) ((⟨id, []⟩ : Removal).hits root fun _ => true))
    (performed : state.performRemoval root packs (some ⟨id, []⟩) releases = some after) :
    after.Sound root packs := by
  cases performed
  obtain ⟨here, released⟩ := onCourse
  have frames : state.Frames root packs
      { state with tree := state.tree.remove (stampPath root id) fun _ => true }
      fun file => stampPath root id <+: file ∧ true = true :=
    frames_of_removed fun _ => mem_remove_iff
  have gone : stampPath root id ∉ (state.tree.remove (stampPath root id) fun _ => true).files :=
    fun there => (mem_files_remove.mp there).2 ⟨List.prefix_rfl, rfl⟩
  have keeps : State.Kept root packs
      { state with tree := state.tree.remove (stampPath root id) fun _ => true } none :=
    kept.frames frames spares ?_ ?_
  · refine ⟨keeps.anyRun, fun _ => nofun, ?_⟩
    intro release member installed
    rcases List.mem_append.mp member with member | member
    · obtain ⟨dep, -, rfl⟩ := List.mem_map.mp member
      exact gone installed.2
    · exact released release member (frames.installed installed)
  · rintro dep same
    cases same
    exact (here _ rfl).2
  · rintro other installed (same | same)
    · rw [eq_of_begun same] at installed
      exact absurd installed.2 gone
    · cases same
      exact absurd installed.2 gone

/-- The script finds the packs that need a dependency, except for one. -/
theorem isDependedOn_of_installed {id other dep : Text} (kept : state.Kept root packs begun)
    (installed : state.Installed root packs other) (needs : dep ∈ dependencies packs other)
    (differs : other ≠ id) : state.isDependedOn root packs dep id = true :=
  List.any_eq_true.mpr ⟨other, mem_installedPackIds installed (kept.readable other installed),
    decide_eq_true ⟨differs, needs⟩⟩

theorem release_sound {id dep : Text}
    (kept : state.Kept root packs none)
    (onCourse : state.OnCourse root packs (.removing none ((id, dep) :: releases)))
    (performed : state.performRemoval root packs none ((id, dep) :: releases) = some after) :
    after.Sound root packs := by
  obtain ⟨-, released⟩ := onCourse
  rw [List.forall_mem_cons] at released
  simp only [State.performRemoval] at performed
  split at performed
  · cases performed
    exact ⟨kept.anyRun, fun _ => nofun, released.2⟩
  · rename_i unneeded
    obtain ⟨pack, -, rfl⟩ := Option.map_eq_some_iff.mp performed
    refine ⟨?_, ?_, released.2⟩
    · rw [Job.begun, if_pos rfl]
      exact kept.anyRun
    · rintro current same
      cases same
      refine ⟨List.suffix_rfl, fun other installed needs => unneeded ?_⟩
      refine isDependedOn_of_installed kept installed needs ?_
      rintro rfl
      exact released.1 installed

/-- Each step of an uninstall keeps the invariant. -/
theorem performRemoval_sound
    (kept : state.Kept root packs ((Job.removing current releases).begun packs))
    (onCourse : state.OnCourse root packs (.removing current releases))
    (allowed : ∀ removal ∈ current,
      state.Spares root packs (some removal.id) (removal.hits root fun _ => true))
    (performed : state.performRemoval root packs current releases = some after) :
    after.Sound root packs := by
  match current, releases with
  | some ⟨id, .remove path :: rest⟩, releases =>
    cases performed
    exact removed_sound kept onCourse (allowed _ rfl)
      (frames_of_removed fun _ => mem_remove_iff) rfl
  | some ⟨id, .prune path :: rest⟩, releases =>
    simp only [State.performRemoval] at performed
    split at performed
    · cases performed
      exact removed_sound kept onCourse (allowed _ rfl)
        (frames_of_files (files_pruneParents _ _)) rfl
    · cases performed
  | some ⟨id, []⟩, releases => exact removeStamp_sound kept onCourse (allowed _ rfl) performed
  | none, (id, dep) :: releases => exact release_sound kept onCourse performed
  | none, [] =>
    cases performed
    exact ⟨kept.anyRun, trivial⟩

end Removing


/-! ### Failing -/

/-- A run ends with the packs kept. -/
theorem sound_of_idle (kept : state.Kept root packs none) (idle : state.job = .idle) :
    state.Sound root packs := by
  refine ⟨?_, ?_⟩ <;> rw [idle]
  · exact kept
  · trivial

/-- A file that is left at a place where no stamp is. -/
theorem kept_of_left {path : Path} {content : Content} (kept : state.Kept root packs none)
    (noStamp : IsNoStamp root packs path) :
    ((state.write path content).getD state).Kept root packs none := by
  cases written : state.write path content with
  | none => exact kept
  | some after => exact kept_of_spares kept spares_nothing (frames_of_write noStamp written)

theorem kept_of_removeFile {path : Path} (kept : state.Kept root packs none)
    (spares : state.Spares root packs none fun file => file = path) :
    State.Kept root packs { state with tree := state.tree.removeFile path } none :=
  kept_of_spares kept spares (frames_of_removed fun _ => mem_removeFile_iff)

/-- An action of an install that fails leaves the packs. -/
theorem brokenAction_kept {action : Action} {gone : Path → Bool} {left : Option Content}
    (kept : state.Kept root packs none)
    (ready : action.Ready root packs state.fetched (fun path => path ∈ state.tree.files)
      (state.Installed root packs))
    (allowed : state.allowsFailure root packs gone left
      (.installing world (action :: rest)) = true) :
    (state.broken root gone left (.installing world (action :: rest))).Kept root packs none := by
  cases action with
  | fetch url tmp sha256 =>
    cases left with
    | some content => exact kept_of_left kept ready
    | none =>
      simp only [State.broken]
      split
      · rename_i lost
        exact kept_of_removeFile kept (of_decide_eq_true allowed rfl lost)
      · exact kept
  | move tmp destination =>
    simp only [State.broken]
    split
    · rename_i lost
      exact kept_of_removeFile kept (of_decide_eq_true allowed lost)
    · exact kept
  | copyEntry item toPath =>
    cases item with
    | folder name => exact kept
    | file name content =>
      cases left with
      | none => exact kept
      | some content =>
        obtain ⟨target, noStamp⟩ := target_of_isPlace (of_decide_eq_true allowed rfl) name
        show ((state.write (state.target toPath name) content).getD state).Kept root packs none
        rw [target]
        exact kept_of_left kept noStamp
  | writeStamp pack =>
    cases left with
    | none => exact kept
    | some content =>
      show ((state.stamp root pack.id content).getD state).Kept root packs none
      cases stamped : state.stamp root pack.id content with
      | none => exact kept
      | some after => exact kept.stamp ready (of_decide_eq_true allowed content rfl) stamped
  | _ => exact kept

/-- A removal that fails leaves the packs when it has removed nothing of its pack, or that has no
stamp. -/
theorem brokenRemoval_kept {removal : Removal} {releases : List (Text × Text)}
    {gone : Path → Bool} {left : Option Content}
    (kept : state.Kept root packs ((Job.removing (some removal) releases).begun packs))
    (onCourse : state.OnCourse root packs (.removing (some removal) releases))
    (allowed : state.allowsFailedRemoval root packs removal gone = true) :
    (state.broken root gone left (.removing (some removal) releases)).Kept root packs none := by
  obtain ⟨id, actions⟩ := removal
  have unneeded := (onCourse.1 _ rfl).2
  have complete (nothing : state.Installed root packs id → actions = removalActions packs id) :
      state.Kept root packs none := by
    refine ⟨kept.readable, kept.closed, fun other installed _ => kept.whole other installed ?_⟩
    intro same
    obtain rfl : other = id := eq_of_begun same
    rw [Job.begun, if_pos (nothing installed)] at same
    cases same
  match actions with
  | .remove path :: rest =>
    obtain ⟨spares, untouched⟩ := of_decide_eq_true allowed
    by_cases installed : state.Installed root packs id
    · have remains (file : Path) :
          file ∈ (state.tree.remove path gone).files ↔ file ∈ state.tree.files ∧ false = false := by
        rw [mem_remove_iff]
        exact and_congr_right fun member =>
          iff_of_true ((untouched installed).2 file member) rfl
      exact kept_of_spares (complete fun installed => (untouched installed).1) spares_nothing
        (frames_of_removed remains)
    · have frames : state.Frames root packs { state with tree := state.tree.remove path gone }
          fun file => path <+: file ∧ gone file = true := frames_of_removed fun _ => mem_remove_iff
      refine kept.frames frames spares ?_ ?_
      · rintro dep same
        cases same
        exact unneeded
      · rintro other there same
        have before := frames.installed there
        rcases same with same | same
        · rw [eq_of_begun same] at before
          exact absurd before installed
        · cases same
          exact absurd before installed
  | .prune path :: rest => exact complete (of_decide_eq_true allowed)
  | [] => exact complete (of_decide_eq_true allowed)


/-! ### Runs -/

theorem begin_sound {id : Text} {job : Job} (sound : state.Sound root packs)
    (none : job.begun packs = none)
    (onCourse : ∀ tree : FileTree Text, tree.files = state.tree.files →
      State.OnCourse root packs { state with tree := tree, job := job } job)
    (begins : state.begin root packs id job = some after) : after.Sound root packs := by
  unfold State.begin at begins
  split at begins
  · rename_i idle
    obtain ⟨tree, made, rfl⟩ := Option.map_eq_some_iff.mp begins
    have files := files_makeDirectory made
    have kept := sound.kept
    rw [idle] at kept
    have remains : State.Kept root packs { state with tree := tree, job := job } .none :=
      kept_of_spares kept spares_nothing (frames_of_files files)
    split
    · refine ⟨?_, onCourse tree files⟩
      rw [none]
      exact remains
    · exact ⟨remains.anyRun, trivial⟩
  · cases begins

theorem next_sound (sound : state.Sound root packs)
    (allowed : state.allows root packs .next = true)
    (stepped : step root packs state .next = some after) : after.Sound root packs := by
  obtain ⟨kept, onCourse⟩ := sound
  simp only [step] at stepped
  simp only [State.allows] at allowed
  split at stepped
  · cases stepped
  · rename_i job
    cases stepped
    rw [job] at kept
    exact ⟨kept.anyRun, trivial⟩
  · rename_i world action rest job
    rw [job] at kept onCourse allowed
    exact performAction_sound kept onCourse allowed stepped
  · rename_i current releases job
    rw [job] at kept onCourse allowed
    refine performRemoval_sound kept onCourse ?_ stepped
    rintro removal same
    cases same
    exact of_decide_eq_true allowed

/-- A failure leaves the packs. -/
theorem broken_kept {gone : Path → Bool} {left : Option Content} (sound : state.Sound root packs)
    (allowed : state.allowsFailure root packs gone left state.job = true) :
    (state.broken root gone left state.job).Kept root packs none := by
  obtain ⟨kept, onCourse⟩ := sound
  cases job : state.job with
  | idle =>
    rw [job] at kept
    exact kept
  | installing world actions =>
    rw [job] at kept onCourse allowed
    cases actions with
    | nil => exact kept
    | cons action rest => exact brokenAction_kept kept onCourse.1 allowed
  | removing current releases =>
    rw [job] at kept onCourse allowed
    cases current with
    | none => exact kept
    | some removal => exact brokenRemoval_kept kept onCourse allowed

/-- One event keeps the invariant when it leaves the other packs alone. -/
theorem step_sound {event : Event} (sound : state.Sound root packs)
    (allowed : state.allows root packs event = true)
    (stepped : step root packs state event = some after) : after.Sound root packs := by
  cases event with
  | install world id =>
    have begins : state.begin root packs id (.installing world [.install id]) = some after :=
      stepped
    refine begin_sound sound rfl ?_ begins
    exact fun _ _ => ⟨trivial, trivial⟩
  | uninstall id =>
    have unneeded := of_decide_eq_true allowed
    have begins : state.begin root packs id
        (.removing (some ⟨id, removalActions packs id⟩) []) = some after := stepped
    refine begin_sound sound ?_ ?_ begins
    · exact if_pos rfl
    · refine fun tree files => ⟨?_, fun _ member => absurd member List.not_mem_nil⟩
      rintro removal same
      cases same
      exact ⟨List.suffix_rfl, fun other installed =>
        unneeded other installed.1 ⟨installed.1, files ▸ installed.2⟩⟩
  | next => exact next_sound sound allowed stepped
  | fail gone left =>
    have kept := broken_kept sound allowed
    simp only [step] at stepped
    split at stepped
    · cases stepped
    · cases stepped
      exact sound_of_idle kept.anyRun rfl

/-- With every stamp kept, the packs have what the invariant says. -/
theorem consistent_of_kept (kept : state.Kept root packs none) : state.Consistent root packs where
  files id installed := kept.whole id installed nofun
  dependencies := kept.closed
  shared id installed dep member :=
    kept.whole dep (kept.closed id installed dep member) nofun

/-- An install directory before the first run. -/
def fresh : State where
  tree := {}

theorem fresh_sound : fresh.Sound root packs := by
  have bare (id : Text) : ¬fresh.Installed root packs id := fun installed => nomatch installed.2
  exact ⟨⟨fun id installed => absurd installed (bare id), fun id installed =>
    absurd installed (bare id), fun id installed => absurd installed (bare id)⟩, trivial⟩

/-- Whatever is installed and removed, and wherever the runs end: when no run is under way, every
pack that has a stamp has its files, its dependencies have stamps, and they have kept theirs. This
is so as long as no pack is removed that another one needs, no removal fails between its first file
and its stamp, and no step gets in the way of another pack. -/
theorem packs_stay_consistent (root : Path) (manifest : Manifest) (state : State)
    (reached : Reaches (step root manifest.packs)
      (fun state event => state.allows root manifest.packs event = true) fresh state)
    (idle : state.job = .idle) : state.Consistent root manifest.packs := by
  have sound : state.Sound root manifest.packs :=
    reached.invariant fresh_sound fun _ _ _ sound allowed stepped =>
      step_sound sound allowed stepped
  have kept := sound.kept
  rw [idle] at kept
  exact consistent_of_kept kept


/-! ### A small manifest -/

/-- A manifest in which every dependency has a smaller rank is acyclic. -/
theorem acyclic_of_rank (rank : Text → Nat)
    (falls : ∀ pack ∈ packs, ∀ dep ∈ pack.dependencies, rank dep < rank pack.id) (id : Text) :
    ¬Relation.TransGen (fun id dep => dep ∈ dependencies packs id) id id := by
  have step (id dep : Text) (member : dep ∈ dependencies packs id) : rank dep < rank id := by
    unfold dependencies at member
    cases found : getPack packs id with
    | none =>
      rw [found] at member
      cases member
    | some pack =>
      rw [found] at member
      have same : pack.id = id := by simpa using List.find?_some found
      exact same ▸ falls pack (List.mem_of_find?_eq_some found) dep member
  have descends (first last : Text)
      (path : Relation.TransGen (fun id dep => dep ∈ dependencies packs id) first last) :
      rank last < rank first := by
    induction path with
    | single member => exact step _ _ member
    | tail _ member inductionHypothesis => exact (step _ _ member).trans inductionHypothesis
  exact fun path => Nat.lt_irrefl _ (descends id id path)

def smallRoot : Path :=
  [ascii "captions"]

/-- A runtime, and a translation that needs it and has a model. -/
def smallManifest : Manifest where
  packs := [{
    id := ascii "translation-runtime-cpu"
    files := [{
      url := ascii "ctranslate2.whl"
      destination := smallRoot ++ [ascii "cache", ascii "ctranslate2.whl"]
      sha256 := ascii "d0f734dc"
      extract := [⟨ascii "ctranslate2.dll", smallRoot ++ [ascii "ctranslate2.dll"]⟩] }] }, {
    id := ascii "translation-en-de"
    dependencies := [ascii "translation-runtime-cpu"]
    hfSnapshot := some {
      repo := ascii "opus-mt-en-de"
      destination := some (smallRoot ++ [ascii "models"]) } }]
  acyclic := acyclic_of_rank (fun id => if id = ascii "translation-en-de" then 1 else 0) (by decide)

/-- Every download succeeds. -/
def smallWorld : World where
  served _ := some ⟨ascii "d0f734dc", none⟩
  siblings _ _ := some [⟨ascii "model.bin", ascii "model.bin", [ascii "model.bin"], []⟩]
  extracted _ name := some (.file name ⟨[], none⟩)
  stampSha256 _ := []

instance (job : Job) : Decidable (job = .idle) :=
  match job with
  | .idle => isTrue rfl
  | .installing _ _ => isFalse nofun
  | .removing _ _ => isFalse nofun

/-- The translation is installed with its runtime. -/
def smallInstall : List Event :=
  .install smallWorld (ascii "translation-en-de") :: List.replicate 19 .next

/-- A first download fails and its file is removed, then all is installed. -/
theorem small_packs_stay_consistent : ∃ state : State,
    Reaches (step smallRoot smallManifest.packs)
      (fun state event => state.allows smallRoot smallManifest.packs event = true) fresh state ∧
    (state.job = .idle ∧
      state.Installed smallRoot smallManifest.packs (ascii "translation-en-de")) ∧
    state.Consistent smallRoot smallManifest.packs := by
  obtain ⟨state, reached, idle, installed⟩ : ∃ state : State,
      Reaches (step smallRoot smallManifest.packs)
        (fun state event => state.allows smallRoot smallManifest.packs event = true) fresh state ∧
      state.job = .idle ∧
      state.Installed smallRoot smallManifest.packs (ascii "translation-en-de") :=
    reaches_evaluates (.install smallWorld (ascii "translation-en-de") ::
      List.replicate 5 .next ++ [.fail (fun _ => true) none] ++ smallInstall) (by decide +kernel)
  exact ⟨state, reached, ⟨idle, installed⟩, packs_stay_consistent _ _ state reached idle⟩

/-- With all installed and the wheel in use, an uninstall of the translation goes on to the runtime,
removes its library, is refused the wheel, and leaves the stamp. An uninstall of the runtime takes
it away from under the translation. -/
theorem small_packs_broken :
    (∃ state : State, run (step smallRoot smallManifest.packs) fresh
        (smallInstall ++ .uninstall (ascii "translation-en-de") ::
          (List.replicate 6 .next ++ [.fail (fun _ => false) none])) = some state ∧
      state.job = .idle ∧ ¬state.Consistent smallRoot smallManifest.packs) ∧
    ∃ state : State, run (step smallRoot smallManifest.packs) fresh
        (smallInstall ++ .uninstall (ascii "translation-runtime-cpu") ::
          List.replicate 6 .next) = some state ∧
      state.job = .idle ∧ ¬state.Consistent smallRoot smallManifest.packs := by
  constructor
  · obtain ⟨state, ran, idle, installed, path, member, missing⟩ : ∃ state : State,
        run (step smallRoot smallManifest.packs) fresh
          (smallInstall ++ .uninstall (ascii "translation-en-de") ::
            (List.replicate 6 .next ++ [.fail (fun _ => false) none])) = some state ∧
        state.job = .idle ∧
        state.Installed smallRoot smallManifest.packs (ascii "translation-runtime-cpu") ∧
        ∃ path ∈ state.filesOf smallManifest.packs (ascii "translation-runtime-cpu"),
          path ∉ state.tree.files := run_evaluates (by decide +kernel)
    exact ⟨state, ran, idle, fun consistent =>
      missing (consistent.files _ installed path member)⟩
  · obtain ⟨state, ran, idle, installed, missing⟩ : ∃ state : State,
        run (step smallRoot smallManifest.packs) fresh
          (smallInstall ++ .uninstall (ascii "translation-runtime-cpu") ::
            List.replicate 6 .next) = some state ∧
        state.job = .idle ∧
        state.Installed smallRoot smallManifest.packs (ascii "translation-en-de") ∧
        ¬state.Installed smallRoot smallManifest.packs (ascii "translation-runtime-cpu") :=
      run_evaluates (by decide +kernel)
    have needs : ascii "translation-runtime-cpu" ∈
        dependencies smallManifest.packs (ascii "translation-en-de") := by decide +kernel
    exact ⟨state, ran, idle, fun consistent =>
      missing (consistent.dependencies _ installed _ needs)⟩

end Store

end PairDriver.CaptionsPacks
