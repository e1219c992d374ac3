/-
This file proves when the automatic update checks of the face tracking overlay
repeat themselves. A start reads from the catalogue when a source was last
checked, and the script is told which release it last installed; no code writes
either field, so both stay empty over every run. A source is therefore checked
again at every start, and the same release is installed again by every update;
the intended limits hold exactly in the runs that never put them to the test.
-/

import PairDriver.ModuleSync

namespace PairDriver.ModuleSync

/-! ### The two fields are never written -/

/-- An entry that was never stamped. -/
def ModuleSource.Blank (source : ModuleSource) : Prop :=
  source.lastCheckedAt = [] ∧ source.lastReleaseTag = []

/-- An operation that names no last release. -/
def PendingOp.Blank (op : PendingOp) : Prop :=
  ∀ data ∈ op.sourceData, data.lastReleaseTag.getD [] = []

/-- A runner all of whose operations name no last release. -/
structure Runner.Blank (runner : Runner) : Prop where
  queue : ∀ op ∈ runner.queue, op.Blank
  proc : ∀ process ∈ runner.proc, process.op.Blank

/-- No entry of the catalogue is stamped, on disk or in the tab, and no operation names a last
release. -/
structure World.Blank (world : World) : Prop where
  sources : ∀ source ∈ world.sources, source.Blank
  tab : ∀ source ∈ world.tab.catalogue, source.Blank
  runner : world.runner.Blank

theorem Runner.Blank.empty : ({} : Runner).Blank :=
  ⟨fun _ member => absurd member List.not_mem_nil, fun _ running => nomatch running⟩

theorem fresh_blank : fresh.Blank where
  sources := by
    intro source member
    obtain rfl := List.mem_singleton.mp member
    exact ⟨rfl, rfl⟩
  tab := fun _ member => absurd member List.not_mem_nil
  runner := Runner.Blank.empty

theorem ensureSourcesCatalogue_blank {file : List ModuleSource}
    (blank : ∀ source ∈ file, source.Blank) :
    ∀ source ∈ ensureSourcesCatalogue file, source.Blank := by
  intro source member
  unfold ensureSourcesCatalogue at member
  dsimp only at member
  split at member
  · exact blank source (List.mem_of_mem_filter member)
  · rcases List.mem_cons.mp member with rfl | old
    · exact ⟨rfl, rfl⟩
    · exact blank source (List.mem_of_mem_filter old)

theorem seededSources_blank {file : List ModuleSource} (blank : ∀ source ∈ file, source.Blank) :
    ∀ source ∈ seededSources file, source.Blank := by
  unfold seededSources
  split
  · exact blank
  · exact ensureSourcesCatalogue_blank blank

theorem launchNext_blank (launches : PendingOp → Bool) {runner : Runner} (blank : runner.Blank) :
    (runner.launchNext launches).Blank := by
  obtain ⟨queue, proc⟩ := runner
  cases queue with
  | nil => exact blank
  | cons op rest =>
    have later : ∀ other ∈ rest, other.Blank := fun other member =>
      blank.queue other (List.mem_cons_of_mem op member)
    unfold Runner.launchNext
    dsimp only
    split
    · refine ⟨later, ?_⟩
      rintro _ ⟨⟩
      exact blank.queue op List.mem_cons_self
    · exact ⟨later, blank.proc⟩

theorem enqueue_blank (launches : PendingOp → Bool) {op : PendingOp} {runner : Runner}
    (new : op.Blank) (blank : runner.Blank) : (runner.enqueue launches op).Blank := by
  have queued : ({ runner with queue := runner.queue ++ [op] } : Runner).Blank := by
    refine ⟨fun other member => ?_, blank.proc⟩
    rcases List.mem_append.mp member with old | single
    · exact blank.queue other old
    · exact List.mem_singleton.mp single ▸ new
  unfold Runner.enqueue
  split
  · exact blank
  · dsimp only
    split
    · exact queued
    · exact launchNext_blank launches queued

theorem poll_blank (launches : PendingOp → Bool) (late : Bool) {runner : Runner}
    (blank : runner.Blank) : (runner.poll launches late).1.Blank := by
  have idle : ({ runner with proc := none } : Runner).Blank :=
    ⟨blank.queue, fun _ running => nomatch running⟩
  unfold Runner.poll
  split
  · exact launchNext_blank launches blank
  · dsimp only
    split
    · split
      · exact launchNext_blank launches idle
      · exact blank
    · exact launchNext_blank launches idle

theorem autoUpdateData_blank {source : ModuleSource} (blank : source.Blank) :
    (⟨.update, autoUpdateData source, source.id⟩ : PendingOp).Blank := by
  rintro _ ⟨⟩
  exact blank.2

theorem buildSourceDataJson_blank (action : Action) (source : ModuleSource) :
    (⟨action, buildSourceDataJson source, source.id⟩ : PendingOp).Blank := by
  rintro _ ⟨⟩
  rfl

theorem autoUpdates_blank (launches : PendingOp → Bool) (due : List ModuleSource)
    (blank : ∀ source ∈ due, source.Blank) {runner : Runner} (before : runner.Blank) :
    (due.foldl (fun runner source =>
      runner.enqueue launches ⟨.update, autoUpdateData source, source.id⟩) runner).Blank := by
  induction due generalizing runner with
  | nil => exact before
  | cons source rest inductionHypothesis =>
    refine inductionHypothesis (fun other member => blank other (List.mem_cons_of_mem _ member)) ?_
    exact enqueue_blank launches (autoUpdateData_blank (blank source List.mem_cons_self)) before

/-- A step that leaves the catalogue, the tab and the runner alone. -/
theorem World.Blank.of_same {world after : World} (blank : world.Blank)
    (sources : after.sources = world.sources) (tab : after.tab = world.tab)
    (runner : after.runner = world.runner) : after.Blank := by
  refine ⟨?_, ?_, ?_⟩
  · rw [sources]
    exact blank.sources
  · rw [tab]
    exact blank.tab
  · rw [runner]
    exact blank.runner

theorem World.Blank.reconcile {world : World} (blank : world.Blank) (uuid : Text) :
    (world.reconcile uuid).Blank := by
  unfold World.reconcile
  split <;> exact blank.of_same rfl rfl rfl

theorem World.Blank.drawInstalled {world : World} (blank : world.Blank)
    (clicked : InstalledModule → Bool) : (world.drawInstalled clicked).Blank := by
  unfold World.drawInstalled
  split
  · exact blank
  · exact blank.of_same rfl rfl rfl

theorem World.Blank.saveCatalogue {world : World} (blank : world.Blank)
    {catalogue : List ModuleSource} (all : ∀ source ∈ catalogue, source.Blank) :
    (world.saveCatalogue catalogue).Blank :=
  ⟨all, all, blank.runner⟩

theorem World.Blank.addSource {world : World} (blank : world.Blank) (launches : PendingOp → Bool)
    {source : ModuleSource} (new : source.Blank) : (world.addSource launches source).Blank := by
  have all : ∀ other ∈ world.tab.catalogue ++ [source], other.Blank := by
    intro other member
    rcases List.mem_append.mp member with old | single
    · exact blank.tab other old
    · exact List.mem_singleton.mp single ▸ new
  exact ⟨all, all, enqueue_blank launches (buildSourceDataJson_blank .add source) blank.runner⟩

theorem World.Blank.tick {world : World} (blank : world.Blank) (launches : PendingOp → Bool)
    (late : Bool) : (world.tick launches late).Blank := by
  have runner := poll_blank launches late blank.runner
  have seeded := seededSources_blank blank.sources
  unfold World.tick
  dsimp only
  split
  · exact ⟨blank.sources, blank.tab, runner⟩
  · have refreshed : ({ world with
        runner := (world.runner.poll launches late).1
        sources := seededSources world.sources } : World).Blank := ⟨seeded, blank.tab, runner⟩
    split
    · exact refreshed.reconcile _
    · exact refreshed

theorem World.Blank.drawSources {world : World} (blank : world.Blank)
    (launches : PendingOp → Bool) (late : Bool) : (world.drawSources launches late).Blank := by
  have runner := poll_blank launches late blank.runner
  have seeded := seededSources_blank blank.sources
  have ensured := ensureSourcesCatalogue_blank blank.sources
  unfold World.drawSources
  dsimp only
  split
  · exact ⟨blank.sources, blank.tab, runner⟩
  · split
    · exact World.Blank.reconcile ⟨seeded, ensured, runner⟩ _
    · exact ⟨blank.sources, blank.tab, runner⟩

theorem World.Blank.exits {world : World} (blank : world.Blank) {op : PendingOp}
    (running : world.runner.proc = some ⟨op, none⟩) (modules : List InstalledModule) (exit : Exit) :
    (world.exits ⟨op, none⟩ modules exit).Blank := by
  refine ⟨blank.sources, blank.tab, blank.runner.queue, ?_⟩
  rintro _ ⟨⟩
  exact blank.runner.proc ⟨op, none⟩ running

/-- No step stamps an entry or tells the script of a release. -/
theorem step_blank {world after : World} {event : Event} (blank : world.Blank)
    (stepped : step world event = some after) : after.Blank := by
  cases event with
  | start now launches =>
    obtain rfl := Option.some.inj stepped
    refine ⟨seededSources_blank blank.sources, fun _ member => absurd member List.not_mem_nil, ?_⟩
    refine autoUpdates_blank launches _ (fun source member => ?_) Runner.Blank.empty
    exact ensureSourcesCatalogue_blank blank.sources source (List.mem_of_mem_filter member)
  | save | touch modules =>
    obtain rfl := Option.some.inj stepped
    exact blank.of_same rfl rfl rfl
  | refresh =>
    obtain rfl := Option.some.inj stepped
    exact ⟨seededSources_blank blank.sources, ensureSourcesCatalogue_blank blank.sources,
      blank.runner⟩
  | click clicked =>
    obtain rfl := Option.some.inj stepped
    exact blank.drawInstalled clicked
  | setAutoUpdate index on =>
    dsimp only [step] at stepped
    split at stepped
    · rename_i source found
      split at stepped
      · obtain rfl := Option.some.inj stepped
        refine blank.saveCatalogue fun other member => ?_
        rcases List.mem_or_eq_of_mem_set member with old | rfl
        · exact blank.tab other old
        · exact blank.tab source (List.mem_of_getElem? found)
      · cases stepped
    · cases stepped
  | sync index launches =>
    dsimp only [step] at stepped
    split at stepped
    · split at stepped
      · cases stepped
      · obtain rfl := Option.some.inj stepped
        exact ⟨blank.sources, blank.tab,
          enqueue_blank launches (buildSourceDataJson_blank .update _) blank.runner⟩
    · cases stepped
  | remove index launches =>
    dsimp only [step] at stepped
    split at stepped
    · split at stepped
      · cases stepped
      · obtain rfl := Option.some.inj stepped
        have all : ∀ source ∈ world.tab.catalogue.eraseIdx index, source.Blank :=
          fun source member => blank.tab source (List.mem_of_mem_eraseIdx member)
        exact ⟨all, all, enqueue_blank launches (fun _ => nofun) blank.runner⟩
    · cases stepped
  | addFolder id path launches =>
    dsimp only [step] at stepped
    split at stepped
    · cases stepped
    · obtain rfl := Option.some.inj stepped
      exact blank.addSource launches ⟨rfl, rfl⟩
  | addGitHub id ownerRepo launches =>
    dsimp only [step] at stepped
    split at stepped
    · cases stepped
    · obtain rfl := Option.some.inj stepped
      exact blank.addSource launches ⟨rfl, rfl⟩
  | tick now launches late =>
    obtain rfl := Option.some.inj stepped
    exact blank.tick launches late
  | drawSources now launches late =>
    obtain rfl := Option.some.inj stepped
    exact blank.drawSources launches late
  | exit outside =>
    dsimp only [step] at stepped
    split at stepped
    · rename_i running
      obtain rfl := Option.some.inj stepped
      exact blank.exits running _ _
    · cases stepped
  | crash modules code =>
    dsimp only [step] at stepped
    split at stepped
    · rename_i running
      obtain rfl := Option.some.inj stepped
      exact blank.exits running _ _
    · cases stepped

/-! ### What is recorded of a run -/

/-- An overlay beside what is known of its sources, newest first: when an update of a source last
came to a successful end, which release was last installed from it, and the starts and installs that
repeated what had been done. -/
structure Audited where
  world : World := fresh
  checks : List (Text × Int) := []
  installs : List (Text × Text) := []
  rechecks : List (Text × Int) := []
  reinstalls : List (Text × Text) := []

/-- The last successful check of a source lies less than six hours back. -/
def Audited.recentlyChecked (audited : Audited) (now : Int) (sourceId : Text) : Bool :=
  (audited.checks.lookup sourceId).any fun last => last ≤ now ∧ now - last < autoUpdateInterval

/-- The check that a poll at the given time brings to a successful end. -/
def World.completedCheck (now : Int) (world : World) : List (Text × Int) :=
  match world.runner.proc with
  | some ⟨op, some exit⟩ => if op.action = .update ∧ exit.result.ok then [(op.sourceId, now)] else []
  | _ => []

/-- The source and the tag of the release a script run installs. -/
def World.installedRelease (outside : Surroundings) (world : World) : List (Text × Text) :=
  match world.runner.proc with
  | some ⟨op, none⟩ =>
    match op.sourceData, outside.release with
    | some source, some release =>
      if (faceModuleSync op outside world.modules).2.message = .installedRelease then
        [(source.id, release.tagName)]
      else []
    | _, _ => []
  | _ => []

/-- The sources a start asks to update although their last check is recent. -/
def Audited.startRechecks (audited : Audited) (now : Int) : List (Text × Int) :=
  ((autoUpdates now (ensureSourcesCatalogue audited.world.sources)).filter fun source =>
    audited.recentlyChecked now source.id).map fun source => (source.id, now)

/-- The installs of a script run whose tag is the one last installed from the source. -/
def Audited.runReinstalls (audited : Audited) (outside : Surroundings) : List (Text × Text) :=
  (audited.world.installedRelease outside).filter fun install =>
    audited.installs.lookup install.1 = some install.2

/-- One event, with the record kept. -/
def audit (audited : Audited) (event : Event) : Option Audited :=
  (step audited.world event).map fun world =>
    match event with
    | .start now _ =>
      { audited with
        world := world
        rechecks := audited.startRechecks now ++ audited.rechecks }
    | .tick now _ _ | .drawSources now _ _ =>
      { audited with
        world := world
        checks := audited.world.completedCheck now ++ audited.checks }
    | .exit outside =>
      { audited with
        world := world
        installs := audited.world.installedRelease outside ++ audited.installs
        reinstalls := audited.runReinstalls outside ++ audited.reinstalls }
    | _ => { audited with world := world }

/-- No source was asked for again within six hours of a successful check, and no release was
installed again. -/
def Audited.Limited (audited : Audited) : Prop :=
  audited.rechecks = [] ∧ audited.reinstalls = []

/-- A script run for a repository would install a release, were it not for the tag last installed:
the release unpacks, and an update finds a tag at all. -/
def Installable (op : PendingOp) (source : SourceData) (release : Release) : Prop :=
  op.action ≠ .remove ∧ source.kind = .gitHub ∧ source.ownerRepo.getD [] ≠ [] ∧
    release.unpack.isOk = true ∧ (op.action = .update → release.tagName ≠ [])

instance (op : PendingOp) (source : SourceData) (release : Release) :
    Decidable (Installable op source release) :=
  inferInstanceAs (Decidable (_ ∧ _))

/-- The condition. At a start, every repository of the catalogue whose last check is recent has its
automatic updates switched off; and a script run finds no installable release with the tag last
installed from its source. -/
def Untested (audited : Audited) : Event → Prop
  | .start now _ => ∀ source ∈ ensureSourcesCatalogue audited.world.sources,
      source.kind = .gitHub → audited.recentlyChecked now source.id = true →
        source.autoUpdate = false
  | .exit outside =>
    match audited.world.runner.proc with
    | some ⟨op, none⟩ => ∀ source ∈ op.sourceData, ∀ release ∈ outside.release,
        Installable op source release →
          audited.installs.lookup source.id ≠ some release.tagName
    | _ => True
  | _ => True

instance (audited : Audited) (event : Event) : Decidable (Untested audited event) :=
  match event with
  | .start _ _ => inferInstanceAs (Decidable (∀ _ ∈ _, _))
  | .exit outside =>
    match proc : audited.world.runner.proc with
    | some ⟨op, none⟩ => decidable_of_iff
        (∀ source ∈ op.sourceData, ∀ release ∈ outside.release, Installable op source release →
          audited.installs.lookup source.id ≠ some release.tagName)
        (by simp only [Untested, proc])
    | some ⟨_, some _⟩ => isTrue (by simp only [Untested, proc])
    | none => isTrue (by simp only [Untested, proc])
  | .save | .refresh | .click _ | .setAutoUpdate _ _ | .sync _ _ | .remove _ _ | .addFolder _ _ _
  | .addGitHub _ _ _ | .tick _ _ _ | .drawSources _ _ _ | .crash _ _ | .touch _ => isTrue trivial

/-! ### One step -/

/-- Without a stamp every repository with automatic updates is due. -/
theorem mem_autoUpdates {catalogue : List ModuleSource}
    (blank : ∀ source ∈ catalogue, source.Blank) (now : Int) (source : ModuleSource) :
    source ∈ autoUpdates now catalogue ↔
      source ∈ catalogue ∧ source.kind = .gitHub ∧ source.autoUpdate = true := by
  unfold autoUpdates
  rw [List.mem_filter, decide_eq_true_iff]
  refine and_congr_right fun member => ?_
  have due : needsCheck now source.lastCheckedAt = true := by
    rw [(blank source member).1]
    rfl
  rw [due]
  exact ⟨fun all => ⟨all.1, all.2.1⟩, fun both => ⟨both.1, both.2, rfl⟩⟩

/-- A start repeats no recent check exactly when it meets the condition. -/
theorem startRechecks_eq_nil {audited : Audited} (blank : audited.world.Blank) (now : Int)
    (launches : PendingOp → Bool) :
    audited.startRechecks now = [] ↔ Untested audited (.start now launches) := by
  have catalogue := ensureSourcesCatalogue_blank blank.sources
  unfold Audited.startRechecks
  rw [List.map_eq_nil_iff, List.filter_eq_nil_iff]
  constructor
  · intro none source member kind recent
    by_contra on
    rw [Bool.not_eq_false] at on
    exact none source ((mem_autoUpdates catalogue now source).mpr ⟨member, kind, on⟩) recent
  · intro off source due recent
    obtain ⟨member, kind, on⟩ := (mem_autoUpdates catalogue now source).mp due
    rw [off source member kind recent] at on
    cases on

theorem sameText_nil (text : Text) : sameText [] text = true ↔ text = [] := by
  unfold sameText
  rw [decide_eq_true_iff, List.map_nil, eq_comm, List.map_eq_nil_iff]

/-- Without a last release the script installs whatever it can unpack. -/
theorem syncGitHub_installs {action : Action} {source : SourceData} {release : Release}
    (blank : source.lastReleaseTag.getD [] = []) (modules : List InstalledModule) :
    (syncGitHub action source (some release) modules).2.message = .installedRelease ↔
      source.ownerRepo.getD [] ≠ [] ∧ release.unpack.isOk = true ∧
        (action = .update → release.tagName ≠ []) := by
  unfold syncGitHub
  split
  · rename_i missing
    simp [fails, missing]
  · rename_i named
    dsimp only
    rw [blank]
    simp only [sameText_nil]
    split
    · rename_i skipped
      simp [skipped]
    · rename_i fetched
      rw [not_and] at fetched
      cases unpacked : release.unpack with
      | error message =>
        have other : message ≠ .installedRelease := by
          rintro rfl
          unfold Release.unpack at unpacked
          split at unpacked
          · cases unpacked
          · split at unpacked
            · cases unpacked
            · split at unpacked
              · cases unpacked
              · split at unpacked
                · cases unpacked
                · split at unpacked <;> cases unpacked
        simp [fails, other, Except.isOk, Except.toBool]
      | ok manifest =>
        simp only [Except.isOk, Except.toBool, true_and, true_iff]
        exact ⟨named, fetched⟩

theorem syncFolder_message (source : SourceData) (folder : Option (Option Manifest))
    (modules : List InstalledModule) :
    (syncFolder source folder modules).2.message ≠ .installedRelease := by
  unfold syncFolder
  split
  · exact nofun
  · split
    · exact nofun
    · exact nofun
    · split <;> exact nofun

theorem syncRegistry_message (source : SourceData) (index : Option (Option (List IndexEntry)))
    (modules : List InstalledModule) :
    (syncRegistry source index modules).2.message ≠ .installedRelease := by
  unfold syncRegistry
  split
  · exact nofun
  · split <;> exact nofun

/-- The script installs a release exactly if one is installable. -/
theorem faceModuleSync_installs {op : PendingOp} (blank : op.Blank) {source : SourceData}
    (described : op.sourceData = some source) {outside : Surroundings} {release : Release}
    (latest : outside.release = some release) (modules : List InstalledModule) :
    (faceModuleSync op outside modules).2.message = .installedRelease ↔
      Installable op source release := by
  have unstamped := blank source described
  obtain ⟨action, sourceData, sourceId⟩ := op
  obtain rfl : sourceData = some source := described
  cases action with
  | remove =>
    unfold faceModuleSync
    dsimp only
    split
    · exact ⟨nofun, fun installable => absurd rfl installable.1⟩
    · exact ⟨nofun, fun installable => absurd rfl installable.1⟩
  | add | update =>
    unfold faceModuleSync Installable
    dsimp only
    cases kind : source.kind with
    | folder =>
      exact ⟨fun same => absurd same (syncFolder_message _ _ _), fun installable =>
        nomatch installable.2.1⟩
    | registry =>
      exact ⟨fun same => absurd same (syncRegistry_message _ _ _), fun installable =>
        nomatch installable.2.1⟩
    | gitHub =>
      dsimp only
      rw [latest, syncGitHub_installs unstamped]
      exact ⟨fun all => ⟨nofun, rfl, all⟩, fun installable => installable.2.2⟩

/-- A script run repeats no install exactly when it meets the condition. -/
theorem runReinstalls_eq_nil {audited : Audited} (blank : audited.world.Blank)
    (outside : Surroundings) :
    audited.runReinstalls outside = [] ↔ Untested audited (.exit outside) := by
  unfold Audited.runReinstalls World.installedRelease
  rcases running : audited.world.runner.proc with _ | ⟨op, _ | exit⟩
  · simp only [Untested, running, List.filter_nil]
  · have unstamped : op.Blank := blank.runner.proc ⟨op, none⟩ running
    simp only [Untested, running]
    rcases described : op.sourceData with _ | source
    · simp
    rcases latest : outside.release with _ | release
    · simp
    have installs := faceModuleSync_installs unstamped described latest audited.world.modules
    dsimp only
    by_cases installable : Installable op source release
    · rw [if_pos (installs.mpr installable)]
      simp [installable]
    · rw [if_neg (mt installs.mp installable)]
      simp [installable]
  · simp only [Untested, running, List.filter_nil]

/-- A step stays within the limits exactly when it meets the condition. -/
theorem audit_limited {audited after : Audited} {event : Event} (blank : audited.world.Blank)
    (stepped : audit audited event = some after) :
    after.Limited ↔ audited.Limited ∧ Untested audited event := by
  obtain ⟨world, _, rfl⟩ := Option.map_eq_some_iff.mp stepped
  unfold Audited.Limited
  cases event with
  | start now launches =>
    dsimp only
    rw [List.append_eq_nil_iff, startRechecks_eq_nil blank now launches]
    tauto
  | exit outside =>
    dsimp only
    rw [List.append_eq_nil_iff, runReinstalls_eq_nil blank outside]
    tauto
  | save | refresh | click | setAutoUpdate | sync | remove | addFolder | addGitHub | tick
  | drawSources | crash | touch => exact (and_iff_left trivial).symm

theorem audit_blank {audited after : Audited} {event : Event} (blank : audited.world.Blank)
    (stepped : audit audited event = some after) : after.world.Blank := by
  obtain ⟨world, ran, rfl⟩ := Option.map_eq_some_iff.mp stepped
  have later := step_blank blank ran
  cases event <;> exact later

/-! ### Whole runs -/

/-- A run from unstamped entries stays within the limits exactly when all its steps meet the
condition. -/
theorem run_limited_iff {audited final : Audited} (blank : audited.world.Blank)
    (events : List Event) (ran : run audit audited events = some final) :
    final.Limited ↔ audited.Limited ∧ run (checked audit Untested) audited events = some final := by
  induction events generalizing audited with
  | nil =>
    obtain rfl := Option.some.inj ran
    exact (and_iff_left rfl).symm
  | cons event rest inductionHypothesis =>
    obtain ⟨after, stepped, later⟩ := Option.bind_eq_some_iff.mp ran
    rw [inductionHypothesis (audit_blank blank stepped) later, audit_limited blank stepped,
      and_assoc]
    refine and_congr_right fun _ => ?_
    show _ ↔ ((checked audit Untested audited event).bind fun after =>
      run (checked audit Untested) after rest) = some final
    by_cases met : Untested audited event
    · rw [show checked audit Untested audited event = some after from (if_pos met).trans stepped]
      exact ⟨fun both => both.2, fun same => ⟨met, same⟩⟩
    · rw [show checked audit Untested audited event = none from if_neg met]
      exact ⟨fun both => absurd both.1 met, nofun⟩

/-- Over every run of a new installation: no source is asked for again within six hours of a
successful check and no release is installed again, exactly when every start finds the automatic
updates of the recently checked sources switched off and no script run finds the release last
installed from its source. -/
theorem update_checks_limited_iff (events : List Event) {final : Audited}
    (ran : run audit {} events = some final) :
    final.rechecks = [] ∧ final.reinstalls = [] ↔
      run (checked audit Untested) {} events = some final := by
  have limited := run_limited_iff fresh_blank events ran
  exact limited.trans (and_iff_right ⟨rfl, rfl⟩)

/-- Every process starts. -/
def starts (_ : PendingOp) : Bool := true

/-- The latest release of a repository. -/
def firstRelease : Surroundings where
  release := some ⟨ascii "v1", some { manifest := some ⟨ascii "A", ascii "1.0"⟩ }⟩

/-- A repository is added and its release is installed; a start checks it. -/
def checkedOnce : List Event :=
  [.refresh, .addGitHub (ascii "s1") (ascii "o/a") starts, .exit firstRelease, .tick 0 starts false,
    .start 1000 starts]

/-- The start finds a new release, and the next one comes seven hours later. -/
def checkedHoursApart : List Event :=
  checkedOnce ++
    [.exit { release := some ⟨ascii "v2", some { manifest := some ⟨ascii "A", ascii "2.0"⟩ }⟩ },
      .tick 2000 starts false, .start 27200 starts]

theorem update_checks_hours_apart :
    ∃ final, run audit {} checkedHoursApart = some final ∧ final.checks = [(ascii "s1", 2000)] ∧
      final.installs.length = 2 ∧ final.rechecks = [] ∧ final.reinstalls = [] := by
  obtain ⟨final, met, checks, installs⟩ :
      ∃ final, run (checked audit Untested) {} checkedHoursApart = some final ∧
        final.checks = [(ascii "s1", 2000)] ∧ final.installs.length = 2 :=
    run_evaluates (by decide +kernel)
  have ran := run_of_checked_run met
  exact ⟨final, ran, checks, installs,
    (update_checks_limited_iff checkedHoursApart ran).mpr met⟩

/-- The start finds the release that is already installed and installs it again, and another start
within the hour asks for it once more. -/
theorem update_checks_repeat :
    ∃ final, run audit {} (checkedOnce ++
        [.exit firstRelease, .tick 1010 starts false, .start 2000 starts]) = some final ∧
      final.checks = [(ascii "s1", 1010)] ∧ final.rechecks = [(ascii "s1", 2000)] ∧
      final.reinstalls = [(ascii "s1", ascii "v1")] :=
  run_evaluates (by decide +kernel)

end PairDriver.ModuleSync
