/-
This file proves what becomes of the user's choice of modules. Beside the
overlay stands a record of what the user switched off and which sources the user
added since. The list of enabled modules never holds a module twice. One routine
reconciles the results of first installs and of updates alike, and puts the
module of a result in front whenever it is not enabled; so the choice is kept
exactly as long as no such result names a module the user switched off, and no
update names one that is not enabled while another is.
-/

import PairDriver.ModuleSync

namespace PairDriver.ModuleSync

/-! ### Pruning -/

/-- What is kept of a list: the entries that are installed. -/
theorem mem_prune (installed current : List Text) (pruned : Pruned) (uuid : Text) :
    uuid ∈ (current.foldl (pruneEntry installed) pruned).next ↔
      uuid ∈ pruned.next ∨ uuid ∈ current ∧ uuid ∈ installed := by
  induction current generalizing pruned with
  | nil => simp
  | cons first rest inductionHypothesis =>
    rw [List.foldl_cons, inductionHypothesis]
    unfold pruneEntry
    by_cases present : first ∈ installed
    · by_cases repeated : first ∈ pruned.next
      · simp only [present, repeated, not_true_eq_false, if_false, List.mem_cons]
        constructor
        · rintro (old | ⟨later, found⟩)
          · exact Or.inl old
          · exact Or.inr ⟨Or.inr later, found⟩
        · rintro (old | ⟨rfl | later, found⟩)
          · exact Or.inl old
          · exact Or.inl repeated
          · exact Or.inr ⟨later, found⟩
      · simp only [present, repeated, not_true_eq_false, not_false_eq_true, if_false, if_true,
          List.mem_append, List.mem_cons, List.not_mem_nil, or_false]
        constructor
        · rintro ((old | rfl) | ⟨later, found⟩)
          · exact Or.inl old
          · exact Or.inr ⟨Or.inl rfl, present⟩
          · exact Or.inr ⟨Or.inr later, found⟩
        · rintro (old | ⟨rfl | later, found⟩)
          · exact Or.inl (Or.inl old)
          · exact Or.inl (Or.inr rfl)
          · exact Or.inr ⟨later, found⟩
    · simp only [present, not_false_eq_true, if_true, List.mem_cons]
      constructor
      · rintro (old | ⟨later, found⟩)
        · exact Or.inl old
        · exact Or.inr ⟨Or.inr later, found⟩
      · rintro (old | ⟨rfl | later, found⟩)
        · exact Or.inl old
        · exact absurd found present
        · exact Or.inr ⟨later, found⟩

theorem prune_nodup (installed current : List Text) (pruned : Pruned)
    (distinct : pruned.next.Nodup) : (current.foldl (pruneEntry installed) pruned).next.Nodup := by
  induction current generalizing pruned with
  | nil => exact distinct
  | cons first rest inductionHypothesis =>
    refine inductionHypothesis _ ?_
    unfold pruneEntry
    split
    · exact distinct
    · split
      · rename_i absent
        refine List.nodup_append.mpr ⟨distinct, List.nodup_singleton first, ?_⟩
        rintro entry member other single rfl
        exact absent (List.mem_singleton.mp single ▸ member)
      · exact distinct

/-- The first entry that is kept is the first one that is installed. -/
theorem prune_head? (installed current : List Text) (pruned : Pruned) :
    (current.foldl (pruneEntry installed) pruned).next.head? =
      pruned.next.head?.or (current.filter (· ∈ installed)).head? := by
  induction current generalizing pruned with
  | nil => simp
  | cons first rest inductionHypothesis =>
    rw [List.foldl_cons, inductionHypothesis]
    unfold pruneEntry
    by_cases present : first ∈ installed
    · cases next : pruned.next with
      | nil => simp [present]
      | cons head tail =>
        simp only [present, not_true_eq_false, if_false]
        split <;> simp
    · simp [present]

/-! ### Reconciling -/

/-- The list after a result with the given uuid was reconciled. -/
def reconciled (uuid : Text) (modules : List InstalledModule) (enabled : List Text) : List Text :=
  (reconcileEnabledModules uuid modules enabled).getD enabled

/-- A list without the entries that are not installed. -/
def keepInstalled (modules : List InstalledModule) (uuids : List Text) : List Text :=
  uuids.filter (· ∈ installedUuids modules)

/-- The uuid of a result that names an installed module. -/
def Names (uuid : Text) (modules : List InstalledModule) : Prop :=
  uuid ≠ [] ∧ uuid ∈ installedUuids modules

instance (uuid : Text) (modules : List InstalledModule) : Decidable (Names uuid modules) :=
  inferInstanceAs (Decidable (_ ∧ _))

/-- The list is left alone, pruned, or pruned with the new module in front. -/
theorem reconciled_cases (uuid : Text) (modules : List InstalledModule) (enabled : List Text) :
    reconciled uuid modules enabled = enabled ∨
      (reconciled uuid modules enabled =
        (enabled.foldl (pruneEntry (installedUuids modules)) {}).next) ∨
      (Names uuid modules ∧ uuid ∉ enabled ∧ reconciled uuid modules enabled =
        uuid :: (enabled.foldl (pruneEntry (installedUuids modules)) {}).next) := by
  unfold reconciled reconcileEnabledModules
  dsimp only
  split
  · rename_i named
    split
    · rename_i absent
      rw [mem_prune] at absent
      refine Or.inr (Or.inr ⟨named, fun member => absent (Or.inr ⟨member, named.2⟩), rfl⟩)
    · split
      · exact Or.inr (Or.inl rfl)
      · exact Or.inl rfl
  · split
    · exact Or.inr (Or.inl rfl)
    · exact Or.inl rfl

/-- A module that is installed and not enabled is put in front. -/
theorem reconciled_new {uuid : Text} {modules : List InstalledModule} {enabled : List Text}
    (named : Names uuid modules) (absent : uuid ∉ enabled) :
    reconciled uuid modules enabled =
      uuid :: (enabled.foldl (pruneEntry (installedUuids modules)) {}).next := by
  have pruned : uuid ∉ (enabled.foldl (pruneEntry (installedUuids modules)) {}).next := by
    rw [mem_prune]
    rintro (member | ⟨member, _⟩)
    · exact List.not_mem_nil member
    · exact absent member
  unfold reconciled reconcileEnabledModules
  dsimp only
  rw [if_pos (show uuid ≠ [] ∧ uuid ∈ installedUuids modules from named), if_pos pruned,
    Option.getD_some]

theorem reconciled_nodup (uuid : Text) (modules : List InstalledModule) {enabled : List Text}
    (distinct : enabled.Nodup) : (reconciled uuid modules enabled).Nodup := by
  have pruned := prune_nodup (installedUuids modules) enabled {} List.nodup_nil
  rcases reconciled_cases uuid modules enabled with same | same | ⟨_, absent, same⟩
  · rw [same]
    exact distinct
  · rw [same]
    exact pruned
  · rw [same, List.nodup_cons, mem_prune]
    refine ⟨?_, pruned⟩
    rintro (member | ⟨member, _⟩)
    · exact List.not_mem_nil member
    · exact absent member

/-- Nothing is added but the module of the result. -/
theorem mem_reconciled {uuid other : Text} {modules : List InstalledModule} {enabled : List Text}
    (member : other ∈ reconciled uuid modules enabled) :
    other ∈ enabled ∨ other = uuid ∧ Names uuid modules ∧ uuid ∉ enabled := by
  rcases reconciled_cases uuid modules enabled with same | same | ⟨named, absent, same⟩
  · exact Or.inl (same ▸ member)
  · rw [same, mem_prune] at member
    rcases member with none | ⟨old, _⟩
    · exact absurd none List.not_mem_nil
    · exact Or.inl old
  · rw [same, List.mem_cons, mem_prune] at member
    rcases member with rfl | none | ⟨old, _⟩
    · exact Or.inr ⟨rfl, named, absent⟩
    · exact absurd none List.not_mem_nil
    · exact Or.inl old

theorem keepInstalled_prune (modules : List InstalledModule) (enabled : List Text) :
    keepInstalled modules (enabled.foldl (pruneEntry (installedUuids modules)) {}).next =
      (enabled.foldl (pruneEntry (installedUuids modules)) {}).next := by
  refine List.filter_eq_self.mpr fun uuid member => ?_
  rw [mem_prune] at member
  rcases member with none | ⟨_, found⟩
  · exact absurd none List.not_mem_nil
  · exact decide_eq_true found

/-- The first installed module stays first, unless a new one is put in front of it. -/
theorem reconciled_first {uuid : Text} {modules : List InstalledModule} {enabled : List Text}
    (old : Names uuid modules → uuid ∈ enabled) :
    (keepInstalled modules (reconciled uuid modules enabled)).head? =
      (keepInstalled modules enabled).head? := by
  rcases reconciled_cases uuid modules enabled with same | same | ⟨named, absent, _⟩
  · rw [same]
  · rw [same, keepInstalled_prune, prune_head?]
    rfl
  · exact absurd (old named) absent

/-- A new module comes first. -/
theorem reconciled_new_first {uuid : Text} {modules : List InstalledModule} {enabled : List Text}
    (named : Names uuid modules) (absent : uuid ∉ enabled) :
    (keepInstalled modules (reconciled uuid modules enabled)).head? = some uuid := by
  rw [reconciled_new named absent]
  unfold keepInstalled
  rw [List.filter_cons, if_pos (decide_eq_true named.2), List.head?_cons]

/-! ### The record of the user's choices -/

/-- A module that was switched off, or a source that was added. -/
inductive Choice where
  | off (uuid : Text)
  | added (sourceId : Text)
deriving DecidableEq

/-- An overlay beside the user's choices, newest first. -/
structure Watched where
  world : World := fresh
  choices : List Choice := []

/-- A click on a row switches its module off if it was enabled, and else on. -/
def recordRow (enabled : List Text) (choices : List Choice) (uuid : Text) : List Choice :=
  if uuid ∈ enabled then .off uuid :: choices.filter (· ≠ .off uuid)
  else choices.filter (· ≠ .off uuid)

/-- A source was added after a module was switched off. -/
def AddedSince (choices : List Choice) (sourceId uuid : Text) : Prop :=
  .added sourceId ∈ choices.takeWhile (· ≠ .off uuid)

instance (choices : List Choice) (sourceId uuid : Text) :
    Decidable (AddedSince choices sourceId uuid) :=
  inferInstanceAs (Decidable (_ ∈ _))

/-- The operation whose process has ended, and its result. -/
def World.ended (world : World) : Option (PendingOp × SyncResult) :=
  match world.runner.proc with
  | some ⟨op, some exit⟩ => some (op, exit.result)
  | _ => none

/-- What an event adds to the record. A module whose source was added since is no longer held to be
switched off once that source delivers it. -/
def record (watched : Watched) : Event → List Choice
  | .click clicked =>
    (watched.world.clickedRows clicked).foldl (recordRow watched.world.enabled) watched.choices
  | .addFolder id _ _ | .addGitHub id _ _ => .added id :: watched.choices
  | .tick _ _ _ | .drawSources _ _ _ =>
    match watched.world.ended with
    | some (op, result) =>
      if result.ok ∧ AddedSince watched.choices op.sourceId result.installedUuid then
        watched.choices.filter (· ≠ .off result.installedUuid)
      else watched.choices
    | none => watched.choices
  | _ => watched.choices

/-- One event, with the record kept. -/
def watch (watched : Watched) (event : Event) : Option Watched :=
  (step watched.world event).map fun world => ⟨world, record watched event⟩

/-- No module the user switched off is enabled. -/
def Watched.Kept (watched : Watched) : Prop :=
  ∀ uuid, .off uuid ∈ watched.choices → uuid ∉ watched.world.enabled

/-- The first of the enabled modules that are installed. -/
def World.first (world : World) : Option Text :=
  (keepInstalled world.modules world.enabled).head?

/-- A poll that consumes the result of an update. -/
def World.consumesUpdate (world : World) : Event → Bool
  | .tick _ _ _ | .drawSources _ _ _ => world.ended.any fun ended => ended.1.action = .update
  | _ => false

/-- A module that comes first before an update is consumed comes first afterwards. -/
def KeepsFirst (before : World) (event : Event) (after : World) : Prop :=
  before.consumesUpdate event → ∀ uuid ∈ before.first, after.first = some uuid

/-- The condition on a poll: a successful result that names an installed module names one that is
enabled; or it names none the user switched off before its source was added, and if it is that of
an update, no other enabled module is installed. -/
def NamesEnabled (watched : Watched) : Event → Prop
  | .tick _ _ _ | .drawSources _ _ _ =>
    match watched.world.ended with
    | some (op, result) =>
      result.ok ∧ Names result.installedUuid watched.world.modules →
        result.installedUuid ∈ watched.world.enabled ∨
          (.off result.installedUuid ∈ watched.choices →
            AddedSince watched.choices op.sourceId result.installedUuid) ∧
          (op.action = .update → watched.world.first = none)
    | none => True
  | _ => True

instance (watched : Watched) (event : Event) : Decidable (NamesEnabled watched event) :=
  match event with
  | .tick _ _ _ | .drawSources _ _ _ =>
    match ended : watched.world.ended with
    | some (op, result) => decidable_of_iff
        (result.ok ∧ Names result.installedUuid watched.world.modules →
          result.installedUuid ∈ watched.world.enabled ∨
            (.off result.installedUuid ∈ watched.choices →
              AddedSince watched.choices op.sourceId result.installedUuid) ∧
            (op.action = .update → watched.world.first = none))
        (by simp only [NamesEnabled, ended])
    | none => isTrue (by simp only [NamesEnabled, ended])
  | .start _ _ | .save | .refresh | .click _ | .setAutoUpdate _ _ | .sync _ _ | .remove _ _
  | .addFolder _ _ _ | .addGitHub _ _ _ | .exit _ | .crash _ _ | .touch _ => isTrue trivial

/-! ### What a step does to the list -/

/-- The list after a poll. -/
def World.polledEnabled (world : World) : List Text :=
  match world.ended with
  | some (_, result) =>
    if result.ok then reconciled result.installedUuid world.modules world.enabled else world.enabled
  | none => world.enabled

/-- What a poll leaves behind. -/
structure Polled (before after : World) : Prop where
  modules : after.modules = before.modules
  enabled : after.enabled = before.polledEnabled
  profile : after.profile = after.enabled ∨
    after.enabled = before.enabled ∧ after.profile = before.profile

/-- Every other step leaves behind a part of what the overlay or the profile held. -/
structure Shrinks (before after : World) : Prop where
  enabled : after.enabled.Sublist before.enabled ∨ after.enabled.Sublist before.profile
  profile : after.profile.Sublist before.enabled ∨ after.profile.Sublist before.profile

theorem Shrinks.of_eq {before after : World} (enabled : after.enabled = before.enabled)
    (profile : after.profile = before.profile) : Shrinks before after := by
  refine ⟨Or.inl ?_, Or.inr ?_⟩
  · rw [enabled]
  · rw [profile]

theorem reconcile_enabled (uuid : Text) (world : World) :
    (world.reconcile uuid).enabled = reconciled uuid world.modules world.enabled := by
  unfold World.reconcile reconciled
  cases reconcileEnabledModules uuid world.modules world.enabled <;> rfl

theorem reconcile_modules (uuid : Text) (world : World) :
    (world.reconcile uuid).modules = world.modules := by
  unfold World.reconcile
  cases reconcileEnabledModules uuid world.modules world.enabled <;> rfl

theorem reconcile_profile (uuid : Text) (world : World) :
    (world.reconcile uuid).profile = (world.reconcile uuid).enabled ∨
      (world.reconcile uuid).enabled = world.enabled ∧
        (world.reconcile uuid).profile = world.profile := by
  unfold World.reconcile
  cases reconcileEnabledModules uuid world.modules world.enabled with
  | none => exact Or.inr ⟨rfl, rfl⟩
  | some next => exact Or.inl rfl

/-- A result is that of the process that has ended; a time-out is never successful. -/
theorem poll_result (launches : PendingOp → Bool) (late : Bool) (world : World) :
    (world.runner.poll launches late).2.filter (·.ok) =
      (world.ended.map Prod.snd).filter (·.ok) := by
  unfold Runner.poll World.ended
  rcases world.runner with ⟨queue, _ | ⟨op, _ | exit⟩⟩
  · rfl
  · cases late <;> rfl
  · rfl

theorem polledEnabled_eq (launches : PendingOp → Bool) (late : Bool) (world : World) :
    world.polledEnabled = match (world.runner.poll launches late).2 with
      | some result =>
        if result.ok then reconciled result.installedUuid world.modules world.enabled
        else world.enabled
      | none => world.enabled := by
  have same := poll_result launches late world
  unfold World.polledEnabled
  cases ended : world.ended with
  | none =>
    rw [ended] at same
    cases polled : (world.runner.poll launches late).2 with
    | none => rfl
    | some result =>
      rw [polled] at same
      cases ok : result.ok with
      | false => simp [ok]
      | true => simp [Option.filter, ok] at same
  | some pair =>
    obtain ⟨op, result⟩ := pair
    rw [ended] at same
    cases polled : (world.runner.poll launches late).2 with
    | none =>
      rw [polled] at same
      cases ok : result.ok with
      | false => simp [ok]
      | true => simp [Option.filter, ok] at same
    | some other =>
      rw [polled] at same
      cases ok : result.ok <;> cases otherOk : other.ok <;>
        simp [Option.filter, ok, otherOk] at same ⊢
      rw [same]

theorem Polled.of_same {world after : World} (list : world.polledEnabled = world.enabled)
    (modules : after.modules = world.modules) (enabled : after.enabled = world.enabled)
    (profile : after.profile = world.profile) : Polled world after :=
  ⟨modules, enabled.trans list.symm, Or.inr ⟨enabled, profile⟩⟩

theorem Polled.of_reconcile {world refreshed : World} {uuid : Text}
    (list : world.polledEnabled = reconciled uuid world.modules world.enabled)
    (modules : refreshed.modules = world.modules) (enabled : refreshed.enabled = world.enabled)
    (profile : refreshed.profile = world.profile) : Polled world (refreshed.reconcile uuid) := by
  refine ⟨(reconcile_modules uuid refreshed).trans modules, ?_, ?_⟩
  · rw [reconcile_enabled, modules, enabled, list]
  · rw [← enabled, ← profile]
    exact reconcile_profile uuid refreshed

theorem tick_polled (launches : PendingOp → Bool) (late : Bool) (world : World) :
    Polled world (world.tick launches late) := by
  have list := polledEnabled_eq launches late world
  unfold World.tick
  dsimp only
  cases polled : (world.runner.poll launches late).2 with
  | none =>
    rw [polled] at list
    exact Polled.of_same list rfl rfl rfl
  | some result =>
    rw [polled] at list
    dsimp only at list ⊢
    split
    · rename_i ok
      exact Polled.of_reconcile (list.trans (if_pos ok)) rfl rfl rfl
    · rename_i bad
      exact Polled.of_same (list.trans (if_neg bad)) rfl rfl rfl

theorem drawSources_polled (launches : PendingOp → Bool) (late : Bool) (world : World) :
    Polled world (world.drawSources launches late) := by
  have list := polledEnabled_eq launches late world
  unfold World.drawSources
  dsimp only
  cases polled : (world.runner.poll launches late).2 with
  | none =>
    rw [polled] at list
    exact Polled.of_same list rfl rfl rfl
  | some result =>
    rw [polled] at list
    dsimp only at list ⊢
    split
    · rename_i ok
      exact Polled.of_reconcile (list.trans (if_pos ok)) rfl rfl rfl
    · rename_i bad
      exact Polled.of_same (list.trans (if_neg bad)) rfl rfl rfl

/-- Taking the modules of a source out leaves a part of the list. -/
theorem disable_sublist (entries : List InstalledModule) (enabled : List Text) :
    (entries.foldl (fun next entry => next.filter (· ≠ entry.uuid)) enabled).Sublist enabled := by
  induction entries generalizing enabled with
  | nil => exact List.Sublist.refl enabled
  | cons entry rest inductionHypothesis =>
    exact (inductionHypothesis _).trans List.filter_sublist

theorem disableModulesFromSource_shrinks (sourceId : Text) (world : World) :
    Shrinks world (world.disableModulesFromSource sourceId) := by
  unfold World.disableModulesFromSource
  split
  · exact Shrinks.of_eq rfl rfl
  · dsimp only
    split
    · exact ⟨Or.inl (disable_sublist _ _), Or.inl (disable_sublist _ _)⟩
    · exact Shrinks.of_eq rfl rfl

/-- The event is a poll. -/
def Event.polls : Event → Bool
  | .tick _ _ _ | .drawSources _ _ _ => true
  | _ => false

/-- A step is a poll, a click in the table, or leaves a part of what was there. -/
theorem step_cases {world after : World} {event : Event} (stepped : step world event = some after) :
    (event.polls = true ∧ Polled world after) ∨
      (∃ clicked, event = .click clicked ∧ after = world.drawInstalled clicked) ∨
      (event.polls = false ∧ (∀ clicked, event ≠ .click clicked) ∧ Shrinks world after) := by
  cases event with
  | tick now launches late =>
    obtain rfl := Option.some.inj stepped
    exact Or.inl ⟨rfl, tick_polled launches late world⟩
  | drawSources now launches late =>
    obtain rfl := Option.some.inj stepped
    exact Or.inl ⟨rfl, drawSources_polled launches late world⟩
  | click clicked => exact Or.inr (Or.inl ⟨clicked, rfl, (Option.some.inj stepped).symm⟩)
  | start now launches =>
    obtain rfl := Option.some.inj stepped
    exact Or.inr (Or.inr ⟨rfl, nofun, Or.inr List.filter_sublist, Or.inr (List.Sublist.refl _)⟩)
  | save =>
    obtain rfl := Option.some.inj stepped
    exact Or.inr (Or.inr
      ⟨rfl, nofun, Or.inl (List.Sublist.refl _), Or.inl (List.Sublist.refl _)⟩)
  | refresh | touch modules =>
    obtain rfl := Option.some.inj stepped
    exact Or.inr (Or.inr ⟨rfl, nofun, Shrinks.of_eq rfl rfl⟩)
  | setAutoUpdate index on =>
    refine Or.inr (Or.inr ⟨rfl, nofun, ?_⟩)
    dsimp only [step] at stepped
    split at stepped
    · split at stepped
      · obtain rfl := Option.some.inj stepped
        exact Shrinks.of_eq rfl rfl
      · cases stepped
    · cases stepped
  | sync index launches =>
    refine Or.inr (Or.inr ⟨rfl, nofun, ?_⟩)
    dsimp only [step] at stepped
    split at stepped
    · split at stepped
      · cases stepped
      · obtain rfl := Option.some.inj stepped
        exact Shrinks.of_eq rfl rfl
    · cases stepped
  | remove index launches =>
    refine Or.inr (Or.inr ⟨rfl, nofun, ?_⟩)
    dsimp only [step] at stepped
    split at stepped
    · rename_i source _
      split at stepped
      · cases stepped
      · obtain rfl := Option.some.inj stepped
        have shrinks := disableModulesFromSource_shrinks source.id world
        exact ⟨shrinks.enabled, shrinks.profile⟩
    · cases stepped
  | addFolder id path launches =>
    refine Or.inr (Or.inr ⟨rfl, nofun, ?_⟩)
    dsimp only [step] at stepped
    split at stepped
    · cases stepped
    · obtain rfl := Option.some.inj stepped
      exact Shrinks.of_eq rfl rfl
  | addGitHub id ownerRepo launches =>
    refine Or.inr (Or.inr ⟨rfl, nofun, ?_⟩)
    dsimp only [step] at stepped
    split at stepped
    · cases stepped
    · obtain rfl := Option.some.inj stepped
      exact Shrinks.of_eq rfl rfl
  | exit outside =>
    refine Or.inr (Or.inr ⟨rfl, nofun, ?_⟩)
    dsimp only [step] at stepped
    split at stepped
    · obtain rfl := Option.some.inj stepped
      exact Shrinks.of_eq rfl rfl
    · cases stepped
  | crash modules code =>
    refine Or.inr (Or.inr ⟨rfl, nofun, ?_⟩)
    dsimp only [step] at stepped
    split at stepped
    · obtain rfl := Option.some.inj stepped
      exact Shrinks.of_eq rfl rfl
    · cases stepped

/-! ### Clicks -/

/-- A click turns the rows that were clicked and leaves the others. -/
theorem mem_clicks (current rows next : List Text) (uuid : Text) :
    uuid ∈ rows.foldl (clickRow current) next ↔
      if uuid ∈ rows then uuid ∉ current else uuid ∈ next := by
  induction rows generalizing next with
  | nil => simp
  | cons row rest inductionHypothesis =>
    rw [List.foldl_cons, inductionHypothesis]
    by_cases later : uuid ∈ rest
    · simp [later]
    · by_cases same : uuid = row
      · subst same
        unfold clickRow
        by_cases old : uuid ∈ current
        · simp [later, old]
        · by_cases known : uuid ∈ next
          · simp [later, old, known]
          · simp [later, old, known]
      · unfold clickRow
        by_cases old : row ∈ current
        · simp [later, old, same]
        · by_cases known : row ∈ next
          · simp [later, old, known, same]
          · simp [later, old, known, same]

theorem clicks_nodup (current rows : List Text) {next : List Text} (distinct : next.Nodup) :
    (rows.foldl (clickRow current) next).Nodup := by
  induction rows generalizing next with
  | nil => exact distinct
  | cons row rest inductionHypothesis =>
    refine inductionHypothesis ?_
    unfold clickRow
    split
    · split
      · exact distinct
      · rename_i absent
        refine List.nodup_append.mpr ⟨distinct, List.nodup_singleton row, ?_⟩
        rintro entry member other single rfl
        exact absent (List.mem_singleton.mp single ▸ member)
    · exact distinct.filter _

/-- The record after clicks: what was clicked is switched off if it was enabled. -/
theorem off_mem_recordRows (enabled rows : List Text) (choices : List Choice) (uuid : Text) :
    .off uuid ∈ rows.foldl (recordRow enabled) choices ↔
      if uuid ∈ rows then uuid ∈ enabled else .off uuid ∈ choices := by
  induction rows generalizing choices with
  | nil => simp
  | cons row rest inductionHypothesis =>
    rw [List.foldl_cons, inductionHypothesis]
    by_cases later : uuid ∈ rest
    · simp [later]
    · unfold recordRow
      by_cases same : uuid = row
      · subst same
        by_cases old : uuid ∈ enabled
        · simp [later, old]
        · simp [later, old]
      · by_cases old : row ∈ enabled
        · simp [later, old, same]
        · simp [later, old, same]

theorem drawInstalled_enabled (clicked : InstalledModule → Bool) (world : World) :
    (world.drawInstalled clicked).enabled =
      (world.clickedRows clicked).foldl (clickRow world.enabled) world.enabled := by
  unfold World.drawInstalled
  cases world.clickedRows clicked <;> rfl

theorem drawInstalled_profile (clicked : InstalledModule → Bool) (world : World) :
    (world.drawInstalled clicked).profile = (world.drawInstalled clicked).enabled ∨
      world.clickedRows clicked = [] ∧ (world.drawInstalled clicked).profile = world.profile := by
  unfold World.drawInstalled
  cases world.clickedRows clicked with
  | nil => exact Or.inr ⟨rfl, rfl⟩
  | cons row rest => exact Or.inl rfl

/-! ### No module is enabled twice -/

/-- Neither the list nor its saved copy repeats a module. -/
structure Distinct (world : World) : Prop where
  enabled : world.enabled.Nodup
  profile : world.profile.Nodup

theorem Distinct.sublist {world : World} (distinct : Distinct world) {uuids : List Text}
    (part : uuids.Sublist world.enabled ∨ uuids.Sublist world.profile) : uuids.Nodup := by
  rcases part with part | part
  · exact part.nodup distinct.enabled
  · exact part.nodup distinct.profile

theorem polledEnabled_nodup {world : World} (distinct : Distinct world) :
    world.polledEnabled.Nodup := by
  unfold World.polledEnabled
  split
  · split
    · exact reconciled_nodup _ _ distinct.enabled
    · exact distinct.enabled
  · exact distinct.enabled

theorem step_distinct {world after : World} {event : Event} (distinct : Distinct world)
    (stepped : step world event = some after) : Distinct after := by
  rcases step_cases stepped with ⟨_, polled⟩ | ⟨clicked, rfl, rfl⟩ | ⟨_, _, shrinks⟩
  · have enabled : after.enabled.Nodup := polled.enabled ▸ polledEnabled_nodup distinct
    refine ⟨enabled, ?_⟩
    rcases polled.profile with same | ⟨_, same⟩
    · exact same ▸ enabled
    · exact same ▸ distinct.profile
  · have enabled : (world.drawInstalled clicked).enabled.Nodup := by
      rw [drawInstalled_enabled]
      exact clicks_nodup _ _ distinct.enabled
    refine ⟨enabled, ?_⟩
    rcases drawInstalled_profile clicked world with same | ⟨_, same⟩
    · exact same ▸ enabled
    · exact same ▸ distinct.profile
  · exact ⟨distinct.sublist shrinks.enabled, distinct.sublist shrinks.profile⟩

theorem reached_distinct {watched : Watched}
    (reached : Reaches watch (fun _ _ => True) {} watched) : Distinct watched.world := by
  induction reached with
  | start => exact ⟨List.nodup_nil, List.nodup_nil⟩
  | next event _ _ stepped inductionHypothesis =>
    obtain ⟨world, ran, rfl⟩ := Option.map_eq_some_iff.mp stepped
    exact step_distinct inductionHypothesis ran

/-! ### The choice -/

/-- Neither the list nor its saved copy holds a module the user switched off. -/
def Watched.Held (watched : Watched) : Prop :=
  ∀ uuid, .off uuid ∈ watched.choices →
    uuid ∉ watched.world.enabled ∧ uuid ∉ watched.world.profile

/-- A poll only takes modules out of the record, and only the one that was delivered. -/
theorem off_mem_record_poll {watched : Watched} {event : Event} (polls : event.polls = true)
    (uuid : Text) : .off uuid ∈ record watched event ↔
      .off uuid ∈ watched.choices ∧ ∀ op result, watched.world.ended = some (op, result) →
        result.ok = true → AddedSince watched.choices op.sourceId result.installedUuid →
          uuid ≠ result.installedUuid := by
  have poll : record watched event = match watched.world.ended with
      | some (op, result) =>
        if result.ok ∧ AddedSince watched.choices op.sourceId result.installedUuid then
          watched.choices.filter (· ≠ .off result.installedUuid)
        else watched.choices
      | none => watched.choices := by
    cases event with
    | tick now launches late | drawSources now launches late => rfl
    | start | save | refresh | click | setAutoUpdate | sync | remove | addFolder | addGitHub | exit
    | crash | touch => cases polls
  rw [poll]
  cases ended : watched.world.ended with
  | none => simp
  | some pair =>
    obtain ⟨op, result⟩ := pair
    dsimp only
    split
    · rename_i delivered
      rw [List.mem_filter, decide_eq_true_iff]
      constructor
      · rintro ⟨member, other⟩
        refine ⟨member, ?_⟩
        rintro _ _ ⟨⟩ _ _ same
        exact other (congrArg Choice.off same)
      · rintro ⟨member, other⟩
        exact ⟨member, fun same =>
          other op result rfl delivered.1 delivered.2 (Choice.off.inj same)⟩
    · rename_i kept
      constructor
      · intro member
        refine ⟨member, ?_⟩
        rintro _ _ ⟨⟩ ok added
        exact absurd ⟨ok, added⟩ kept
      · exact fun member => member.1

/-- A step that is neither a poll nor a click switches nothing off. -/
theorem off_mem_record_other {watched : Watched} {event : Event} (polls : event.polls = false)
    (click : ∀ clicked, event ≠ .click clicked) (uuid : Text) :
    .off uuid ∈ record watched event ↔ .off uuid ∈ watched.choices := by
  cases event with
  | tick | drawSources => cases polls
  | click clicked => exact absurd rfl (click clicked)
  | addFolder | addGitHub => exact List.mem_cons.trans (or_iff_right fun same => nomatch same)
  | start | save | refresh | setAutoUpdate | sync | remove | exit | crash | touch => rfl

/-- The condition at a poll, read out. -/
theorem namesEnabled_poll {watched : Watched} {event : Event} (polls : event.polls = true) :
    NamesEnabled watched event ↔ ∀ op result, watched.world.ended = some (op, result) →
      result.ok = true → Names result.installedUuid watched.world.modules →
        result.installedUuid ∈ watched.world.enabled ∨
          (.off result.installedUuid ∈ watched.choices →
            AddedSince watched.choices op.sourceId result.installedUuid) ∧
          (op.action = .update → watched.world.first = none) := by
  have poll : NamesEnabled watched event ↔ match watched.world.ended with
      | some (op, result) =>
        result.ok ∧ Names result.installedUuid watched.world.modules →
          result.installedUuid ∈ watched.world.enabled ∨
            (.off result.installedUuid ∈ watched.choices →
              AddedSince watched.choices op.sourceId result.installedUuid) ∧
            (op.action = .update → watched.world.first = none)
      | none => True := by
    cases event with
    | tick now launches late | drawSources now launches late => rfl
    | start | save | refresh | click | setAutoUpdate | sync | remove | addFolder | addGitHub | exit
    | crash | touch => cases polls
  rw [poll]
  cases watched.world.ended with
  | none => exact ⟨fun _ _ _ found => absurd found (Option.some_ne_none _).symm, fun _ => trivial⟩
  | some pair =>
    obtain ⟨op, result⟩ := pair
    constructor
    · rintro named _ _ ⟨⟩ ok names
      exact named ⟨ok, names⟩
    · exact fun named both => named op result rfl both.1 both.2

theorem polledEnabled_ok {world : World} {op : PendingOp} {result : SyncResult}
    (ended : world.ended = some (op, result)) (ok : result.ok = true) :
    world.polledEnabled = reconciled result.installedUuid world.modules world.enabled := by
  unfold World.polledEnabled
  rw [ended]
  exact if_pos ok

/-- What a poll adds to the list is the installed module of a successful result. -/
theorem mem_polledEnabled {world : World} {uuid : Text} (member : uuid ∈ world.polledEnabled) :
    uuid ∈ world.enabled ∨ ∃ op result, world.ended = some (op, result) ∧ result.ok = true ∧
      result.installedUuid = uuid ∧ Names uuid world.modules ∧ uuid ∉ world.enabled := by
  unfold World.polledEnabled at member
  split at member
  · rename_i op result ended
    split at member
    · rename_i ok
      rcases mem_reconciled member with old | ⟨rfl, named, absent⟩
      · exact Or.inl old
      · exact Or.inr ⟨op, result, ended, ok, rfl, named, absent⟩
    · exact Or.inl member
  · exact Or.inl member

/-- Under the condition a poll puts back nothing that was switched off. -/
theorem poll_kept {watched : Watched} {event : Event} (polls : event.polls = true)
    (named : NamesEnabled watched event) (held : watched.Held) (uuid : Text)
    (off : .off uuid ∈ record watched event) : uuid ∉ watched.world.polledEnabled := by
  intro member
  obtain ⟨before, spared⟩ := (off_mem_record_poll polls uuid).mp off
  rcases mem_polledEnabled member with old | ⟨op, result, ended, ok, rfl, names, absent⟩
  · exact (held uuid before).1 old
  · rcases (namesEnabled_poll polls).mp named op result ended ok names with known | ⟨added, _⟩
    · exact absent known
    · exact spared op result ended ok (added before) rfl

theorem watch_held {watched after : Watched} {event : Event} (held : watched.Held)
    (named : NamesEnabled watched event) (stepped : watch watched event = some after) :
    after.Held := by
  obtain ⟨world, ran, rfl⟩ := Option.map_eq_some_iff.mp stepped
  intro uuid off
  dsimp only at off ⊢
  rcases step_cases ran with ⟨polls, polled⟩ | ⟨clicked, rfl, rfl⟩ | ⟨polls, click, shrinks⟩
  · have absent : uuid ∉ world.enabled := by
      rw [polled.enabled]
      exact poll_kept polls named held uuid off
    refine ⟨absent, ?_⟩
    rcases polled.profile with same | ⟨_, same⟩
    · exact same ▸ absent
    · exact same ▸ (held uuid ((off_mem_record_poll polls uuid).mp off).1).2
  · have clickedOff := (off_mem_recordRows _ _ _ uuid).mp off
    have absent : uuid ∉ (watched.world.drawInstalled clicked).enabled := by
      rw [drawInstalled_enabled, mem_clicks]
      split at clickedOff
      · rename_i row
        rw [if_pos row]
        exact not_not_intro clickedOff
      · rename_i row
        rw [if_neg row]
        exact (held uuid clickedOff).1
    refine ⟨absent, ?_⟩
    rcases drawInstalled_profile clicked watched.world with same | ⟨none, same⟩
    · exact same ▸ absent
    · rw [none, if_neg List.not_mem_nil] at clickedOff
      exact same ▸ (held uuid clickedOff).2
  · obtain ⟨enabled, profile⟩ := held uuid ((off_mem_record_other polls click uuid).mp off)
    constructor
    · intro member
      rcases shrinks.enabled with part | part
      · exact enabled (part.subset member)
      · exact profile (part.subset member)
    · intro member
      rcases shrinks.profile with part | part
      · exact enabled (part.subset member)
      · exact profile (part.subset member)

/-- The update a poll consumes. -/
theorem consumesUpdate_ended {world : World} {event : Event}
    (updates : world.consumesUpdate event = true) : event.polls = true ∧
      ∃ op result, world.ended = some (op, result) ∧ op.action = .update := by
  cases event with
  | tick now launches late | drawSources now launches late =>
    obtain ⟨⟨op, result⟩, ended, update⟩ := (Option.any_eq_true _ _).mp updates
    exact ⟨rfl, op, result, ended, of_decide_eq_true update⟩
  | start | save | refresh | click | setAutoUpdate | sync | remove | addFolder | addGitHub | exit
  | crash | touch => cases updates

/-- Under the condition an update leaves the first module first. -/
theorem watch_keepsFirst {watched after : Watched} {event : Event}
    (named : NamesEnabled watched event) (stepped : watch watched event = some after) :
    KeepsFirst watched.world event after.world := by
  obtain ⟨world, ran, rfl⟩ := Option.map_eq_some_iff.mp stepped
  intro updates first before
  obtain ⟨polls, op, result, ended, update⟩ := consumesUpdate_ended updates
  rcases step_cases ran with ⟨_, polled⟩ | ⟨clicked, rfl, _⟩ | ⟨other, _, _⟩
  · unfold World.first
    rw [polled.modules, polled.enabled, ← Option.mem_def.mp before]
    cases ok : result.ok with
    | false =>
      have same : watched.world.polledEnabled = watched.world.enabled := by
        unfold World.polledEnabled
        rw [ended]
        exact if_neg (ok ▸ Bool.false_ne_true)
      rw [same]
      rfl
    | true =>
      rw [polledEnabled_ok ended ok]
      refine reconciled_first fun names => ?_
      rcases (namesEnabled_poll polls).mp named op result ended ok names with known | ⟨_, none⟩
      · exact known
      · rw [none update] at before
        cases before
  · cases polls
  · rw [polls] at other
    cases other

/-- A poll that does not meet the condition puts a module back or changes the first one. -/
theorem namesEnabled_of_kept {watched after : Watched} {event : Event}
    (stepped : watch watched event = some after) (kept : after.Kept)
    (first : KeepsFirst watched.world event after.world) : NamesEnabled watched event := by
  obtain ⟨world, ran, rfl⟩ := Option.map_eq_some_iff.mp stepped
  rcases step_cases ran with ⟨polls, polled⟩ | ⟨clicked, rfl, _⟩ | ⟨polls, _, _⟩
  · refine (namesEnabled_poll polls).mpr fun op result ended ok names => ?_
    by_cases known : result.installedUuid ∈ watched.world.enabled
    · exact Or.inl known
    have list : world.enabled =
        reconciled result.installedUuid watched.world.modules watched.world.enabled :=
      polled.enabled.trans (polledEnabled_ok ended ok)
    refine Or.inr ⟨fun off => ?_, fun update => ?_⟩
    · by_contra missing
      refine kept result.installedUuid ?_ ?_
      · refine (off_mem_record_poll polls _).mpr ⟨off, ?_⟩
        rintro _ _ found _ added
        obtain ⟨rfl, rfl⟩ := Prod.mk.inj (Option.some.inj (ended.symm.trans found))
        exact absurd added missing
      · dsimp only
        rw [list, reconciled_new names known]
        exact List.mem_cons_self
    · cases before : watched.world.first with
      | none => rfl
      | some old =>
        have updates : watched.world.consumesUpdate event = true := by
          cases event with
          | tick now launches late | drawSources now launches late =>
            exact (Option.any_eq_true _ _).mpr ⟨_, ended, decide_eq_true update⟩
          | start | save | refresh | click | setAutoUpdate | sync | remove | addFolder | addGitHub
          | exit | crash | touch => cases polls
        have after := first updates old before
        unfold World.first at after
        dsimp only at after
        rw [polled.modules, list, reconciled_new_first names known] at after
        obtain rfl := Option.some.inj after
        have member := List.mem_of_mem_head? (Option.mem_def.mpr before)
        exact absurd (List.mem_of_mem_filter member) known
  · exact trivial
  · cases event with
    | tick | drawSources => cases polls
    | start | save | refresh | click | setAutoUpdate | sync | remove | addFolder | addGitHub | exit
    | crash | touch => trivial

/-! ### Whole runs -/

/-- Every run: no module is enabled twice. In a run whose polls all meet the condition, no module
the user switched off is enabled; and the next step puts none back and leaves the first module first
exactly when it meets the condition too. -/
theorem choice_survives_iff (watched : Watched) :
    (Reaches watch (fun _ _ => True) {} watched → watched.world.enabled.Nodup) ∧
      (Reaches watch NamesEnabled {} watched → watched.Kept ∧
        ∀ event after, watch watched event = some after →
          (after.Kept ∧ KeepsFirst watched.world event after.world ↔
            NamesEnabled watched event)) := by
  constructor
  · intro reached
    exact (reached_distinct reached).enabled
  · intro reached
    have held : watched.Held := by
      refine reached.invariant (fun uuid off => absurd off List.not_mem_nil) ?_
      intro before event after held named stepped
      exact watch_held held named stepped
    refine ⟨fun uuid off => (held uuid off).1, fun event after stepped => ?_⟩
    constructor
    · rintro ⟨kept, first⟩
      exact namesEnabled_of_kept stepped kept first
    · intro named
      exact ⟨fun uuid off => (watch_held held named stepped uuid off).1,
        watch_keepsFirst named stepped⟩

/-! ### Runs on given inputs -/

/-- Every process starts. -/
def launched (_ : PendingOp) : Bool := true

/-- A repository is added, and its first release is installed. -/
def installRelease (id ownerRepo uuid : Text) : List Event :=
  [.addGitHub id ownerRepo launched,
    .exit { release := some ⟨ascii "v1", some { manifest := some ⟨uuid, ascii "1.0"⟩ }⟩ },
    .tick 0 launched false]

/-- Two modules are installed, and the first one is switched off. -/
def firstSwitchedOff : List Event :=
  [.refresh] ++ installRelease (ascii "s1") (ascii "o/a") (ascii "A") ++
    installRelease (ascii "s2") (ascii "o/b") (ascii "B") ++
    [.refresh, .click fun entry => entry.uuid = ascii "A"]

/-- A run that meets the condition: what was switched off stays off over a restart, and the next
step keeps the choice exactly if it meets the condition. -/
theorem choice_survives_restart :
    ∃ watched, Reaches watch NamesEnabled {} watched ∧ .off (ascii "A") ∈ watched.choices ∧
      watched.world.enabled = [ascii "B"] ∧ ascii "A" ∉ watched.world.enabled ∧
      ∀ after, watch watched (.tick 200 launched false) = some after →
        (after.Kept ∧ KeepsFirst watched.world (.tick 200 launched false) after.world ↔
          NamesEnabled watched (.tick 200 launched false)) := by
  obtain ⟨watched, reached, off, enabled⟩ :
      ∃ watched, Reaches watch NamesEnabled {} watched ∧ .off (ascii "A") ∈ watched.choices ∧
        watched.world.enabled = [ascii "B"] :=
    reaches_evaluates (firstSwitchedOff ++ [.start 100 launched]) (by decide +kernel)
  obtain ⟨kept, exact⟩ := (choice_survives_iff watched).2 reached
  exact ⟨watched, reached, off, enabled, kept _ off, fun after => exact _ after⟩

/-- The next start updates the module that was switched off. -/
def disabledModuleUpdates : List Event :=
  firstSwitchedOff ++ [.start 100 launched,
    .exit { release := some ⟨ascii "v1", some { manifest := some ⟨ascii "A", ascii "1.0"⟩ }⟩ }]

/-- The user has switched a module off and another comes first. The update of the next start finds
no new release, and the tick that consumes its result enables the module again, in front of the
other. -/
theorem disabled_module_is_put_back :
    ∃ before after, Reaches watch (fun _ _ => True) {} before ∧
      watch before (.tick 200 launched false) = some after ∧
      .off (ascii "A") ∈ after.choices ∧ ascii "A" ∈ after.world.enabled ∧
      before.world.consumesUpdate (.tick 200 launched false) = true ∧
      before.world.first = some (ascii "B") ∧ after.world.first = some (ascii "A") := by
  obtain ⟨before, reached, off, enabled, updates, first, second⟩ :
      ∃ before : Watched, Reaches watch (fun _ _ => True) {} before ∧
        .off (ascii "A") ∈ record before (.tick 200 launched false) ∧
        ascii "A" ∈ (before.world.tick launched false).enabled ∧
        before.world.consumesUpdate (.tick 200 launched false) = true ∧
        before.world.first = some (ascii "B") ∧
        (before.world.tick launched false).first = some (ascii "A") :=
    reaches_evaluates disabledModuleUpdates (by decide +kernel)
  exact ⟨before, _, reached, rfl, off, enabled, updates, first, second⟩

end PairDriver.ModuleSync
