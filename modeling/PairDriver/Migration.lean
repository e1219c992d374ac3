/-
This file models the first-launch migration of the overlay: the copy of the
AppData tree, the copy of the calibration registry key, and the port that moves
from the face-tracking profile to the router profile. Every call that can fail
has an outcome of its own, and a copy of many entries one for each entry.

What is copied is the list of the entries in the order in which the copy comes to
them; the destination is a map from paths to entries. The reader and the writer
of JSON texts are parameters; the proofs rely on one fact about them, that an
object is read back from the text written for it.
-/

import PairDriver.ProfileStore

namespace PairDriver.Migration

open PairDriver.Configuration

abbrev Path := List String

/-! ### Copying entries -/

/-- A tree to be copied: its entries below the root, each path once. -/
structure Tree (Datum : Type) where
  entries : List (Path × Datum)
  distinct : (entries.map Prod.fst).Nodup

section Copy

variable {Datum : Type}

/-- Copies entry after entry up to the first that fails. An entry that exists already is overwritten
or skipped. -/
def copyEntries (overwrite : Bool) (copies : Path → Bool) :
    List (Path × Datum) → (Path → Option Datum) → Path → Option Datum
  | [], target => target
  | (path, datum) :: rest, target =>
    if copies path then
      copyEntries overwrite copies rest
        (if overwrite || (target path).isNone then Function.update target path (some datum)
        else target)
    else target

/-- Every entry is at the destination. -/
def Holds (entries : List (Path × Datum)) (target : Path → Option Datum) : Prop :=
  ∀ entry ∈ entries, target entry.1 = some entry.2

theorem copyEntries_other (overwrite : Bool) (copies : Path → Bool)
    {entries : List (Path × Datum)} {path : Path} (absent : path ∉ entries.map Prod.fst)
    (target : Path → Option Datum) :
    copyEntries overwrite copies entries target path = target path := by
  induction entries generalizing target with
  | nil => rfl
  | cons entry rest inductionHypothesis =>
    obtain ⟨own, datum⟩ := entry
    rw [List.map_cons, List.mem_cons, not_or] at absent
    rw [copyEntries]
    split
    · rw [inductionHypothesis absent.2]
      split
      · rw [Function.update_of_ne absent.1]
      · rfl
    · rfl

/-- A copy to where none of the entries is yet is complete exactly when no call fails. -/
theorem holds_copyEntries_iff (overwrite : Bool) (copies : Path → Bool)
    {entries : List (Path × Datum)} (distinct : (entries.map Prod.fst).Nodup)
    {target : Path → Option Datum} (fresh : ∀ entry ∈ entries, target entry.1 = none) :
    Holds entries (copyEntries overwrite copies entries target) ↔
      ∀ entry ∈ entries, copies entry.1 = true := by
  induction entries generalizing target with
  | nil => exact ⟨fun _ => List.forall_mem_nil _, fun _ => List.forall_mem_nil _⟩
  | cons entry rest inductionHypothesis =>
    obtain ⟨path, datum⟩ := entry
    rw [List.map_cons, List.nodup_cons] at distinct
    rw [List.forall_mem_cons] at fresh
    unfold Holds at inductionHypothesis ⊢
    rw [List.forall_mem_cons, List.forall_mem_cons, copyEntries]
    by_cases copied : copies path = true
    · have stored : (if overwrite || (target path).isNone then
          Function.update target path (some datum) else target) =
          Function.update target path (some datum) := by
        rw [fresh.1, Option.isNone_none, Bool.or_true, if_pos rfl]
      rw [if_pos copied, stored, copyEntries_other overwrite copies distinct.1,
        Function.update_self, inductionHypothesis distinct.2]
      · exact ⟨fun both => ⟨copied, both.2⟩, fun both => ⟨rfl, both.2⟩⟩
      · intro later member
        have other : later.1 ≠ path := fun same =>
          distinct.1 (List.mem_map.mpr ⟨later, member, same⟩)
        rw [Function.update_of_ne other]
        exact fresh.2 later member
    · rw [if_neg copied]
      refine ⟨fun both => ?_, fun both => absurd both.1 copied⟩
      rw [fresh.1] at both
      cases both.1

/-- A copy of a tree into an empty destination is complete exactly when no call fails. -/
theorem Tree.holds_copy_iff (overwrite : Bool) (copies : Path → Bool) (tree : Tree Datum) :
    Holds tree.entries (copyEntries overwrite copies tree.entries fun _ => none) ↔
      ∀ entry ∈ tree.entries, copies entry.1 = true :=
  holds_copyEntries_iff overwrite copies tree.distinct fun _ _ => rfl

theorem holds_empty_iff (entries : List (Path × Datum)) :
    Holds entries (fun _ => none) ↔ entries = [] := by
  cases entries with
  | nil => exact ⟨fun _ => rfl, fun _ => List.forall_mem_nil _⟩
  | cons entry rest =>
    refine ⟨fun holds => ?_, fun empty => absurd empty (List.cons_ne_nil _ _)⟩
    cases holds entry List.mem_cons_self

end Copy

/-! ### The world -/

inductive Entry (Text : Type) where
  | directory
  | file (content : Text)
deriving DecidableEq

abbrev Files (Text : Type) := Path → Option (Entry Text)

/-- What the migration reads and writes: the two AppData trees and the two registry keys. The paths
are relative to each. -/
structure World (Text Value : Type) where
  oldDir : Option (Tree (Entry Text))
  newDir : Option (Files Text)
  oldKey : Option (Tree Value)
  newKey : Option (Path → Option Value)

section Steps

variable {Text Value : Type}

/-! ### The AppData tree -/

structure AppDataOutcomes where
  resolved : Bool
  created : Bool
  copies : Path → Bool

/-- `MigrateAppData`. The recursive copy creates the new directory first. -/
def migrateAppData (outcomes : AppDataOutcomes) (world : World Text Value) : World Text Value :=
  if !outcomes.resolved then world
  else if world.newDir.isSome then world
  else match world.oldDir with
    | none => world
    | some tree =>
      if outcomes.created then
        { world with
          newDir := some (copyEntries false outcomes.copies tree.entries fun _ => none) }
      else world

/-! ### The registry key -/

structure RegistryOutcomes where
  openedNew : Bool
  openedOld : Bool
  created : Bool
  reopenedOld : Bool
  copies : Path → Bool

/-- `MigrateScRegistryKey`. Creating a key that exists opens it. -/
def migrateScRegistryKey (outcomes : RegistryOutcomes) (world : World Text Value) :
    World Text Value :=
  if world.newKey.isSome && outcomes.openedNew then world
  else match world.oldKey with
    | none => world
    | some tree =>
      if !outcomes.openedOld then world
      else if !outcomes.created then world
      else
        let created := world.newKey.getD fun _ => none
        if outcomes.reopenedOld then
          { world with newKey := some (copyEntries true outcomes.copies tree.entries created) }
        else { world with newKey := some created }

/-! ### The port of the face-tracking profile -/

abbrev Object := List (String × Json Rat)

/-- The reader and the writer of JSON texts. -/
structure JsonText (Text : Type) where
  parseObject : Text → Option Object
  serialize : Object → Text

def setField (object : Object) (key : String) (value : Json Rat) : Object :=
  (key, value) :: object.filter fun entry => entry.1 ≠ key

def boolAt (object : Object) (key : String) (fallback : Bool) : Bool :=
  match field object key with
  | .bool value => value
  | _ => fallback

/-- `IntAt`: the conversion to int drops the fraction. -/
def intAt (object : Object) (key : String) (fallback : Int) : Int :=
  match field object key with
  | .number value => value.num.tdiv value.den
  | _ => fallback

structure WriteOutcome where
  created : Bool
  written : Bool
  moved : Bool

def WriteOutcome.committed (outcome : WriteOutcome) : Bool :=
  outcome.created && outcome.written && outcome.moved

structure OscPortOutcomes where
  resolved : Bool
  readProfile : Bool
  readRouter : Bool
  rereadRouter : Bool
  writeRouter : WriteOutcome
  rereadProfile : Bool
  writeProfile : WriteOutcome

def ftPath : Path := ["profiles", "facetracking.json"]
def ftTmpPath : Path := ["profiles", "facetracking.json.tmp"]
def orPath : Path := ["profiles", "oscrouter.json"]
def orTmpPath : Path := ["profiles", "oscrouter.json.tmp"]

/-- A port that is neither the default nor out of range. -/
def isConfigured (port : Int) : Bool :=
  !(port = 9000 || port ≤ 0 || 65535 < port)

/-- Writes a text beside a file and moves it over the file. A text that is not written in full is
deleted again; whether the move succeeds is not looked at. -/
def replaceFile (outcome : WriteOutcome) (path tmpPath : Path) (body : Text) (files : Files Text) :
    Files Text :=
  if !outcome.created then files
  else if !outcome.written then Function.update files tmpPath none
  else if outcome.moved then
    Function.update (Function.update files tmpPath none) path (some (.file body))
  else Function.update files tmpPath (some (.file body))

variable (json : JsonText Text)

/-- The object in a file, if the file opens and holds one. -/
def readObject (opened : Bool) (path : Path) (files : Files Text) : Option Object :=
  match files path with
  | some (.file content) => if opened then json.parseObject content else none
  | _ => none

/-- The port of the router profile; the default where there is none. -/
def routerPort (opened : Bool) (files : Files Text) : Int :=
  match readObject json opened orPath files with
  | some object => intAt object "send_port" 9000
  | none => 9000

/-- Writes the port into the router profile, with the keys it has. -/
def writeRouterPort (outcomes : OscPortOutcomes) (port : Int) (files : Files Text) : Files Text :=
  let kept := (readObject json outcomes.rereadRouter orPath files).getD []
  replaceFile outcomes.writeRouter orPath orTmpPath
    (json.serialize (setField kept "send_port" (.number port))) files

/-- Writes the sentinel into the face-tracking profile. -/
def writeSentinel (outcomes : OscPortOutcomes) (files : Files Text) : Files Text :=
  match readObject json outcomes.rereadProfile ftPath files with
  | none => files
  | some root => replaceFile outcomes.writeProfile ftPath ftTmpPath
      (json.serialize (setField root "osc_migrated_to_router" (.bool true))) files

/-- The files of the new tree after `MigrateFtOscPort`. -/
def migratePort (outcomes : OscPortOutcomes) (files : Files Text) : Files Text :=
  match readObject json outcomes.readProfile ftPath files with
  | none => files
  | some root =>
    if boolAt root "osc_migrated_to_router" false then files
    else
      let oldPort := intAt root "osc_port" 9000
      if !isConfigured oldPort then writeSentinel json outcomes files
      else if isConfigured (routerPort json outcomes.readRouter files) then
        writeSentinel json outcomes files
      else writeSentinel json outcomes (writeRouterPort json outcomes oldPort files)

/-- `MigrateFtOscPort`. The files are in the new tree; without it none of them opens. -/
def migrateFtOscPort (outcomes : OscPortOutcomes) (world : World Text Value) : World Text Value :=
  if !outcomes.resolved then world
  else { world with newDir := world.newDir.map (migratePort json outcomes) }

/-! ### A launch -/

structure Outcomes where
  appData : AppDataOutcomes
  registry : RegistryOutcomes
  oscPort : OscPortOutcomes

/-- The three steps of a launch. -/
def migrate (outcomes : Outcomes) (world : World Text Value) : World Text Value :=
  migrateFtOscPort json outcomes.oscPort
    (migrateScRegistryKey outcomes.registry (migrateAppData outcomes.appData world))

/-- Every call succeeds. -/
def allSucceed : Outcomes where
  appData := ⟨true, true, fun _ => true⟩
  registry := ⟨true, true, true, true, fun _ => true⟩
  oscPort := ⟨true, true, true, true, ⟨true, true, true⟩, true, ⟨true, true, true⟩⟩

/-! ### All or retry -/

/-- A step that found the new tree missing leaves it missing, or every entry of the old tree in
it. -/
def AppDataSettled (before after : World Text Value) : Prop :=
  before.newDir = none → after.newDir = none ∨
    ∀ tree, before.oldDir = some tree → ∃ files, after.newDir = some files ∧ Holds tree.entries files

/-- The same for the registry key. -/
def RegistrySettled (before after : World Text Value) : Prop :=
  before.newKey = none → after.newKey = none ∨
    ∀ tree, before.oldKey = some tree → ∃ values, after.newKey = some values ∧
      Holds tree.entries values

/-- The sentinel is in the face-tracking profile. -/
def Migrated (world : World Text Value) : Prop :=
  ∃ files root, world.newDir = some files ∧ readObject json true ftPath files = some root ∧
    boolAt root "osc_migrated_to_router" false = true

/-- The port the step is to carry over: the sentinel is not set, the face-tracking profile has a
port of its own and the router profile has none. -/
def ToCarry (world : World Text Value) (port : Int) : Prop :=
  ∃ files root, world.newDir = some files ∧ readObject json true ftPath files = some root ∧
    boolAt root "osc_migrated_to_router" false = false ∧ intAt root "osc_port" 9000 = port ∧
    isConfigured port = true ∧ isConfigured (routerPort json true files) = false

/-- A port that is to be carried over leaves the sentinel unset, or is in the router profile. -/
def OscPortSettled (before after : World Text Value) : Prop :=
  ∀ port, ToCarry json before port →
    ¬Migrated json after ∨ ∃ files, after.newDir = some files ∧ routerPort json true files = port

/-! ### The conditions -/

/-- Once the step creates the new tree, the copy of no entry fails. -/
def AppDataCopies (outcomes : AppDataOutcomes) (world : World Text Value) : Prop :=
  world.newDir = none → outcomes.resolved = true → outcomes.created = true →
    ∀ tree, world.oldDir = some tree → ∀ entry ∈ tree.entries, outcomes.copies entry.1 = true

/-- Once the step creates the new key, the old key opens again and the copy of no value fails, unless
there is nothing to copy. -/
def RegistryCopies (outcomes : RegistryOutcomes) (world : World Text Value) : Prop :=
  world.newKey = none → outcomes.openedOld = true → outcomes.created = true →
    ∀ tree, world.oldKey = some tree → tree.entries = [] ∨
      outcomes.reopenedOld = true ∧ ∀ entry ∈ tree.entries, outcomes.copies entry.1 = true

/-- When there is a port to carry over and the sentinel is committed, so is the router profile. -/
def PortCommits (outcomes : OscPortOutcomes) (world : World Text Value) : Prop :=
  ∀ port, ToCarry json world port → outcomes.resolved = true → outcomes.readProfile = true →
    outcomes.rereadProfile = true → outcomes.writeProfile.committed = true →
    outcomes.writeRouter.committed = true

/-- The objects the step writes: one that was read, or none, with the port or the sentinel set. -/
inductive Written : Object → Prop where
  | empty : Written []
  | read {text : Text} {object : Object} : json.parseObject text = some object → Written object
  | port {object : Object} (value : Int) : Written object → isConfigured value = true →
      Written (setField object "send_port" (.number value))
  | sentinel {object : Object} : Written object →
      Written (setField object "osc_migrated_to_router" (.bool true))

/-- What is written is read back, key by key. -/
def ReadsBack : Prop :=
  ∀ object, Written json object → ∃ parsed, json.parseObject (json.serialize object) = some parsed ∧
    ∀ key, field parsed key = field object key

/-! ### The two copies -/

theorem appDataSettled_iff (outcomes : AppDataOutcomes) (world : World Text Value) :
    AppDataSettled world (migrateAppData outcomes world) ↔ AppDataCopies outcomes world := by
  unfold AppDataSettled AppDataCopies
  refine forall_congr' fun missing => ?_
  unfold migrateAppData
  by_cases resolved : outcomes.resolved = true
  · cases old : world.oldDir with
    | none => simp [resolved, missing]
    | some tree =>
      by_cases created : outcomes.created = true
      · simp [resolved, missing, created, Tree.holds_copy_iff]
      · simp [resolved, missing, created]
  · simp [resolved, missing]

theorem registrySettled_iff (outcomes : RegistryOutcomes) (world : World Text Value) :
    RegistrySettled world (migrateScRegistryKey outcomes world) ↔ RegistryCopies outcomes world := by
  unfold RegistrySettled RegistryCopies
  refine forall_congr' fun missing => ?_
  unfold migrateScRegistryKey
  cases old : world.oldKey with
  | none => simp [missing]
  | some tree =>
    by_cases opened : outcomes.openedOld = true
    · by_cases created : outcomes.created = true
      · by_cases reopened : outcomes.reopenedOld = true
        · have nothing : tree.entries = [] → ∀ entry ∈ tree.entries, outcomes.copies entry.1 = true := by
            intro empty
            rw [empty]
            exact List.forall_mem_nil _
          simp only [missing, opened, created, reopened, Option.isSome_none, Bool.false_and,
            Bool.not_true, Bool.false_eq_true, if_false, if_true, Option.getD_none, true_imp_iff,
            true_and, reduceCtorEq, false_or, Option.some.injEq, forall_eq', exists_eq_left',
            Tree.holds_copy_iff]
          exact ⟨Or.inr, fun either => either.elim nothing fun copied => copied⟩
        · simp [missing, opened, created, reopened, holds_empty_iff]
      · simp [missing, opened, created]
    · simp [missing, opened]

/-! ### Reading and writing files -/

theorem readObject_of_file {files : Files Text} {path : Path} {content : Text}
    (found : files path = some (.file content)) :
    readObject json true path files = json.parseObject content := by
  rw [readObject, found]
  rfl

/-- A file that can be read is one that opens. -/
theorem readObject_opened {files : Files Text} {path : Path} {object : Object} {opened : Bool}
    (read : readObject json opened path files = some object) :
    opened = true ∧ ∃ content, files path = some (.file content) ∧
      json.parseObject content = some object := by
  unfold readObject at read
  split at read
  · rename_i content found
    cases opened with
    | false => cases read
    | true => exact ⟨rfl, content, found, read⟩
  · cases read

theorem readObject_closed (path : Path) (files : Files Text) :
    readObject json false path files = none := by
  cases read : readObject json false path files with
  | none => rfl
  | some object => exact absurd (readObject_opened json read).1 Bool.false_ne_true

theorem readObject_congr {first second : Files Text} {path : Path} (same : first path = second path)
    (opened : Bool) : readObject json opened path first = readObject json opened path second := by
  rw [readObject, readObject, same]

theorem replaceFile_other {outcome : WriteOutcome} {path tmpPath other : Path} (body : Text)
    (files : Files Text) (notPath : other ≠ path) (notTmp : other ≠ tmpPath) :
    replaceFile outcome path tmpPath body files other = files other := by
  unfold replaceFile
  split
  · rfl
  · split
    · rw [Function.update_of_ne notTmp]
    · split
      · rw [Function.update_of_ne notPath, Function.update_of_ne notTmp]
      · rw [Function.update_of_ne notTmp]

theorem replaceFile_committed {outcome : WriteOutcome} (committed : outcome.committed = true)
    (path tmpPath : Path) (body : Text) (files : Files Text) :
    replaceFile outcome path tmpPath body files path = some (.file body) := by
  simp only [WriteOutcome.committed, Bool.and_eq_true] at committed
  simp only [replaceFile, committed, Bool.not_true, Bool.false_eq_true, if_false, if_true,
    Function.update_self]

/-- What is not committed leaves the file as it was. -/
theorem replaceFile_uncommitted {outcome : WriteOutcome} (failed : outcome.committed = false)
    {path tmpPath : Path} (different : path ≠ tmpPath) (body : Text) (files : Files Text) :
    replaceFile outcome path tmpPath body files path = files path := by
  unfold replaceFile
  split
  · rfl
  · rename_i created
    split
    · rw [Function.update_of_ne different]
    · rename_i written
      split
      · rename_i moved
        rw [Bool.not_eq_true, Bool.not_eq_false'] at created written
        rw [WriteOutcome.committed, created, written, moved] at failed
        cases failed
      · rw [Function.update_of_ne different]

/-! ### Keys -/

theorem field_setField (object : Object) (key : String) (value : Json Rat) :
    field (setField object key value) key = value := by
  simp only [field, setField, List.find?_cons, beq_self_eq_true, Option.map_some, Option.getD_some]

theorem boolAt_congr {first second : Object} {key : String}
    (same : field first key = field second key) (fallback : Bool) :
    boolAt first key fallback = boolAt second key fallback := by
  rw [boolAt, boolAt, same]

theorem intAt_congr {first second : Object} {key : String}
    (same : field first key = field second key) (fallback : Int) :
    intAt first key fallback = intAt second key fallback := by
  rw [intAt, intAt, same]

/-! ### The port -/

theorem writeRouterPort_ftPath (outcomes : OscPortOutcomes) (port : Int) (files : Files Text) :
    writeRouterPort json outcomes port files ftPath = files ftPath :=
  replaceFile_other _ files (by decide) (by decide)

theorem writeRouterPort_uncommitted {outcomes : OscPortOutcomes}
    (failed : outcomes.writeRouter.committed = false) (port : Int) (files : Files Text) :
    writeRouterPort json outcomes port files orPath = files orPath :=
  replaceFile_uncommitted failed (by decide) _ files

theorem writeSentinel_orPath (outcomes : OscPortOutcomes) (files : Files Text) :
    writeSentinel json outcomes files orPath = files orPath := by
  unfold writeSentinel
  cases readObject json outcomes.rereadProfile ftPath files with
  | none => rfl
  | some root => exact replaceFile_other _ files (by decide) (by decide)

theorem routerPort_congr {first second : Files Text} (same : first orPath = second orPath) :
    routerPort json true first = routerPort json true second := by
  rw [routerPort, routerPort, readObject_congr json same]

variable {json}

/-- A committed router profile has the port, whatever was read of it before. -/
theorem routerPort_writeRouterPort (readsBack : ReadsBack json) {outcomes : OscPortOutcomes}
    (committed : outcomes.writeRouter.committed = true) {port : Int}
    (configured : isConfigured port = true) (files : Files Text) :
    routerPort json true (writeRouterPort json outcomes port files) = port := by
  have kept : Written json ((readObject json outcomes.rereadRouter orPath files).getD []) := by
    cases read : readObject json outcomes.rereadRouter orPath files with
    | none => exact Written.empty
    | some object =>
      obtain ⟨-, content, -, parsed⟩ := readObject_opened json read
      exact Written.read parsed
  obtain ⟨parsed, back, same⟩ := readsBack _ (kept.port port configured)
  have found := replaceFile_committed committed orPath orTmpPath
    (json.serialize (setField ((readObject json outcomes.rereadRouter orPath files).getD [])
      "send_port" (.number port))) files
  unfold routerPort writeRouterPort
  rw [readObject_of_file json found, back]
  dsimp only
  rw [intAt_congr (same "send_port"), intAt, field_setField]
  simp only [Rat.num_intCast, Rat.den_intCast, Nat.cast_one, Int.tdiv_one]

theorem writeSentinel_committed (readsBack : ReadsBack json) {outcomes : OscPortOutcomes}
    (reread : outcomes.rereadProfile = true) (committed : outcomes.writeProfile.committed = true)
    {files : Files Text} {root : Object} (read : readObject json true ftPath files = some root) :
    ∃ after, readObject json true ftPath (writeSentinel json outcomes files) = some after ∧
      boolAt after "osc_migrated_to_router" false = true := by
  obtain ⟨-, content, -, parsed⟩ := readObject_opened json read
  obtain ⟨after, back, same⟩ := readsBack _ (Written.read parsed).sentinel
  have found := replaceFile_committed committed ftPath ftTmpPath
    (json.serialize (setField root "osc_migrated_to_router" (.bool true))) files
  refine ⟨after, ?_, ?_⟩
  · simp only [writeSentinel, reread, read]
    rw [readObject_of_file json found, back]
  · rw [boolAt_congr (same _), boolAt, field_setField]

/-- The sentinel is set exactly when it is committed. -/
theorem writeSentinel_migrated_iff (readsBack : ReadsBack json) (outcomes : OscPortOutcomes)
    {files : Files Text} {root : Object} (read : readObject json true ftPath files = some root)
    (unset : boolAt root "osc_migrated_to_router" false = false) :
    (∃ after, readObject json true ftPath (writeSentinel json outcomes files) = some after ∧
      boolAt after "osc_migrated_to_router" false = true) ↔
    outcomes.rereadProfile = true ∧ outcomes.writeProfile.committed = true := by
  have unchanged : writeSentinel json outcomes files ftPath = files ftPath →
      ¬∃ after, readObject json true ftPath (writeSentinel json outcomes files) = some after ∧
        boolAt after "osc_migrated_to_router" false = true := by
    rintro same ⟨after, readAfter, set⟩
    rw [readObject_congr json same, read] at readAfter
    obtain rfl := Option.some.inj readAfter
    rw [unset] at set
    cases set
  by_cases reread : outcomes.rereadProfile = true
  · have again : readObject json outcomes.rereadProfile ftPath files = some root := by
      rw [reread, read]
    by_cases committed : outcomes.writeProfile.committed = true
    · exact ⟨fun _ => ⟨reread, committed⟩,
        fun _ => writeSentinel_committed readsBack reread committed read⟩
    · refine ⟨fun migrated => absurd migrated (unchanged ?_), fun both => absurd both.2 committed⟩
      simp only [writeSentinel, again]
      exact replaceFile_uncommitted (Bool.eq_false_iff.mpr committed) (by decide) _ files
  · refine ⟨fun migrated => absurd migrated (unchanged ?_), fun both => absurd both.1 reread⟩
    simp only [writeSentinel, Bool.eq_false_iff.mpr reread, readObject_closed]

theorem routerPort_closed {files : Files Text} (free : isConfigured (routerPort json true files) = false)
    (opened : Bool) : isConfigured (routerPort json opened files) = false := by
  cases opened with
  | true => exact free
  | false =>
    rw [routerPort, readObject_closed]
    rfl

/-- A port that is to be carried over is written before the sentinel. -/
theorem migratePort_of_toCarry {outcomes : OscPortOutcomes} {files : Files Text} {root : Object}
    (opened : outcomes.readProfile = true)
    (read : readObject json true ftPath files = some root)
    (unset : boolAt root "osc_migrated_to_router" false = false)
    (configured : isConfigured (intAt root "osc_port" 9000) = true)
    (free : isConfigured (routerPort json true files) = false) :
    migratePort json outcomes files = writeSentinel json outcomes
      (writeRouterPort json outcomes (intAt root "osc_port" 9000) files) := by
  unfold migratePort
  rw [opened, read]
  simp only [unset, configured, routerPort_closed free, Bool.not_true, Bool.false_eq_true, if_false]

theorem migrated_iff {world : World Text Value} {files : Files Text}
    (here : world.newDir = some files) :
    Migrated json world ↔ ∃ root, readObject json true ftPath files = some root ∧
      boolAt root "osc_migrated_to_router" false = true := by
  constructor
  · rintro ⟨files', root, here', both⟩
    obtain rfl := Option.some.inj (here.symm.trans here')
    exact ⟨root, both⟩
  · rintro ⟨root, both⟩
    exact ⟨files, root, here, both⟩

theorem oscPortSettled_iff (readsBack : ReadsBack json) (outcomes : OscPortOutcomes)
    (world : World Text Value) :
    OscPortSettled json world (migrateFtOscPort json outcomes world) ↔
      PortCommits json outcomes world := by
  unfold OscPortSettled PortCommits
  refine forall_congr' fun port => forall_congr' fun carry => ?_
  obtain ⟨files, root, here, read, unset, rfl, configured, free⟩ := carry
  have notYet : ¬∃ after, readObject json true ftPath files = some after ∧
      boolAt after "osc_migrated_to_router" false = true := by
    rintro ⟨after, readAfter, set⟩
    obtain rfl := Option.some.inj (read.symm.trans readAfter)
    rw [unset] at set
    cases set
  unfold migrateFtOscPort
  by_cases resolved : outcomes.resolved = true
  · simp only [resolved, Bool.not_true, Bool.false_eq_true, if_false, true_imp_iff]
    have there : (Option.map (migratePort json outcomes) world.newDir) =
        some (migratePort json outcomes files) := by
      rw [here, Option.map_some]
    rw [migrated_iff there, there]
    by_cases opened : outcomes.readProfile = true
    · have carried := migratePort_of_toCarry opened read unset configured free
      have kept := writeRouterPort_ftPath json outcomes (intAt root "osc_port" 9000) files
      have sentinel := writeSentinel_migrated_iff readsBack outcomes
        ((readObject_congr json kept true).trans read) unset
      have routed : routerPort json true (migratePort json outcomes files) =
          routerPort json true (writeRouterPort json outcomes (intAt root "osc_port" 9000) files) := by
        rw [carried]
        exact routerPort_congr json (writeSentinel_orPath json outcomes _)
      simp only [opened, true_imp_iff, Option.some.injEq, exists_eq_left', routed]
      rw [carried, sentinel]
      by_cases committed : outcomes.writeRouter.committed = true
      · simp only [committed, implies_true, iff_true]
        exact Or.inr (routerPort_writeRouterPort readsBack committed configured files)
      · have stale : routerPort json true
            (writeRouterPort json outcomes (intAt root "osc_port" 9000) files) ≠
            intAt root "osc_port" 9000 := by
          intro same
          have unwritten := writeRouterPort_uncommitted json (Bool.eq_false_iff.mpr committed)
            (intAt root "osc_port" 9000) files
          rw [routerPort_congr json unwritten] at same
          rw [same, configured] at free
          cases free
        simp only [stale, or_false, committed, Bool.false_eq_true, not_and, imp_false]
    · have untouched : migratePort json outcomes files = files := by
        rw [migratePort, Bool.eq_false_iff.mpr opened, readObject_closed]
      rw [untouched]
      simp only [opened, Bool.false_eq_true, false_imp_iff, iff_true]
      exact Or.inl notYet
  · simp only [resolved, Bool.not_false, if_true, Bool.false_eq_true, false_imp_iff, iff_true]
    rw [migrated_iff here]
    exact Or.inl notYet

/-! ### The next launch -/

/-- The face-tracking profile gives the step nothing to do: it cannot be read, or has the
sentinel. -/
def PortDone (json : JsonText Text) (files : Files Text) : Prop :=
  ∀ root, readObject json true ftPath files = some root →
    boolAt root "osc_migrated_to_router" false = true

/-- No step has anything to do. -/
structure Quiescent (json : JsonText Text) (world : World Text Value) : Prop where
  appData : world.newDir = none → world.oldDir = none
  registry : world.newKey = none → world.oldKey = none
  oscPort : ∀ files, world.newDir = some files → PortDone json files

theorem migratePort_of_done {files : Files Text} (done : PortDone json files)
    (outcomes : OscPortOutcomes) : migratePort json outcomes files = files := by
  unfold migratePort
  cases read : readObject json outcomes.readProfile ftPath files with
  | none => rfl
  | some root =>
    have opened := (readObject_opened json read).1
    rw [opened] at read
    simp only [done root read, if_true]

/-- A launch with nothing to do changes nothing, whatever fails, as long as a registry key that
exists opens. -/
theorem Quiescent.migrate_eq {world : World Text Value} (quiescent : Quiescent json world)
    {again : Outcomes} (opens : again.registry.openedNew = true) :
    migrate json again world = world := by
  have appData : migrateAppData again.appData world = world := by
    unfold migrateAppData
    cases there : world.newDir with
    | none => simp [quiescent.appData there]
    | some files => simp
  have registry : migrateScRegistryKey again.registry world = world := by
    unfold migrateScRegistryKey
    cases there : world.newKey with
    | none => simp [quiescent.registry there]
    | some values => simp [opens]
  have oscPort : migrateFtOscPort json again.oscPort world = world := by
    unfold migrateFtOscPort
    split
    · rfl
    · cases there : world.newDir with
      | none => rw [Option.map_none, ← there]
      | some files =>
        rw [Option.map_some, migratePort_of_done (quiescent.oscPort files there), ← there]
  rw [migrate, appData, registry, oscPort]

theorem portDone_writeSentinel (readsBack : ReadsBack json) (files : Files Text) :
    PortDone json (writeSentinel json allSucceed.oscPort files) := by
  intro root read
  have opens : allSucceed.oscPort.rereadProfile = true := rfl
  cases before : readObject json true ftPath files with
  | none =>
    rw [writeSentinel, opens, before, before] at read
    cases read
  | some root' =>
    obtain ⟨after, readAfter, set⟩ := writeSentinel_committed readsBack opens rfl before
    obtain rfl := Option.some.inj (read.symm.trans readAfter)
    exact set

theorem portDone_migratePort (readsBack : ReadsBack json) (files : Files Text) :
    PortDone json (migratePort json allSucceed.oscPort files) := by
  have opens : allSucceed.oscPort.readProfile = true := rfl
  unfold migratePort
  rw [opens]
  cases read : readObject json true ftPath files with
  | none =>
    intro root read'
    rw [read] at read'
    cases read'
  | some root =>
    dsimp only
    split
    · rename_i set
      intro root' read'
      obtain rfl := Option.some.inj (read.symm.trans read')
      exact set
    · split
      · exact portDone_writeSentinel readsBack files
      · split
        · exact portDone_writeSentinel readsBack files
        · exact portDone_writeSentinel readsBack _

/-- The first step touches the new tree only. -/
theorem migrateAppData_frame (outcomes : AppDataOutcomes) (world : World Text Value) :
    migrateAppData outcomes world =
      { world with newDir := (migrateAppData outcomes world).newDir } := by
  unfold migrateAppData
  split
  · rfl
  · split
    · rfl
    · split
      · rfl
      · split
        · rfl
        · rfl

/-- The second step touches the new key only. -/
theorem migrateScRegistryKey_frame (outcomes : RegistryOutcomes) (world : World Text Value) :
    migrateScRegistryKey outcomes world =
      { world with newKey := (migrateScRegistryKey outcomes world).newKey } := by
  unfold migrateScRegistryKey
  split
  · rfl
  · split
    · rfl
    · split
      · rfl
      · split
        · rfl
        · dsimp only
          split
          · rfl
          · rfl

theorem migrateAppData_missing {world : World Text Value}
    (missing : (migrateAppData allSucceed.appData world).newDir = none) : world.oldDir = none := by
  cases new : world.newDir with
  | some files => simp [migrateAppData, new] at missing
  | none =>
    cases old : world.oldDir with
    | none => rfl
    | some tree => simp [migrateAppData, allSucceed, new, old] at missing

theorem migrateScRegistryKey_missing {world : World Text Value}
    (missing : (migrateScRegistryKey allSucceed.registry world).newKey = none) :
    world.oldKey = none := by
  cases new : world.newKey with
  | some values => simp [migrateScRegistryKey, allSucceed, new] at missing
  | none =>
    cases old : world.oldKey with
    | none => rfl
    | some tree => simp [migrateScRegistryKey, allSucceed, new, old] at missing

theorem quiescent_migrate (readsBack : ReadsBack json) (world : World Text Value) :
    Quiescent json (migrate json allSucceed world) := by
  have migrated : migrate json allSucceed world =
      { oldDir := world.oldDir
        newDir := (migrateAppData allSucceed.appData world).newDir.map
          (migratePort json allSucceed.oscPort)
        oldKey := world.oldKey
        newKey := (migrateScRegistryKey allSucceed.registry
          (migrateAppData allSucceed.appData world)).newKey } := by
    rw [migrate, migrateScRegistryKey_frame, migrateAppData_frame]
    rfl
  rw [migrated]
  refine ⟨?_, ?_, ?_⟩
  · intro missing
    have absent : (migrateAppData allSucceed.appData world).newDir = none :=
      Option.map_eq_none_iff.mp missing
    show world.oldDir = none
    exact migrateAppData_missing absent
  · intro missing
    have absent := migrateScRegistryKey_missing missing
    rw [migrateAppData_frame] at absent
    exact absent
  · intro files there
    obtain ⟨copied, -, rfl⟩ := Option.map_eq_some_iff.mp there
    exact portDone_migratePort readsBack copied

/-- All or retry, exactly. A step that starts with its guard open ends with the guard open or with
everything copied if and only if, for the two copies, no call fails once the destination is created,
and, for the port, the router profile is committed whenever the sentinel is. A launch after one in
which every call succeeded changes nothing. -/
theorem migration_settled_iff (readsBack : ReadsBack json) :
    (∀ outcomes (world : World Text Value),
      AppDataSettled world (migrateAppData outcomes world) ↔ AppDataCopies outcomes world) ∧
    (∀ outcomes (world : World Text Value),
      RegistrySettled world (migrateScRegistryKey outcomes world) ↔
        RegistryCopies outcomes world) ∧
    (∀ outcomes (world : World Text Value),
      OscPortSettled json world (migrateFtOscPort json outcomes world) ↔
        PortCommits json outcomes world) ∧
    ∀ (world : World Text Value) (again : Outcomes), again.registry.openedNew = true →
      migrate json again (migrate json allSucceed world) = migrate json allSucceed world :=
  ⟨appDataSettled_iff, registrySettled_iff, oscPortSettled_iff readsBack,
    fun world _ opens => (quiescent_migrate readsBack world).migrate_eq opens⟩

end Steps

/-! ### Half-migrated worlds -/

/-- JSON texts as the objects they spell. -/
def spelled : JsonText Object := ⟨some, fun object => object⟩

/-- An old tree with two profiles, an old key with one value, and no new ones. -/
def beforeRename : World Object Nat where
  oldDir := some
    { entries := [(["profiles"], .directory), (ftPath, .file [("osc_port", .number 9100)]),
        (orPath, .file [])]
      distinct := by decide }
  newDir := none
  oldKey := some ⟨[(["Config"], 1)], by decide⟩
  newKey := none

theorem migration_settled_iff_clean : ReadsBack spelled ∧
    AppDataSettled beforeRename (migrateAppData allSucceed.appData beforeRename) ∧
    migrate spelled allSucceed (migrate spelled allSucceed beforeRename) =
      migrate spelled allSucceed beforeRename := by
  have readsBack : ReadsBack spelled := fun object _ => ⟨object, rfl, fun _ => rfl⟩
  exact ⟨readsBack,
    ((migration_settled_iff readsBack).1 _ beforeRename).mpr fun _ _ _ _ _ _ _ => rfl,
    (migration_settled_iff readsBack).2.2.2 beforeRename allSucceed rfl⟩

/-- The disk fills up before the router profile is copied. -/
def fullDisk : AppDataOutcomes := ⟨true, true, fun path => path ≠ orPath⟩

/-- The old key does not open a second time, after the new one was created. -/
def lostKey : RegistryOutcomes := ⟨true, true, true, false, fun _ => true⟩

/-- The text for the router profile cannot be created. -/
def lockedRouter : OscPortOutcomes :=
  { allSucceed.oscPort with writeRouter := ⟨false, true, true⟩ }

/-- A new tree whose face-tracking profile has a port to carry over. -/
def afterRename : World Object Nat :=
  { beforeRename with
    newDir := some fun path =>
      if path = ftPath then some (.file [("osc_port", .number 9100)]) else none }

/-- Each step can end with its guard closed and its data missing: a file of the tree, the value of
the key, the port. The next launch, in which every call succeeds, leaves the file missing. -/
theorem half_migrated :
    ¬AppDataSettled beforeRename (migrateAppData fullDisk beforeRename) ∧
    migrateAppData allSucceed.appData (migrateAppData fullDisk beforeRename) =
      migrateAppData fullDisk beforeRename ∧
    ¬RegistrySettled beforeRename (migrateScRegistryKey lostKey beforeRename) ∧
    ¬OscPortSettled spelled afterRename (migrateFtOscPort spelled lockedRouter afterRename) := by
  have readsBack : ReadsBack spelled := fun object _ => ⟨object, rfl, fun _ => rfl⟩
  refine ⟨?_, rfl, ?_, ?_⟩
  · rw [appDataSettled_iff]
    intro copies
    exact absurd (copies rfl rfl rfl _ rfl (orPath, .file []) (by simp)) (by decide)
  · rw [registrySettled_iff]
    intro copies
    rcases copies rfl rfl rfl _ rfl with empty | both
    · cases empty
    · exact absurd both.1 (by decide)
  · rw [oscPortSettled_iff readsBack]
    intro commits
    have carry : ToCarry spelled afterRename 9100 :=
      ⟨_, _, rfl, rfl, rfl, by decide +kernel, by decide, by decide⟩
    exact absurd (commits 9100 carry rfl rfl rfl rfl) (by decide)

end PairDriver.Migration
