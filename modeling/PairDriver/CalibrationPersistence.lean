/-
This file follows what the face calibration has learned over the end of a driver
session. The engine writes its shapes to a file named after its module, and reads
them back up to an unfinished hold streak; but the file name comes from `Load`, and
the driver never calls it. Nothing is written or read, so every session starts from
fresh shapes, and what was learned survives exactly where there was nothing to
learn: where no value has passed the gates of a fresh shape.
-/

import PairDriver.FaceCalibration

namespace PairDriver.FaceCalibration

open Arithmetic

/-- The bytes of a text. -/
abbrev Text := List UInt8

/-! ### One shape of the array -/

/-- The places of the array `shapes_`. -/
inductive ShapeIndex where
  | expression (index : Fin expressionCount)
  | opennessL
  | opennessR
  | pupilL
  | pupilR
deriving DecidableEq

section Persistence

variable {Number : Type}

def CalibrationEngine.shape (engine : CalibrationEngine Number) : ShapeIndex → ShapeCalib Number
  | .expression index => engine.expressions index
  | .opennessL => engine.eyes.opennessL
  | .opennessR => engine.eyes.opennessR
  | .pupilL => engine.eyes.pupilL
  | .pupilR => engine.eyes.pupilR

/-- An engine from the shapes at its places. -/
def CalibrationEngine.ofShapes (shapes : ShapeIndex → ShapeCalib Number) :
    CalibrationEngine Number where
  eyes := ⟨shapes .opennessL, shapes .opennessR, shapes .pupilL, shapes .pupilR⟩
  expressions := fun index => shapes (.expression index)

/-- The value of a frame for a place. -/
def Frame.valueAt (frame : Frame Number) : ShapeIndex → Number
  | .expression index => frame.expressions index
  | .opennessL => frame.eyes.opennessL
  | .opennessR => frame.eyes.opennessR
  | .pupilL => frame.eyes.pupilL
  | .pupilR => frame.eyes.pupilR

def Frame.validAt (frame : Frame Number) : ShapeIndex → Bool
  | .expression _ => frame.expressionsValid
  | _ => frame.eyeValid

/-- Whether a command resets the shape at a place. -/
def FaceCalibrationOp.resets : FaceCalibrationOp → ShapeIndex → Bool
  | .resetAll, _ => true
  | .resetEye, .expression _ => false
  | .resetEye, _ => true
  | .resetExpr, .expression _ => true
  | .resetExpr, _ => false
  | .begin, _ | .finish, _ | .save, _ => false

/-! ### The file of a module -/

/-- What is written of a shape. The desired positions never change and are not written, nor is the
hold streak. -/
structure SavedShape (Number : Type) where
  p02 : Number
  p98 : Number
  emaMin : Number
  emaMax : Number
  emaValue : Number
  emaVar : Number
  samples : UInt32
  warm : Bool
  q : Fin 5 → Number
  n : Fin 5 → Number

def ShapeCalib.saved (shape : ShapeCalib Number) : SavedShape Number where
  p02 := shape.p02
  p98 := shape.p98
  emaMin := shape.emaMin
  emaMax := shape.emaMax
  emaValue := shape.emaValue
  emaVar := shape.emaVar
  samples := shape.samples
  warm := shape.warm
  q := shape.q
  n := shape.n

/-- Reading a saved shape into one that is there. -/
def ShapeCalib.restore (shape : ShapeCalib Number) (saved : SavedShape Number) :
    ShapeCalib Number :=
  { shape with
    p02 := saved.p02
    p98 := saved.p98
    emaMin := saved.emaMin
    emaMax := saved.emaMax
    emaValue := saved.emaValue
    emaVar := saved.emaVar
    samples := saved.samples
    warm := saved.warm
    q := saved.q
    n := saved.n }

/-- A shape without its hold streak. -/
def ShapeCalib.settled (shape : ShapeCalib Number) : ShapeCalib Number :=
  { shape with holdCount := 0, holdFirstQpc := 0 }

def CalibrationEngine.settled (engine : CalibrationEngine Number) : CalibrationEngine Number :=
  .ofShapes fun index => (engine.shape index).settled

/-- The calibration files: what was serialized, by file name. -/
abbrev Disk (Number : Type) := Text → Option (ShapeIndex → SavedShape Number)

/-- The engine with the module it was loaded for. -/
structure Calibration (Number : Type) where
  shapes : CalibrationEngine Number
  moduleUuid : Text

def calibFileName (uuid : Text) : Text :=
  ascii "facetracking_calib_" ++ uuid ++ ascii ".json"

/-- `CalibFilePath`; none if no module was loaded. -/
def Calibration.calibFilePath (calibration : Calibration Number) : Option Text :=
  if calibration.moduleUuid = [] then none else some (calibFileName calibration.moduleUuid)

/-- `SaveLocked`. -/
def Calibration.save (calibration : Calibration Number) (disk : Disk Number) : Disk Number :=
  match calibration.calibFilePath with
  | none => disk
  | some path =>
    Function.update disk path (some fun index => (calibration.shapes.shape index).saved)

/-- `LoadLocked`. -/
def Calibration.load (uuid : Text) (disk : Disk Number) (calibration : Calibration Number) :
    Calibration Number :=
  let named := { calibration with moduleUuid := uuid }
  match named.calibFilePath.bind disk with
  | none => named
  | some file =>
    { named with
      shapes := .ofShapes fun index => (calibration.shapes.shape index).restore (file index) }

/-- A session of the driver: the module it selects, the frames and commands, and whether it is shut
down or crashes. -/
structure Session (Number : Type) where
  uuid : Text
  events : List (Event Number)
  shutdown : Bool

/-- `FacetrackingDriverModule`, as far as calibration goes. -/
structure DriverModule (Number : Type) where
  calib : Calibration Number
  activeModuleUuid : Text

/-- `HandleRequest` for a configuration: the engine is not told. -/
def DriverModule.setFaceTrackingConfig (uuid : Text) (module : DriverModule Number) :
    DriverModule Number :=
  { module with activeModuleUuid := uuid }

variable [Arithmetic Number] (qpcFreq : Int64)

/-- What an event does to the shape at a place. -/
def shapeStep (index : ShapeIndex) (shape : ShapeCalib Number) : Event Number → ShapeCalib Number
  | .frame now mode frame =>
    if 0 < mode ∧ frame.current qpcFreq now = true ∧ frame.validAt index = true then
      updateShape qpcFreq shape (frame.valueAt index) now.toUInt64
    else shape
  | .command op => if op.resets index then .fresh else shape

/-- The shapes learn independently of each other. -/
theorem workerStep_shape (engine : CalibrationEngine Number) (event : Event Number)
    (index : ShapeIndex) :
    (workerStep qpcFreq engine event).shape index =
      shapeStep qpcFreq index (engine.shape index) event := by
  cases event with
  | command op => cases op <;> cases index <;> rfl
  | frame now mode frame =>
    dsimp only [workerStep, shapeStep, CalibrationEngine.ingestFrame]
    by_cases calibrated : 0 < mode
    · rw [if_pos calibrated]
      cases current : frame.current qpcFreq now with
      | false => simp
      | true =>
        cases index with
        | expression index =>
          cases valid : frame.expressionsValid with
          | true => simp [calibrated, valid, Frame.validAt, CalibrationEngine.shape, Frame.valueAt]
          | false => simp [valid, Frame.validAt, CalibrationEngine.shape]
        | opennessL | opennessR | pupilL | pupilR =>
          cases valid : frame.eyeValid with
          | true => simp [calibrated, valid, Frame.validAt, CalibrationEngine.shape, Frame.valueAt,
              Eyes.update]
          | false => simp [valid, Frame.validAt, CalibrationEngine.shape]
    · rw [if_neg calibrated, if_neg fun all => calibrated all.1]

/-! ### Saving and resetting -/

/-- `Reset`, which also saves or deletes the file. -/
def Calibration.reset (op : FaceCalibrationOp) (calibration : Calibration Number)
    (disk : Disk Number) : Calibration Number × Disk Number :=
  ({ calibration with shapes := calibration.shapes.reset op },
    match op with
    | .save => calibration.save disk
    | .resetAll =>
      match calibration.calibFilePath with
      | none => disk
      | some path => Function.update disk path none
    | _ => disk)

/-- The constructor of the engine. -/
def Calibration.fresh : Calibration Number where
  shapes := .fresh
  moduleUuid := []

/-! ### Sessions -/

/-- `Init`. -/
def DriverModule.init : DriverModule Number where
  calib := .fresh
  activeModuleUuid := []

/-- The driver module in a session, the files, and, for the specification, what is to be found
after the session for the module selected. -/
structure Running (Number : Type) where
  module : DriverModule Number
  disk : Disk Number
  kept : CalibrationEngine Number

def sessionStep (running : Running Number) : Event Number → Running Number
  | .frame now mode frame =>
    { running with
      module := { running.module with
        calib := { running.module.calib with
          shapes := workerStep qpcFreq running.module.calib.shapes (.frame now mode frame) } } }
  | .command op =>
    let (calib, disk) := running.module.calib.reset op running.disk
    { module := { running.module with calib := calib }
      disk := disk
      kept := match op with
        | .save | .resetAll => calib.shapes
        | _ => running.kept }

/-- The files, and what is to be found for each module. -/
structure World (Number : Type) where
  disk : Disk Number
  kept : Text → CalibrationEngine Number

/-- The start of a session. -/
def World.begin (world : World Number) (uuid : Text) : Running Number where
  module := DriverModule.init.setFaceTrackingConfig uuid
  disk := world.disk
  kept := world.kept uuid

def runSession (world : World Number) (session : Session Number) : World Number :=
  let running := session.events.foldl (sessionStep qpcFreq) (world.begin session.uuid)
  if session.shutdown then
    { disk := running.module.calib.save running.disk
      kept := Function.update world.kept session.uuid running.module.calib.shapes }
  else
    { disk := running.disk
      kept := Function.update world.kept session.uuid running.kept }

/-- The world after some sessions on a disk. -/
def worldAfter (disk : Disk Number) (sessions : List (Session Number)) : World Number :=
  sessions.foldl (runSession qpcFreq) { disk := disk, kept := fun _ => .fresh }

/-! ### Reading back what was written -/

/-- No event moves the desired positions of a shape. -/
theorem shapeStep_dn (index : ShapeIndex) {shape : ShapeCalib Number}
    (unmoved : shape.dn = (ShapeCalib.fresh : ShapeCalib Number).dn) (event : Event Number) :
    (shapeStep qpcFreq index shape event).dn = (ShapeCalib.fresh : ShapeCalib Number).dn := by
  have envelope : ∀ (held : ShapeCalib Number) (raw : Number) (now : UInt64),
      (held.envelope qpcFreq raw now).dn = held.dn := by
    intro held raw now
    dsimp only [ShapeCalib.envelope]
    split_ifs <;> rfl
  cases event with
  | command op =>
    dsimp only [shapeStep]
    split
    · rfl
    · exact unmoved
  | frame now mode frame =>
    dsimp only [shapeStep, updateShape]
    split_ifs
    · exact unmoved
    · exact (envelope _ _ _).trans unmoved
    · exact unmoved

theorem learned_dn (stream : List (Event Number)) (index : ShapeIndex) :
    ((learned qpcFreq stream).shape index).dn = (ShapeCalib.fresh : ShapeCalib Number).dn := by
  induction stream using List.reverseRecOn with
  | nil => cases index <;> rfl
  | append_singleton stream event inductionHypothesis =>
    unfold learned at *
    rw [List.foldl_append, List.foldl_cons, List.foldl_nil, workerStep_shape]
    exact shapeStep_dn qpcFreq index inductionHypothesis event

/-- Whether a fresh shape lets a value through its velocity gate. -/
def acceptedByFresh (raw : Number) : Bool :=
  let fresh : ShapeCalib Number := .fresh
  ¬kVelocityGateSigmas * sqrt (fresh.emaVar + kNormEps) < abs (raw - fresh.emaValue)

/-- Whether the shape at a place has been taught since it was last reset. -/
def taughtStep (index : ShapeIndex) (taught : Bool) : Event Number → Bool
  | .frame now mode frame =>
    taught || (0 < mode && frame.current qpcFreq now && frame.validAt index &&
      acceptedByFresh (frame.valueAt index))
  | .command op => taught && !op.resets index

/-- The same with what is kept of it by a command. -/
def taughtSessionStep (index : ShapeIndex) (state : Bool × Bool) (event : Event Number) :
    Bool × Bool :=
  let taught := taughtStep qpcFreq index state.1 event
  (taught, match event with
    | .command .save | .command .resetAll => taught
    | _ => state.2)

def taughtSession (index : ShapeIndex) (kept : Text → Bool) (session : Session Number) :
    Text → Bool :=
  let (taught, saved) := session.events.foldl (taughtSessionStep qpcFreq index)
    (false, kept session.uuid)
  Function.update kept session.uuid (if session.shutdown then taught else saved)

/-- Whether what is to be found for a module after some sessions was taught. -/
def taughtAfter (index : ShapeIndex) (sessions : List (Session Number)) : Text → Bool :=
  sessions.foldl (taughtSession qpcFreq index) fun _ => false

/-- What a shape shows of having been taught: it is fresh, or it is warm or on its way there. -/
def Shows (shape : ShapeCalib Number) : Bool → Prop
  | false => shape = .fresh
  | true => shape.warm = true ∨ 0 < shape.samples ∧ shape.samples < kWarmThreshold

theorem Shows.settled_eq_fresh {shape : ShapeCalib Number} {taught : Bool}
    (shows : Shows shape taught) : shape.settled = .fresh ↔ taught = false := by
  cases taught with
  | false =>
    obtain rfl : shape = .fresh := shows
    exact ⟨fun _ => rfl, fun _ => rfl⟩
  | true =>
    refine ⟨fun same => ?_, nofun⟩
    have warm : shape.warm = false := congrArg ShapeCalib.warm same
    have samples : shape.samples = 0 := congrArg ShapeCalib.samples same
    rcases shows with isWarm | ⟨some, -⟩
    · exact absurd (isWarm.symm.trans warm) nofun
    · rw [samples] at some
      exact absurd some (by decide)

/-- A value that passes the gate is counted. -/
theorem updateShape_counts {shape : ShapeCalib Number} {raw : Number} (now : UInt64)
    (passes : ¬kVelocityGateSigmas * sqrt (shape.emaVar + kNormEps) < abs (raw - shape.emaValue)) :
    (updateShape qpcFreq shape raw now).samples = shape.samples + 1 ∧
      (updateShape qpcFreq shape raw now).warm =
        (shape.warm || kWarmThreshold ≤ shape.samples + 1) := by
  have envelope : ∀ held : ShapeCalib Number,
      (held.envelope qpcFreq raw now).samples = held.samples ∧
        (held.envelope qpcFreq raw now).warm = held.warm := by
    intro held
    dsimp only [ShapeCalib.envelope]
    split_ifs <;> exact ⟨rfl, rfl⟩
  unfold updateShape
  simp only [if_neg passes, envelope]
  exact ⟨trivial, trivial⟩

theorem updateShape_rejects {shape : ShapeCalib Number} {raw : Number} (now : UInt64)
    (rejects : kVelocityGateSigmas * sqrt (shape.emaVar + kNormEps) < abs (raw - shape.emaValue)) :
    updateShape qpcFreq shape raw now = shape := by
  unfold updateShape
  simp only [if_pos rejects]

/-- One more sample keeps a shape warm or on its way there. -/
theorem shows_next {shape : ShapeCalib Number} (shows : Shows shape true) :
    (shape.warm || kWarmThreshold ≤ shape.samples + 1) = true ∨
      0 < shape.samples + 1 ∧ shape.samples + 1 < kWarmThreshold := by
  rcases shows with warm | ⟨-, few⟩
  · rw [warm]
    exact .inl rfl
  · by_cases enough : kWarmThreshold ≤ shape.samples + 1
    · rw [decide_eq_true enough, Bool.or_true]
      exact .inl rfl
    · refine .inr ⟨?_, UInt32.not_le.mp enough⟩
      have below : shape.samples.toNat < 200 := UInt32.lt_iff_toNat_lt.mp few
      have next : (shape.samples + 1).toNat = (shape.samples.toNat + 1) % 2 ^ 32 :=
        UInt32.toNat_add _ _
      refine UInt32.lt_iff_toNat_lt.mpr ?_
      rw [next]
      have zero : (0 : UInt32).toNat = 0 := rfl
      omega

/-- One event keeps a shape and its mark together. -/
theorem shapeStep_shows {index : ShapeIndex} {shape : ShapeCalib Number} {taught : Bool}
    (shows : Shows shape taught) (event : Event Number) :
    Shows (shapeStep qpcFreq index shape event) (taughtStep qpcFreq index taught event) := by
  cases event with
  | command op =>
    cases resets : op.resets index with
    | true =>
      simp only [shapeStep, taughtStep, resets, if_true, Bool.not_true, Bool.and_false]
      rfl
    | false =>
      simp only [shapeStep, taughtStep, resets, Bool.false_eq_true, if_false, Bool.not_false,
        Bool.and_true]
      exact shows
  | frame now mode frame =>
    by_cases offered : 0 < mode ∧ frame.current qpcFreq now = true ∧ frame.validAt index = true
    · simp only [shapeStep, taughtStep, offered, and_self, if_true, decide_true, Bool.true_and]
      cases taught with
      | false =>
        obtain rfl : shape = .fresh := shows
        unfold acceptedByFresh
        by_cases rejects : (kVelocityGateSigmas : Number) *
            sqrt ((ShapeCalib.fresh : ShapeCalib Number).emaVar + kNormEps) <
              abs (frame.valueAt index - (ShapeCalib.fresh : ShapeCalib Number).emaValue)
        · rw [updateShape_rejects qpcFreq now.toUInt64 rejects]
          simp only [rejects, not_true_eq_false, decide_false, Bool.or_false]
          rfl
        · obtain ⟨samples, -⟩ := updateShape_counts qpcFreq now.toUInt64 rejects
          simp only [rejects, not_false_eq_true, decide_true, Bool.or_true]
          have zero : (ShapeCalib.fresh : ShapeCalib Number).samples = 0 := rfl
          refine .inr ?_
          rw [samples, zero]
          exact ⟨by decide, by decide⟩
      | true =>
        rw [Bool.true_or]
        by_cases rejects : kVelocityGateSigmas * sqrt (shape.emaVar + kNormEps) <
            abs (frame.valueAt index - shape.emaValue)
        · rw [updateShape_rejects qpcFreq now.toUInt64 rejects]
          exact shows
        · obtain ⟨samples, warm⟩ := updateShape_counts qpcFreq now.toUInt64 rejects
          unfold Shows
          rw [samples, warm]
          exact shows_next shows
    · have untouched : shapeStep qpcFreq index shape (.frame now mode frame) = shape :=
        if_neg offered
      have unmarked : taughtStep qpcFreq index taught (.frame now mode frame) = taught := by
        have none : (decide (0 < mode) && frame.current qpcFreq now && frame.validAt index) = false := by
          rw [Bool.eq_false_iff]
          intro all
          simp only [Bool.and_eq_true, decide_eq_true_eq] at all
          exact offered ⟨all.1.1, all.1.2, all.2⟩
        simp only [taughtStep, none, Bool.false_and, Bool.or_false]
      rw [untouched, unmarked]
      exact shows

/-! ### Sessions on the disk -/

/-- A session that has never loaded a module: the files are as they were, and each shape and what
is kept of it carry their marks. -/
structure Unloaded (disk : Disk Number) (marks : ShapeIndex → Bool × Bool)
    (running : Running Number) : Prop where
  unnamed : running.module.calib.moduleUuid = []
  disk : running.disk = disk
  shapes : ∀ index, Shows (running.module.calib.shapes.shape index) (marks index).1
  kept : ∀ index, Shows (running.kept.shape index) (marks index).2

omit [Arithmetic Number] in
theorem save_unnamed {calibration : Calibration Number} (unnamed : calibration.moduleUuid = [])
    (disk : Disk Number) : calibration.save disk = disk := by
  have path : calibration.calibFilePath = none := if_pos unnamed
  unfold Calibration.save
  rw [path]

theorem reset_unnamed {calibration : Calibration Number} (unnamed : calibration.moduleUuid = [])
    (disk : Disk Number) (op : FaceCalibrationOp) : (calibration.reset op disk).2 = disk := by
  have path : calibration.calibFilePath = none := if_pos unnamed
  cases op with
  | save => exact save_unnamed unnamed disk
  | resetAll =>
    dsimp only [Calibration.reset]
    rw [path]
  | begin | finish | resetEye | resetExpr => rfl

theorem sessionStep_unloaded {disk : Disk Number} {marks : ShapeIndex → Bool × Bool}
    {running : Running Number} (unloaded : Unloaded disk marks running) (event : Event Number) :
    Unloaded disk (fun index => taughtSessionStep qpcFreq index (marks index) event)
      (sessionStep qpcFreq running event) := by
  have shapes : ∀ index, Shows
      ((workerStep qpcFreq running.module.calib.shapes event).shape index)
      (taughtStep qpcFreq index (marks index).1 event) := by
    intro index
    rw [workerStep_shape]
    exact shapeStep_shows qpcFreq (unloaded.shapes index) event
  cases event with
  | frame now mode frame => exact ⟨unloaded.unnamed, unloaded.disk, shapes, unloaded.kept⟩
  | command op =>
    refine ⟨unloaded.unnamed, ?_, shapes, ?_⟩
    · exact (reset_unnamed unloaded.unnamed running.disk op).trans unloaded.disk
    · cases op with
      | save | resetAll => exact shapes
      | begin | finish | resetEye | resetExpr => exact unloaded.kept

theorem session_unloaded {disk : Disk Number} (events : List (Event Number))
    {marks : ShapeIndex → Bool × Bool} {running : Running Number}
    (unloaded : Unloaded disk marks running) :
    Unloaded disk (fun index => events.foldl (taughtSessionStep qpcFreq index) (marks index))
      (events.foldl (sessionStep qpcFreq) running) := by
  induction events generalizing marks running with
  | nil => exact unloaded
  | cons event rest inductionHypothesis =>
    exact inductionHypothesis (sessionStep_unloaded qpcFreq unloaded event)

/-- A session changes no file, and what is kept carries its mark. -/
theorem runSession_marks (world : World Number) {marks : ShapeIndex → Text → Bool}
    (kept : ∀ uuid index, Shows ((world.kept uuid).shape index) (marks index uuid))
    (session : Session Number) :
    (runSession qpcFreq world session).disk = world.disk ∧
      ∀ uuid index, Shows (((runSession qpcFreq world session).kept uuid).shape index)
        (taughtSession qpcFreq index (marks index) session uuid) := by
  have start : Unloaded world.disk (fun index => (false, marks index session.uuid))
      (world.begin session.uuid) := by
    refine ⟨rfl, rfl, fun index => ?_, kept session.uuid⟩
    cases index <;> rfl
  have ended := session_unloaded qpcFreq session.events start
  have update : ∀ {saved : CalibrationEngine Number} {mark : ShapeIndex → Bool},
      (∀ index, Shows (saved.shape index) (mark index)) → ∀ uuid index,
        Shows ((Function.update world.kept session.uuid saved uuid).shape index)
          (Function.update (marks index) session.uuid (mark index) uuid) := by
    intro saved mark shown uuid index
    by_cases same : uuid = session.uuid
    · subst same
      rw [Function.update_self, Function.update_self]
      exact shown index
    · rw [Function.update_of_ne same, Function.update_of_ne same]
      exact kept uuid index
  unfold runSession taughtSession
  cases session.shutdown with
  | true => exact ⟨(save_unnamed ended.unnamed _).trans ended.disk, update ended.shapes⟩
  | false => exact ⟨ended.disk, update ended.kept⟩

theorem worldAfter_marks (disk : Disk Number) (sessions : List (Session Number)) :
    (worldAfter qpcFreq disk sessions).disk = disk ∧
      ∀ uuid index, Shows (((worldAfter qpcFreq disk sessions).kept uuid).shape index)
        (taughtAfter qpcFreq index sessions uuid) := by
  induction sessions using List.reverseRecOn with
  | nil =>
    refine ⟨rfl, fun uuid index => ?_⟩
    cases index <;> rfl
  | append_singleton sessions session inductionHypothesis =>
    have next := runSession_marks qpcFreq _ inductionHypothesis.2 session
    unfold worldAfter taughtAfter at *
    simp only [List.foldl_append, List.foldl_cons, List.foldl_nil]
    exact ⟨next.1.trans inductionHypothesis.1, next.2⟩

/-! ### Restarts -/

/-- What the calibration of a module is to survive: its next session starts with what is to be
found for it, and a session of another module neither reads nor changes its file. -/
structure Survives (disk : Disk Number) (sessions : List (Session Number)) (uuid : Text) :
    Prop where
  found : ((worldAfter qpcFreq disk sessions).begin uuid).module.calib.shapes =
    ((worldAfter qpcFreq disk sessions).kept uuid).settled
  apart : ∀ session : Session Number, session.uuid ≠ uuid → ∀ file,
    let world := worldAfter qpcFreq disk sessions
    let altered := { world with disk := Function.update world.disk (calibFileName uuid) file }
    (runSession qpcFreq altered session).kept = (runSession qpcFreq world session).kept ∧
      (runSession qpcFreq altered session).disk (calibFileName uuid) = file

/-- The files do not reach the shapes of a session. -/
theorem session_ignores_disk (events : List (Event Number)) (running : Running Number)
    (disk : Disk Number) :
    (events.foldl (sessionStep qpcFreq) { running with disk := disk }).module =
        (events.foldl (sessionStep qpcFreq) running).module ∧
      (events.foldl (sessionStep qpcFreq) { running with disk := disk }).kept =
        (events.foldl (sessionStep qpcFreq) running).kept := by
  induction events generalizing running disk with
  | nil => exact ⟨rfl, rfl⟩
  | cons event rest inductionHypothesis =>
    cases event with
    | frame now mode frame =>
      exact inductionHypothesis (sessionStep qpcFreq running (.frame now mode frame)) disk
    | command op =>
      have next := inductionHypothesis (sessionStep qpcFreq running (.command op))
        (running.module.calib.reset op disk).2
      cases op <;> exact next

theorem runSession_ignores_disk (world : World Number) (disk : Disk Number)
    (session : Session Number) :
    (runSession qpcFreq { world with disk := disk } session).kept =
      (runSession qpcFreq world session).kept := by
  obtain ⟨module, kept⟩ := session_ignores_disk qpcFreq session.events
    (world.begin session.uuid) disk
  unfold runSession
  cases session.shutdown with
  | true =>
    simp only [if_true]
    exact congrArg (Function.update world.kept session.uuid ·.calib.shapes) module
  | false =>
    simp only [Bool.false_eq_true, if_false]
    exact congrArg (Function.update world.kept session.uuid) kept

theorem fresh_eq_settled (engine : CalibrationEngine Number) :
    CalibrationEngine.fresh = engine.settled ↔ ∀ index, (engine.shape index).settled = .fresh := by
  constructor
  · intro same index
    have shape : engine.settled.shape index = (engine.shape index).settled := by
      cases index <;> rfl
    rw [← shape, ← same]
    cases index <;> rfl
  · intro fresh
    unfold CalibrationEngine.settled
    simp only [fresh]
    rfl

/-- What was learned survives the end of a session if and only if nothing was: every value that
was offered to a shape since its last reset, up to the moment whose state is to be found again,
fails the gate of a fresh shape. -/
theorem learned_survives_iff (disk : Disk Number) (sessions : List (Session Number))
    (uuid : Text) :
    Survives qpcFreq disk sessions uuid ↔
      ∀ index, taughtAfter qpcFreq index sessions uuid = false := by
  obtain ⟨-, marks⟩ := worldAfter_marks qpcFreq disk sessions
  have found : ((worldAfter qpcFreq disk sessions).begin uuid).module.calib.shapes =
      ((worldAfter qpcFreq disk sessions).kept uuid).settled ↔
        ∀ index, taughtAfter qpcFreq index sessions uuid = false := by
    refine (fresh_eq_settled _).trans (forall_congr' fun index => ?_)
    exact (marks uuid index).settled_eq_fresh
  refine ⟨fun survives => found.mp survives.found, fun untaught => ⟨found.mpr untaught, ?_⟩⟩
  intro session different file world altered
  refine ⟨runSession_ignores_disk qpcFreq world altered.disk session, ?_⟩
  rw [(runSession_marks qpcFreq altered marks session).1]
  exact Function.update_self _ _ _

end Persistence

/-! ### One frame -/

def moduleU : Text := ascii "module-u"

/-- One frame is learned in a session that is shut down, or in one that saves and crashes; in both
cases the next session knows nothing of it. -/
theorem learned_is_lost :
    ¬Survives 10000000 (fun _ => none) [⟨moduleU, [halfOpenAt 1], true⟩] moduleU ∧
      ¬Survives 10000000 (fun _ => none) [⟨moduleU, [halfOpenAt 1, .command .save], false⟩]
        moduleU := by
  refine ⟨fun survives => ?_, fun survives => ?_⟩
  · have samples := congrArg (·.eyes.opennessL.samples) survives.found
    exact absurd samples (by decide +kernel)
  · have samples := congrArg (·.eyes.opennessL.samples) survives.found
    exact absurd samples (by decide +kernel)

end PairDriver.FaceCalibration
