/-
This file models how the calibration overlay keeps its profile in one registry
value: `LoadProfile` with the reads of `ParseProfile` that can throw,
`SaveProfile`, and the operations that save. A load that fails leaves
`validProfile` false, `WriteProfile` then produces nothing, and `SaveProfile`
writes that nothing over the stored text. The theorem says exactly when the text
survives until the next calibration result.

The JSON reader is a parameter, and so is the conversion of its numbers to
integers. Keys that `ParseProfile` reads only when they have the right type
decide nothing here and are left out.
-/

import PairDriver.Machine

namespace PairDriver.Configuration

/-! ### JSON values -/

/-- A JSON value over a type of numbers. -/
inductive Json (Number : Type) where
  | null
  | bool (value : Bool)
  | number (value : Number)
  | string (value : String)
  | array (items : List (Json Number))
  | object (fields : List (String × Json Number))

/-- The exceptions a load can end in; all of them are runtime errors, which `LoadProfile` catches. -/
inductive LoadError where
  | parse (message : String)
  | noProfiles
  | typeMismatch
  | expectedArray
  | wrongBufferSize
  | geometryNotArray
deriving DecidableEq

section Parse

variable {Number : Type}

/-- `operator[]` on an object: a missing key reads as null. -/
def field (fields : List (String × Json Number)) (key : String) : Json Number :=
  ((fields.find? fun entry => entry.1 == key).map Prod.snd).getD .null

def getBool : Json Number → Except LoadError Bool
  | .bool value => .ok value
  | _ => .error .typeMismatch

def getNumber : Json Number → Except LoadError Number
  | .number value => .ok value
  | _ => .error .typeMismatch

def getString : Json Number → Except LoadError String
  | .string value => .ok value
  | _ => .error .typeMismatch

def getArray : Json Number → Except LoadError (List (Json Number))
  | .array items => .ok items
  | _ => .error .typeMismatch

def getObject : Json Number → Except LoadError (List (String × Json Number))
  | .object fields => .ok fields
  | _ => .error .typeMismatch

/-! ### `ParseProfile` -/

def kProfileSchemaVersion : Int := 3

/-- `LoadFloatArray`. -/
def loadFloatArray (value : Json Number) (numFloats : Nat) : Except LoadError (List Number) :=
  match value with
  | .array items =>
    if items.length = numFloats then items.mapM getNumber else .error .wrongBufferSize
  | _ => .error .expectedArray

/-- The chaperone data of a profile; `geometry` is left empty when its length is corrupt. -/
structure Chaperone (Number : Type) where
  autoApply : Bool
  playSpaceSize : List Number
  standingCenter : List Number
  geometry : List Number

def loadChaperone (chaperone : List (String × Json Number)) :
    Except LoadError (Chaperone Number) := do
  let autoApply ← getBool (field chaperone "auto_apply")
  let playSpaceSize ← loadFloatArray (field chaperone "play_space_size") 2
  let standingCenter ← loadFloatArray (field chaperone "standing_center") 12
  match field chaperone "geometry" with
  | .array geometry =>
    if geometry.length > 0 ∧ geometry.length % 12 ≠ 0 then
      return ⟨autoApply, playSpaceSize, standingCenter, []⟩
    else
      let quads ← loadFloatArray (field chaperone "geometry") geometry.length
      return ⟨autoApply, playSpaceSize, standingCenter, quads⟩
  | _ => .error .geometryNotArray

/-- Three numbers that must be present under the given keys. -/
def getTriple (fields : List (String × Json Number)) (first second third : String) :
    Except LoadError (Number × Number × Number) := do
  let a ← getNumber (field fields first)
  let b ← getNumber (field fields second)
  let c ← getNumber (field fields third)
  return (a, b, c)

/-- The data of a profile whose absence or wrong type makes the load throw. -/
structure Profile (Number : Type) where
  referenceTrackingSystem : String
  targetTrackingSystem : String
  calibratedRotation : Number × Number × Number
  calibratedTranslation : Number × Number × Number
  continuousCalibrationOffset : Number × Number × Number
  chaperone : Option (Chaperone Number)
  refToTargetTranslation : Option (Number × Number × Number)

/-- The part of `ParseProfile` after the check of the schema version. -/
def loadFields (fields : List (String × Json Number)) : Except LoadError (Profile Number) := do
  let referenceTrackingSystem ← getString (field fields "reference_tracking_system")
  let targetTrackingSystem ← getString (field fields "target_tracking_system")
  let rotation ← getTriple fields "roll" "yaw" "pitch"
  let translation ← getTriple fields "x" "y" "z"
  let offset ← getTriple fields "continuous_calibration_target_offset_x"
    "continuous_calibration_target_offset_y" "continuous_calibration_target_offset_z"
  let chaperone ← match field fields "chaperone" with
    | .object chaperone => some <$> loadChaperone chaperone
    | _ => pure none
  let relative ← match field fields "relative_transform" with
    | .object relative => some <$> getTriple relative "x" "y" "z"
    | _ => pure none
  return ⟨referenceTrackingSystem, targetTrackingSystem, rotation, translation, offset, chaperone,
    relative⟩

/-- The schema version of a profile; profiles without one are version 0. -/
def profileVersion (truncate : Number → Int) (fields : List (String × Json Number)) : Int :=
  match field fields "schema_version" with
  | .number version => truncate version
  | _ => 0

/-- `ParseProfile`, given the parsed text. A profile of a newer schema is refused without an
exception: the result is none. -/
def parseProfile (truncate : Number → Int) (parsed : Except String (Json Number)) :
    Except LoadError (Option (Profile Number)) := do
  let value ← parsed.mapError .parse
  match ← getArray value with
  | [] => .error .noProfiles
  | first :: _ =>
    let fields ← getObject first
    if profileVersion truncate fields > kProfileSchemaVersion then return none
    else some <$> loadFields fields

end Parse

/-! ### The registry value -/

/-- What the two registry queries of `ReadRegistryKey` do when the value is there. -/
inductive ReadAttempt where
  | succeeds
  | sizeQueryFails
  | valueReadFails
deriving DecidableEq

inductive RegistryReadOutcome where
  | absent
  | readFailed
  | success
deriving DecidableEq

/-- `ReadRegistryKey`. -/
def readRegistryKey (attempt : ReadAttempt) (stored : Option String) :
    RegistryReadOutcome × String :=
  match attempt, stored with
  | .sizeQueryFails, _ => (.readFailed, "")
  | _, none => (.absent, "")
  | .valueReadFails, some _ => (.readFailed, "")
  | .succeeds, some text => (.success, text)

/-- `WriteRegistryKey`; `written` tells whether both registry calls succeed. -/
def writeRegistryKey (written : Bool) (text : String) (stored : Option String) : Option String :=
  if written then some text else stored

/-- The flag of the calibration context and the registry value. -/
structure Store where
  validProfile : Bool := false
  stored : Option String := none
deriving DecidableEq

/-- `LoadProfile`. -/
def loadProfile {Number : Type} (parse : String → Except String (Json Number))
    (truncate : Number → Int) (attempt : ReadAttempt) (store : Store) : Store :=
  let text := (readRegistryKey attempt store.stored).2
  if text = "" then { store with validProfile := false }
  else match parseProfile truncate (parse text) with
    | .ok (some _) => { store with validProfile := true }
    | .ok none => { store with validProfile := false }
    | .error _ => { store with validProfile := false }

/-- `WriteProfile`; `serialized` is the text of the context's fields. -/
def writeProfile (store : Store) (serialized : String) : String :=
  if store.validProfile then serialized else ""

/-- `SaveProfile`. -/
def saveProfile (serialized : String) (written : Bool) (store : Store) : Store :=
  { store with
    stored := writeRegistryKey written (writeProfile store serialized) store.stored }

/-! ### Operations -/

/-- The operations of a session that save: a change of a setting, in the tabs or in the wizard;
`EndContinuousCalibration`; the button that clears the profile, offered for a valid one only; and
the end of a tick whose calibration was accepted. -/
inductive Operation where
  | settingsChange (serialized : String) (written : Bool)
  | endContinuousCalibration (serialized : String) (written : Bool)
  | clearCalibration (written : Bool)
  | calibrationResult (serialized : String) (written : Bool)
deriving DecidableEq

def step (store : Store) : Operation → Option Store
  | .settingsChange serialized written => some (saveProfile serialized written store)
  | .endContinuousCalibration serialized written => some (saveProfile serialized written store)
  | .clearCalibration written =>
    if store.validProfile then
      some (saveProfile "" written { store with validProfile := false })
    else none
  | .calibrationResult serialized written =>
    some (saveProfile serialized written { store with validProfile := true })

/-- The operation is the one that makes the profile valid. -/
def Operation.isResult : Operation → Bool
  | .calibrationResult _ _ => true
  | _ => false

/-- The registry write of the operation succeeds. -/
def Operation.written : Operation → Bool
  | .settingsChange _ written => written
  | .endContinuousCalibration _ written => written
  | .clearCalibration written => written
  | .calibrationResult _ written => written

/-! ### Loads -/

section Load

variable {Number : Type} (parse : String → Except String (Json Number)) (truncate : Number → Int)

@[simp]
theorem loadProfile_stored (attempt : ReadAttempt) (store : Store) :
    (loadProfile parse truncate attempt store).stored = store.stored := by
  unfold loadProfile
  simp only
  split
  · rfl
  · split
    · rfl
    · rfl
    · rfl

/-- A load succeeds when it reads a non-empty text that parses as a profile of a schema this build
supports, with all the data a profile must have. -/
theorem loadProfile_valid_iff (attempt : ReadAttempt) (store : Store) :
    (loadProfile parse truncate attempt store).validProfile = true ↔
      ∃ text profile, attempt = .succeeds ∧ store.stored = some text ∧ text ≠ "" ∧
        parseProfile truncate (parse text) = .ok (some profile) := by
  unfold loadProfile
  constructor
  · intro valid
    match attempt, read : store.stored with
    | .sizeQueryFails, _ => simp [readRegistryKey] at valid
    | .succeeds, none => simp [readRegistryKey, read] at valid
    | .valueReadFails, none => simp [readRegistryKey, read] at valid
    | .valueReadFails, some _ => simp [readRegistryKey, read] at valid
    | .succeeds, some text =>
      simp only [readRegistryKey, read] at valid
      split at valid
      · cases valid
      · rename_i nonempty
        split at valid
        · rename_i profile parsed
          exact ⟨text, profile, rfl, rfl, nonempty, parsed⟩
        · cases valid
        · cases valid
  · rintro ⟨text, profile, rfl, read, nonempty, parsed⟩
    simp only [readRegistryKey, read, nonempty, if_false, parsed]

theorem loadProfile_newer {text : String} {fields : List (String × Json Number)}
    {rest : List (Json Number)} (parsed : parse text = .ok (.array (.object fields :: rest)))
    (newer : profileVersion truncate fields > kProfileSchemaVersion) (attempt : ReadAttempt)
    (store : Store) (read : store.stored = some text) :
    (loadProfile parse truncate attempt store).validProfile = false := by
  rw [Bool.eq_false_iff, ne_eq, loadProfile_valid_iff]
  rintro ⟨other, profile, _, same, _, loaded⟩
  obtain rfl : text = other := Option.some.inj (read.symm.trans same)
  have refused : parseProfile truncate (parse text) = .ok none := by
    rw [parsed]
    exact if_pos newer
  rw [refused] at loaded
  cases loaded

end Load

/-! ### Saves -/

theorem saveProfile_of_invalid (serialized : String) (written : Bool) {store : Store}
    (invalid : store.validProfile = false) :
    saveProfile serialized written store =
      { store with stored := if written then some "" else store.stored } := by
  rw [saveProfile, writeProfile, invalid]
  rfl

/-- Without a valid profile, an operation that is not a calibration result leaves the profile
invalid and, if its write succeeds, empties the registry value. -/
theorem step_of_invalid {store after : Store} {operation : Operation}
    (invalid : store.validProfile = false) (noResult : operation.isResult = false)
    (stepped : step store operation = some after) :
    after.validProfile = false ∧
      after.stored = if operation.written then some "" else store.stored := by
  cases operation with
  | settingsChange serialized written =>
    rw [step, saveProfile_of_invalid serialized written invalid] at stepped
    obtain rfl := Option.some.inj stepped
    exact ⟨invalid, rfl⟩
  | endContinuousCalibration serialized written =>
    rw [step, saveProfile_of_invalid serialized written invalid] at stepped
    obtain rfl := Option.some.inj stepped
    exact ⟨invalid, rfl⟩
  | clearCalibration written =>
    rw [step, invalid] at stepped
    cases stepped
  | calibrationResult serialized written => cases noResult

theorem run_of_invalid {store after : Store} {operations : List Operation}
    (invalid : store.validProfile = false)
    (noResult : ∀ operation ∈ operations, operation.isResult = false)
    (ran : run step store operations = some after) :
    after.validProfile = false ∧
      after.stored = if operations.any Operation.written then some "" else store.stored := by
  induction operations generalizing store with
  | nil =>
    obtain rfl : store = after := Option.some.inj ran
    exact ⟨invalid, rfl⟩
  | cons operation rest inductionHypothesis =>
    obtain ⟨middle, stepped, later⟩ := Option.bind_eq_some_iff.mp ran
    obtain ⟨stillInvalid, stored⟩ :=
      step_of_invalid invalid (noResult operation List.mem_cons_self) stepped
    obtain ⟨endsInvalid, endsStored⟩ := inductionHypothesis stillInvalid
      (fun other member => noResult other (List.mem_cons_of_mem operation member)) later
    refine ⟨endsInvalid, ?_⟩
    rw [endsStored, stored, List.any_cons]
    cases operation.written with
    | true => simp
    | false => simp

/-- After a load that failed, for whatever reason, and until a calibration result, the stored text
is unchanged exactly when no save was written or the text was empty to begin with. -/
theorem stored_unchanged_iff {Number : Type} (parse : String → Except String (Json Number))
    (truncate : Number → Int) (attempt : ReadAttempt) (store after : Store)
    (operations : List Operation)
    (failed : (loadProfile parse truncate attempt store).validProfile = false)
    (noResult : ∀ operation ∈ operations, operation.isResult = false)
    (ran : run step (loadProfile parse truncate attempt store) operations = some after) :
    after.stored = store.stored ↔
      store.stored = some "" ∨ ∀ operation ∈ operations, operation.written = false := by
  obtain ⟨_, stored⟩ := run_of_invalid failed noResult ran
  rw [stored, loadProfile_stored]
  have none_written : (∀ operation ∈ operations, operation.written = false) ↔
      operations.any Operation.written = false := by
    rw [List.any_eq_false]
    simp only [Bool.not_eq_true]
  rw [none_written]
  cases operations.any Operation.written with
  | true => simp [eq_comm]
  | false => simp

/-- A profile written by a newer build, and a reader that knows this text. -/
def newerProfile : String := "[\x7b\"schema_version\":4\x7d]"

def readNewer (text : String) : Except String (Json Int) :=
  if text = newerProfile then .ok (.array [.object [("schema_version", .number 4)]])
  else .error "syntax error"

theorem load_newerProfile_fails :
    (loadProfile readNewer id .succeeds { stored := some newerProfile }).validProfile = false :=
  loadProfile_newer readNewer id (if_pos rfl) (by decide) .succeeds _ rfl

theorem stored_unchanged_iff_newer :
    (loadProfile readNewer id .succeeds { stored := some newerProfile }).validProfile = false ∧
      ∃ after, run step (loadProfile readNewer id .succeeds { stored := some newerProfile })
        [.settingsChange "" false] = some after ∧ after.stored = some newerProfile := by
  refine ⟨load_newerProfile_fails, _, rfl, ?_⟩
  exact (stored_unchanged_iff readNewer id .succeeds { stored := some newerProfile } _
    [.settingsChange "" false] load_newerProfile_fails (by decide) rfl).mpr (Or.inr (by decide))

/-- The profile of the newer build is refused, and ending continuous calibration erases it. -/
theorem save_erases_newer_profile :
    (loadProfile readNewer id .succeeds { stored := some newerProfile }).validProfile = false ∧
      run step (loadProfile readNewer id .succeeds { stored := some newerProfile })
        [.endContinuousCalibration "" true] = some { stored := some "" } ∧ newerProfile ≠ "" := by
  refine ⟨load_newerProfile_fails, ?_, by decide⟩
  have invalid := load_newerProfile_fails
  rw [run, step, saveProfile_of_invalid "" true invalid, invalid]
  rfl

end PairDriver.Configuration
