/-
This file proves what a failed load leaves of the context. `ParseProfile` assigns
the context while it reads, and `LoadProfile` only catches what it throws, so a
failure keeps all that was assigned before it. Whether a text fails does not depend
on the context. A text that fails before the first assignment leaves every context
alone and no other failing text does; one that fails after the devices leaves the
state machine ready to start a continuous calibration.
-/

import PairDriver.ProfileRoundTrip

namespace PairDriver.ProfileCodec

open PairDriver.Configuration (Json LoadError field getBool getNumber getString getArray getObject
  getTriple kProfileSchemaVersion profileVersion)

/-! ### Phases that throw on every state or on none -/

section Uniform

variable {State Part : Type}

def Accepts (phase : Phase State) : Prop := ∀ state, ∃ after, phase state = .ok after

def Rejects (phase : Phase State) : Prop := ∀ state, ∃ error, phase state = .error error

/-- Whether the phase throws does not depend on the state. -/
def Uniform (phase : Phase State) : Prop := Accepts phase ∨ Rejects phase

theorem uniform_assign (update : State → State) : Uniform (assign update) :=
  Or.inl fun state => ⟨update state, rfl⟩

theorem uniform_require {Read : Type} (read : Except LoadError Read) (set : Read → State → State) :
    Uniform (require read set) := by
  cases read with
  | ok value => exact Or.inl fun state => ⟨set value state, rfl⟩
  | error error => exact Or.inr fun state => ⟨(error, state), rfl⟩

theorem uniform_within {part : State → Part} {set : Part → State → State} {phase : Phase Part}
    (uniform : Uniform phase) : Uniform (within part set phase) := by
  rcases uniform with accepts | rejects
  · refine Or.inl fun state => ?_
    obtain ⟨after, ran⟩ := accepts (part state)
    exact ⟨set after state, by rw [within, ran]⟩
  · refine Or.inr fun state => ?_
    obtain ⟨⟨error, after⟩, ran⟩ := rejects (part state)
    exact ⟨(error, set after state), by rw [within, ran]⟩

theorem uniform_runPhases {phases : List (Phase State)}
    (each : ∀ phase ∈ phases, Uniform phase) : Uniform (runPhases phases) := by
  induction phases with
  | nil => exact Or.inl fun state => ⟨state, rfl⟩
  | cons phase rest inductionHypothesis =>
    have later := inductionHypothesis fun other member => each other (List.mem_cons_of_mem _ member)
    rcases each phase List.mem_cons_self with accepts | rejects
    · rcases later with restAccepts | restRejects
      · refine Or.inl fun state => ?_
        obtain ⟨middle, ran⟩ := accepts state
        rw [runPhases_of_ok ran]
        exact restAccepts middle
      · refine Or.inr fun state => ?_
        obtain ⟨middle, ran⟩ := accepts state
        rw [runPhases_of_ok ran]
        exact restRejects middle
    · refine Or.inr fun state => ?_
      obtain ⟨error, ran⟩ := rejects state
      refine ⟨error, ?_⟩
      show (phase state).bind (runPhases rest) = .error error
      rw [ran]
      rfl

/-- A phase that throws on both of two states or on neither is uniform. -/
theorem uniform_of_isOk {phase : Phase State}
    (same : ∀ first second, (phase first).isOk = (phase second).isOk) : Uniform phase := by
  by_cases accepts : Accepts phase
  · exact Or.inl accepts
  · obtain ⟨first, throws⟩ := not_forall.mp accepts
    refine Or.inr fun second => ?_
    have agree := same first second
    cases ranFirst : phase first with
    | ok after => exact absurd ⟨after, ranFirst⟩ throws
    | error firstError =>
      cases ranSecond : phase second with
      | error error => exact ⟨error, rfl⟩
      | ok after =>
        rw [ranFirst, ranSecond] at agree
        cases agree

end Uniform

section Failure

variable {Number Single Rotation : Type} (platform : Platform Number Single Rotation)

/-- The first element that is no number decides, not what the buffer held. -/
theorem fillFloats_error (items : List (Json Number)) {first second : List Single}
    (same : first.length = second.length) :
    (fillFloats platform items first).1 = (fillFloats platform items second).1 := by
  induction items generalizing first second with
  | nil => cases first <;> cases second <;> rfl
  | cons item items inductionHypothesis =>
    cases first with
    | nil =>
      rw [List.length_eq_zero_iff.mp same.symm]
    | cons firstOld firstRest =>
      cases second with
      | nil => cases same
      | cons secondOld secondRest =>
        rw [fillFloats, fillFloats]
        cases getNumber item with
        | ok value => exact inductionHypothesis (Nat.succ.inj same)
        | error error => rfl

theorem uniform_loadFloatArray {size : Nat} (value : Json Number) :
    Uniform (loadFloatArray platform value : Phase (Floats Single size)) := by
  cases value with
  | array items =>
    refine uniform_of_isOk fun first second => ?_
    have errors := fillFloats_error platform items (first.2.trans second.2.symm)
    unfold loadFloatArray
    dsimp only
    rw [errors]
    split
    · cases (fillFloats platform items second.1).1 <;> rfl
    · rfl
  | null | bool _ | number _ | string _ | object _ =>
    exact Or.inr fun buffer => ⟨(.expectedArray, buffer), rfl⟩

theorem uniform_loadGeometry (value : Json Number) :
    Uniform (loadGeometry platform value : Phase (Chaperone Single)) := by
  cases value with
  | array items =>
    refine uniform_of_isOk fun first second => ?_
    unfold loadGeometry
    dsimp only
    split
    · rename_i whole
      have errors := fillFloats_error platform items
        ((resized_length platform items.length whole.2 first.geometry.1).trans
          (resized_length platform items.length whole.2 second.geometry.1).symm)
      rw [errors]
      cases (fillFloats platform items
        (resized platform items.length whole.2 second.geometry.1).1).1 <;> rfl
    · rfl
  | null | bool _ | number _ | string _ | object _ =>
    exact Or.inr fun chaperone => ⟨(.geometryNotArray, chaperone), rfl⟩

theorem uniform_loadChaperone (value : Json Number) :
    Uniform (loadChaperone platform value : Phase (Chaperone Single)) := by
  cases value with
  | object fields =>
    refine uniform_runPhases ?_
    simp only [List.forall_mem_cons]
    exact ⟨uniform_require _ _, uniform_within (uniform_loadFloatArray platform _),
      uniform_within (uniform_loadFloatArray platform _), uniform_loadGeometry platform _,
      fun phase member => absurd member List.not_mem_nil⟩
  | null | bool _ | number _ | string _ | array _ => exact uniform_assign id

theorem uniform_loadRelativeTransform (value : Json Number) :
    Uniform (loadRelativeTransform platform value : Phase (Context Number Single Rotation)) := by
  cases value with
  | object fields => exact uniform_require _ _
  | null | bool _ | number _ | string _ | array _ => exact uniform_assign id

section Load

variable [DecidableEq Number]

/-- Whether the assignments of `ParseProfile` throw depends on the profile alone. -/
theorem uniform_loadPhases (fields : List (String × Json Number)) :
    Uniform (runPhases (loadPhases platform fields)) := by
  refine uniform_runPhases ?_
  simp only [loadPhases, List.forall_mem_cons]
  refine ⟨?_, ?_, ?_, ?_, ?_, ?_, ?_, ?_, ?_, ?_, ?_, ?_, ?_, ?_,
    uniform_within (uniform_loadChaperone platform _), uniform_assign _,
    uniform_loadRelativeTransform platform _, uniform_assign _,
    fun phase member => absurd member List.not_mem_nil⟩
  all_goals
    first
    | exact uniform_require _ _
    | exact uniform_assign _

/-! ### A failed load -/

/-- `ParseProfile` throws, or refuses the schema. -/
def Fails (parsed : Except String (Json Number)) (ctx : Context Number Single Rotation) : Prop :=
  (∃ error, parseProfile platform parsed ctx = .error error) ∨
    ∃ fields, profileFields parsed = .ok fields ∧
      kProfileSchemaVersion < profileVersion platform.truncate fields

omit [DecidableEq Number] in
/-- No field of the text is read: it is no profile, or one of a newer schema. -/
def NotRead (parsed : Except String (Json Number)) : Prop :=
  ∀ fields, profileFields parsed = .ok fields →
    kProfileSchemaVersion < profileVersion platform.truncate fields

/-- The profile asks for continuous calibration and has all that is read before. -/
def AsksForContinuous (fields : List (String × Json Number)) : Prop :=
  ((∀ key ∈ ["reference_tracking_system", "target_tracking_system"],
    ∃ text, field fields key = .string text) ∧
  ∀ key ∈ ["roll", "yaw", "pitch", "x", "y", "z"], ∃ number, field fields key = .number number) ∧
  evaluateAsBoolean platform (field fields "autostart_continuous_calibration") = true

/-- The text is read as far as the mode of the state machine, and starts a continuous
calibration. -/
def Autostarts (parsed : Except String (Json Number)) : Prop :=
  ∃ fields, profileFields parsed = .ok fields ∧
    profileVersion platform.truncate fields ≤ kProfileSchemaVersion ∧
    AsksForContinuous platform fields

omit [DecidableEq Number] in
/-- The context is that of before the load, or a cleared one. -/
def Unharmed (before after : Context Number Single Rotation) : Prop :=
  after = { before with validProfile := false } ∨ after = clear platform before

/-- A text that fails on one context fails on every other. -/
theorem fails_of_fails {parsed : Except String (Json Number)}
    {ctx : Context Number Single Rotation} (fails : Fails platform parsed ctx)
    (other : Context Number Single Rotation) : Fails platform parsed other := by
  rcases fails with ⟨error, thrown⟩ | refused
  · cases found : profileFields parsed with
    | error missing =>
      refine Or.inl ⟨(missing, other), ?_⟩
      unfold parseProfile
      rw [found]
    | ok fields =>
      rcases lt_or_ge kProfileSchemaVersion (profileVersion platform.truncate fields) with
        newer | supported
      · exact Or.inr ⟨fields, found, newer⟩
      · rw [parseProfile_eq platform found supported] at thrown
        rcases uniform_loadPhases platform (migratedFields platform fields) with accepts | rejects
        · obtain ⟨after, ran⟩ := accepts ctx
          rw [ran] at thrown
          cases thrown
        · refine Or.inl ?_
          rw [parseProfile_eq platform found supported]
          exact rejects other
  · exact Or.inr refused

/-- A text that is not read leaves the context alone. -/
theorem loadProfile_of_not_read {parse : String → Except String (Json Number)} {text : String}
    (stored : text ≠ "") (notRead : NotRead platform (parse text))
    (ctx : Context Number Single Rotation) :
    loadProfile platform parse text ctx = { ctx with validProfile := false } := by
  unfold loadProfile
  dsimp only
  rw [if_neg stored]
  unfold parseProfile
  cases found : profileFields (parse text) with
  | error error => rfl
  | ok fields =>
    dsimp only
    rw [if_pos (notRead fields found)]
    rfl

theorem loadProfile_of_read {parse : String → Except String (Json Number)} {text : String}
    (stored : text ≠ "") {fields : List (String × Json Number)}
    (found : profileFields (parse text) = .ok fields)
    (supported : profileVersion platform.truncate fields ≤ kProfileSchemaVersion)
    (ctx : Context Number Single Rotation) :
    loadProfile platform parse text ctx =
      outcome (runPhases (loadPhases platform (migratedFields platform fields))
        { ctx with validProfile := false }) := by
  unfold loadProfile
  dsimp only
  rw [if_neg stored, parseProfile_eq platform found supported]

omit [DecidableEq Number] in
theorem exists_fields_of_read {parsed : Except String (Json Number)}
    (read : ¬NotRead platform parsed) :
    ∃ fields, profileFields parsed = .ok fields ∧
      profileVersion platform.truncate fields ≤ kProfileSchemaVersion := by
  obtain ⟨fields, missed⟩ := not_forall.mp read
  obtain ⟨found, notNewer⟩ := Classical.not_imp.mp missed
  exact ⟨fields, found, not_lt.mp notNewer⟩

/-- A text that is read leaves alignment parameters that do not depend on the context. -/
theorem exists_harmed {parse : String → Except String (Json Number)} {text : String}
    (stored : text ≠ "") (read : ¬NotRead platform (parse text)) :
    ∃ ctx : Context Number Single Rotation,
      ¬Unharmed platform ctx (loadProfile platform parse text ctx) := by
  obtain ⟨fields, found, supported⟩ := exists_fields_of_read platform read
  have params : ∀ ctx : Context Number Single Rotation,
      (loadProfile platform parse text ctx).alignmentSpeedParams.alignSpeedTiny =
        castOr platform (field (paramFields
          (field (migratedFields platform fields) "alignment_params")) "align_speed_tiny")
          (resetParams platform).alignSpeedTiny := by
    intro ctx
    rw [loadProfile_of_read platform stored found supported, outcome_params,
      loadAlignmentParams_params]
  generalize castOr platform (field (paramFields
    (field (migratedFields platform fields) "alignment_params")) "align_speed_tiny")
    (resetParams platform).alignSpeedTiny = loaded at params
  have different : platform.literal 0 ≠ platform.literal 1 := by
    intro same
    have zero : platform.truncate (platform.literal 0) = 0 := platform.truncate_literal 0
    have one : platform.truncate (platform.literal 1) = 1 := platform.truncate_literal 1
    rw [same, one] at zero
    cases zero
  obtain ⟨other, otherLoaded⟩ : ∃ other, other ≠ loaded := by
    by_cases zero : platform.literal 0 = loaded
    · exact ⟨platform.literal 1, fun one => different (zero.trans one.symm)⟩
    · exact ⟨platform.literal 0, zero⟩
  let start : Context Number Single Rotation := { freshContext platform with
    alignmentSpeedParams := { resetParams platform with alignSpeedTiny := other } }
  refine ⟨start, ?_⟩
  have tiny := params start
  rintro (unchanged | cleared)
  · rw [unchanged] at tiny
    exact otherLoaded tiny
  · rw [cleared] at tiny
    exact otherLoaded tiny

omit [DecidableEq Number] in
theorem getString_ok_iff (value : Json Number) :
    (∃ text, getString value = .ok text) ↔ ∃ text, value = .string text := by
  cases value with
  | string text => exact ⟨fun _ => ⟨text, rfl⟩, fun _ => ⟨text, rfl⟩⟩
  | null | bool _ | number _ | array _ | object _ =>
    constructor
    · rintro ⟨_, read⟩
      cases read
    · rintro ⟨_, same⟩
      cases same

omit [DecidableEq Number] in
theorem getNumber_ok_iff (value : Json Number) :
    (∃ number, getNumber value = .ok number) ↔ ∃ number, value = .number number := by
  cases value with
  | number number => exact ⟨fun _ => ⟨number, rfl⟩, fun _ => ⟨number, rfl⟩⟩
  | null | bool _ | string _ | array _ | object _ =>
    constructor
    · rintro ⟨_, read⟩
      cases read
    · rintro ⟨_, same⟩
      cases same

/-- The phases before the devices pass if the tracking systems and the calibration are there. -/
theorem before_devices_iff (fields : List (String × Json Number))
    (ctx : Context Number Single Rotation) :
    (∃ middle, runPhases ((loadPhases platform fields).take 9) ctx = .ok middle) ↔
      (∀ key ∈ ["reference_tracking_system", "target_tracking_system"],
        ∃ text, field fields key = .string text) ∧
      ∀ key ∈ ["roll", "yaw", "pitch", "x", "y", "z"],
        ∃ number, field fields key = .number number := by
  simp only [List.forall_mem_cons, List.not_mem_nil, false_implies, implies_true, and_true,
    ← getString_ok_iff, ← getNumber_ok_iff]
  unfold loadPhases
  simp only [List.take_succ_cons, List.take_zero]
  constructor
  · rintro ⟨middle, ran⟩
    obtain ⟨_, -, ran⟩ := runPhases_cons_ok ran
    obtain ⟨_, reference, ran⟩ := runPhases_cons_ok ran
    obtain ⟨_, target, ran⟩ := runPhases_cons_ok ran
    obtain ⟨_, roll, ran⟩ := runPhases_cons_ok ran
    obtain ⟨_, yaw, ran⟩ := runPhases_cons_ok ran
    obtain ⟨_, pitch, ran⟩ := runPhases_cons_ok ran
    obtain ⟨_, x, ran⟩ := runPhases_cons_ok ran
    obtain ⟨_, y, ran⟩ := runPhases_cons_ok ran
    obtain ⟨_, z, -⟩ := runPhases_cons_ok ran
    exact ⟨⟨(require_ok reference).imp fun _ read => read.1,
      (require_ok target).imp fun _ read => read.1⟩,
      (require_ok roll).imp fun _ read => read.1, (require_ok yaw).imp fun _ read => read.1,
      (require_ok pitch).imp fun _ read => read.1, (require_ok x).imp fun _ read => read.1,
      (require_ok y).imp fun _ read => read.1, (require_ok z).imp fun _ read => read.1⟩
  · rintro ⟨⟨⟨_, reference⟩, _, target⟩, ⟨_, roll⟩, ⟨_, yaw⟩, ⟨_, pitch⟩, ⟨_, x⟩, ⟨_, y⟩, _, z⟩
    rw [runPhases_assign, reference, target, roll, yaw, pitch, x, y, z]
    exact ⟨_, rfl⟩

/-- A migration changes nothing that is read so far. -/
theorem asksForContinuous_migratedFields (fields : List (String × Json Number)) :
    AsksForContinuous platform (migratedFields platform fields) ↔
      AsksForContinuous platform fields := by
  unfold AsksForContinuous
  simp only [List.forall_mem_cons, List.not_mem_nil, false_implies, implies_true, and_true]
  simp (disch := decide) only [field_migratedFields]

/-- The state after the phases is the standby of a continuous calibration exactly if the profile
asks for one, whether or not the rest of it is loaded. -/
theorem outcome_standby_iff (fields : List (String × Json Number))
    (ctx : Context Number Single Rotation) (idle : ctx.state ≠ .continuousStandby) :
    (outcome (runPhases (loadPhases platform fields) ctx)).state = .continuousStandby ↔
      AsksForContinuous platform fields := by
  rw [outcome_state, AsksForContinuous, ← before_devices_iff platform fields ctx]
  split
  · rename_i middle ran
    split
    · rename_i autostart
      exact ⟨fun _ => ⟨⟨middle, ran⟩, autostart⟩, fun _ => rfl⟩
    · rename_i manual
      exact ⟨fun standby => absurd standby idle, fun asked => absurd asked.2 manual⟩
  · rename_i error ran
    refine ⟨fun standby => absurd standby idle, ?_⟩
    rintro ⟨⟨middle, passed⟩, -⟩
    rw [ran] at passed
    cases passed

theorem loadProfile_standby_iff {parse : String → Except String (Json Number)} {text : String}
    (stored : text ≠ "") {ctx : Context Number Single Rotation}
    (idle : ctx.state ≠ .continuousStandby) :
    (loadProfile platform parse text ctx).state = .continuousStandby ↔
      Autostarts platform (parse text) := by
  by_cases notRead : NotRead platform (parse text)
  · rw [loadProfile_of_not_read platform stored notRead]
    refine ⟨fun standby => absurd standby idle, ?_⟩
    rintro ⟨fields, found, supported, -⟩
    exact absurd (notRead fields found) (not_lt.mpr supported)
  · obtain ⟨fields, found, supported⟩ := exists_fields_of_read platform notRead
    rw [loadProfile_of_read platform stored found supported,
      outcome_standby_iff platform _ { ctx with validProfile := false } idle,
      asksForContinuous_migratedFields]
    constructor
    · exact fun asks => ⟨fields, found, supported, asks⟩
    · rintro ⟨others, othersFound, -, asks⟩
      obtain rfl : fields = others := Except.ok.inj (found.symm.trans othersFound)
      exact asks

/-- What a failed load leaves. Every context is unharmed exactly if the text fails before any field
of it is read, and the state is not left in standby exactly if the text does not get as far as
starting a continuous calibration. -/
theorem failed_load_harmless_iff (parse : String → Except String (Json Number)) {text : String}
    (stored : text ≠ "") {failing : Context Number Single Rotation}
    (fails : Fails platform (parse text) failing) :
    ((∀ ctx : Context Number Single Rotation,
      Fails platform (parse text) { ctx with validProfile := false } →
        Unharmed platform ctx (loadProfile platform parse text ctx)) ↔
      NotRead platform (parse text)) ∧
    (∀ ctx : Context Number Single Rotation, ctx.state ≠ .continuousStandby →
      ((loadProfile platform parse text ctx).state ≠ .continuousStandby ↔
        ¬Autostarts platform (parse text))) := by
  refine ⟨⟨?_, ?_⟩, fun ctx idle => not_congr (loadProfile_standby_iff platform stored idle)⟩
  · intro unharmed
    by_contra read
    obtain ⟨ctx, harmed⟩ := exists_harmed platform stored read
    exact harmed (unharmed ctx (fails_of_fails platform fails _))
  · intro notRead ctx _
    exact Or.inl (loadProfile_of_not_read platform stored notRead ctx)

end Load

end Failure

/-! ### A profile that is read in half -/

section Instances

/-- A profile that asks for continuous calibration and lacks the offset of the tracker. -/
def halfRead : Json Rat :=
  .array [.object
    [("schema_version", .number 3),
      ("reference_tracking_system", .string "oculus"),
      ("target_tracking_system", .string "lighthouse"),
      ("roll", .number 0), ("yaw", .number 90), ("pitch", .number 0),
      ("x", .number 10), ("y", .number 0), ("z", .number 0),
      ("autostart_continuous_calibration", .bool true)]]

def halfText : String :=
  "[\x7b\"schema_version\":3,\"reference_tracking_system\":\"oculus\"," ++
    "\"target_tracking_system\":\"lighthouse\",\"roll\":0,\"yaw\":90,\"pitch\":0," ++
    "\"x\":10,\"y\":0,\"z\":0,\"autostart_continuous_calibration\":true\x7d]"

/-- A profile of a newer schema. -/
def newerText : String := "[\x7b\"schema_version\":4\x7d]"

/-- What the two texts are parsed as. -/
def parseStored (text : String) : Except String (Json Rat) :=
  if text = halfText then .ok halfRead
  else if text = newerText then .ok (.array [.object [("schema_version", .number 4)]])
  else .error "syntax error"

theorem failed_load_harmless_newer :
    Unharmed rationalPlatform (freshContext rationalPlatform)
      (loadProfile rationalPlatform parseStored newerText (freshContext rationalPlatform)) ∧
    (loadProfile rationalPlatform parseStored newerText (freshContext rationalPlatform)).state ≠
      .continuousStandby := by
  have refused : ∀ ctx, Fails rationalPlatform (parseStored newerText) ctx :=
    fun ctx => Or.inr ⟨_, rfl, by decide +kernel⟩
  have harmless := failed_load_harmless_iff rationalPlatform parseStored (by decide)
    (refused (freshContext rationalPlatform))
  refine ⟨harmless.1.mpr ?_ _ (refused _), (harmless.2 _ (by decide)).mpr ?_⟩
  · intro fields found
    obtain rfl := Except.ok.inj found
    decide +kernel
  · rintro ⟨fields, found, supported, -⟩
    obtain rfl := Except.ok.inj found
    exact absurd supported (by decide +kernel)

/-- The half profile throws at the missing offset, and a fresh context is left in standby. -/
theorem half_read_profile_autostarts :
    Fails rationalPlatform (parseStored halfText)
      { freshContext rationalPlatform with validProfile := false } ∧
    (loadProfile rationalPlatform parseStored halfText (freshContext rationalPlatform)).state =
      .continuousStandby ∧
    ¬Unharmed rationalPlatform (freshContext rationalPlatform)
      (loadProfile rationalPlatform parseStored halfText (freshContext rationalPlatform)) := by
  have standby : (loadProfile rationalPlatform parseStored halfText
      (freshContext rationalPlatform)).state = .continuousStandby := by decide +kernel
  have parsed : parseStored halfText = .ok halfRead := if_pos rfl
  refine ⟨Or.inl ?_, standby, ?_⟩
  · rw [parsed]
    exact ⟨_, rfl⟩
  · rintro (unchanged | cleared)
    · rw [unchanged] at standby
      cases standby
    · rw [cleared] at standby
      cases standby

end Instances

end PairDriver.ProfileCodec
