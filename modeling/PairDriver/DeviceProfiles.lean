/-
This file models the device profiles of the input health overlay as they are written to disk
and read back. The hash of the serial is written as sixteen hexadecimal digits, the counters
of a record as doubles, and a number that is not finite stops the writer. The reader takes
every field by its key, or its default, and drops the records of paths that are not
compensated.

A profile comes back as it was, but for the records that are dropped, a hash that was missing
and counters that are no double. What comes back once comes back again unchanged.
-/

import PairDriver.InputCompensation

namespace PairDriver.InputHealth.Profiles

/-! ### Hexadecimal numbers -/

/-- A digit of `%llx`. -/
def hexDigit (value : Nat) : UInt8 :=
  if value < 10 then UInt8.ofNat (0x30 + value) else UInt8.ofNat (0x61 + (value - 10))

/-- The value of a digit in either case. -/
def hexValue (byte : UInt8) : Option Nat :=
  if 0x30 ≤ byte ∧ byte ≤ 0x39 then some (byte.toNat - 0x30)
  else if 0x61 ≤ byte ∧ byte ≤ 0x66 then some (byte.toNat - 0x61 + 10)
  else if 0x41 ≤ byte ∧ byte ≤ 0x46 then some (byte.toNat - 0x41 + 10)
  else none

/-- The last digits of a number. -/
def hexDigits : Nat → Nat → Text
  | 0, _ => []
  | count + 1, value => hexDigits count (value / 16) ++ [hexDigit (value % 16)]

/-- `%016llx`. -/
def formatHash (hash : UInt64) : Text :=
  hexDigits 16 hash.toNat

def isSpace (byte : UInt8) : Bool :=
  byte == 0x20 || 0x09 ≤ byte && byte ≤ 0x0D

def readDigits (digits : Text) : Nat :=
  digits.foldl (fun value byte => value * 16 + (hexValue byte).getD 0) 0

/-- A sign, and whether it is a minus. -/
def takeSign : Text → Bool × Text
  | 0x2D :: rest => (true, rest)
  | 0x2B :: rest => (false, rest)
  | text => (false, text)

/-- The prefix `0x` in front of a digit. -/
def dropPrefix (text : Text) : Text :=
  match text with
  | 0x30 :: letter :: rest =>
    if (letter = 0x78 ∨ letter = 0x58) ∧ (rest.head?.bind hexValue).isSome then rest else text
  | _ => text

/-- `strtoull` to the base 16 on a C string: blanks, a sign, a prefix and digits. A number that
does not fit is the greatest one, and a minus negates. -/
def strtoull16 (text : Text) : UInt64 :=
  let (negative, unsigned) := takeSign ((cString text).dropWhile isSpace)
  let value := readDigits ((dropPrefix unsigned).takeWhile fun byte => (hexValue byte).isSome)
  if 2 ^ 64 ≤ value then UInt64.ofNat (2 ^ 64 - 1)
  else if negative then -(UInt64.ofNat value) else UInt64.ofNat value

theorem hexValue_hexDigit : ∀ value < 16, hexValue (hexDigit value) = some value := by
  decide

theorem readDigits_hexDigits (count value : Nat) :
    readDigits (hexDigits count value) = value % 16 ^ count := by
  induction count generalizing value with
  | zero => exact (Nat.mod_one value).symm
  | succ count inductionHypothesis =>
    have digit := hexValue_hexDigit (value % 16) (Nat.mod_lt _ (by decide))
    have whole : readDigits (hexDigits count (value / 16) ++ [hexDigit (value % 16)]) =
        readDigits (hexDigits count (value / 16)) * 16 +
          (hexValue (hexDigit (value % 16))).getD 0 :=
      List.foldl_concat _ _ _ _
    rw [hexDigits, whole, inductionHypothesis, digit, Option.getD_some, Nat.pow_succ,
      Nat.mul_comm (16 ^ count) 16, Nat.mod_mul, Nat.mul_comm, Nat.add_comm]

theorem mem_hexDigits {count value : Nat} {byte : UInt8} (member : byte ∈ hexDigits count value) :
    ∃ digit < 16, byte = hexDigit digit := by
  induction count generalizing value with
  | zero => cases member
  | succ count inductionHypothesis =>
    rcases List.mem_append.mp member with earlier | last
    · exact inductionHypothesis earlier
    · exact ⟨value % 16, Nat.mod_lt _ (by decide), List.mem_singleton.mp last⟩

/-- A digit is no blank, no sign, no `x` and not the end of a string. -/
theorem hexDigit_plain : ∀ digit < 16, hexDigit digit ≠ 0 ∧ isSpace (hexDigit digit) = false ∧
    hexDigit digit ≠ 0x2D ∧ hexDigit digit ≠ 0x2B ∧ hexDigit digit ≠ 0x78 ∧
      hexDigit digit ≠ 0x58 ∧ (hexValue (hexDigit digit)).isSome = true := by
  decide

theorem takeSign_of_plain {text : Text} (minus : ∀ byte ∈ text, byte ≠ 0x2D)
    (plus : ∀ byte ∈ text, byte ≠ 0x2B) : takeSign text = (false, text) := by
  unfold takeSign
  split
  · exact absurd rfl (minus _ List.mem_cons_self)
  · exact absurd rfl (plus _ List.mem_cons_self)
  · rfl

theorem dropPrefix_of_plain {text : Text} (lower : ∀ byte ∈ text, byte ≠ 0x78)
    (upper : ∀ byte ∈ text, byte ≠ 0x58) : dropPrefix text = text := by
  unfold dropPrefix
  split
  · rename_i letter rest
    have second : letter ∈ 0x30 :: letter :: rest := List.mem_cons_of_mem _ List.mem_cons_self
    exact if_neg fun cross => cross.1.elim (lower letter second) (upper letter second)
  · rfl

/-- The digits that were written are read back. -/
theorem strtoull16_formatHash (hash : UInt64) : strtoull16 (formatHash hash) = hash := by
  have plain : ∀ byte ∈ formatHash hash, byte ≠ 0 ∧ isSpace byte = false ∧ byte ≠ 0x2D ∧
      byte ≠ 0x2B ∧ byte ≠ 0x78 ∧ byte ≠ 0x58 ∧ (hexValue byte).isSome = true := by
    intro byte member
    obtain ⟨digit, small, rfl⟩ := mem_hexDigits member
    exact hexDigit_plain digit small
  have whole : cString (formatHash hash) = formatHash hash :=
    cString_plain _ fun member => (plain 0 member).1 rfl
  have noBlank : (formatHash hash).dropWhile isSpace = formatHash hash :=
    List.dropWhile_eq_self_iff.mpr fun _ =>
      Bool.eq_false_iff.mp (plain _ (List.getElem_mem _)).2.1
  have value : readDigits (formatHash hash) = hash.toNat := by
    rw [formatHash, readDigits_hexDigits]
    exact Nat.mod_eq_of_lt hash.toNat_lt
  unfold strtoull16
  rw [whole, noBlank, takeSign_of_plain (fun byte member => (plain byte member).2.2.1)
    fun byte member => (plain byte member).2.2.2.1]
  dsimp only
  rw [dropPrefix_of_plain (fun byte member => (plain byte member).2.2.2.2.1)
    fun byte member => (plain byte member).2.2.2.2.2.1,
    List.takeWhile_eq_self_iff.mpr fun byte member => (plain byte member).2.2.2.2.2.2, value,
    if_neg (Nat.not_le_of_gt hash.toNat_lt), if_neg Bool.false_ne_true, UInt64.ofNat_toNat]

/-! ### Values -/

/-- A JSON value over a type of doubles. -/
inductive Value (Number : Type) where
  | null
  | bool (value : Bool)
  | number (value : Number)
  | string (value : Text)
  | array (items : List (Value Number))
  | object (fields : List (String × Value Number))

/-- The doubles, as far as the codec asks about them. A double is whole if it is the value of a
counter. -/
structure Conversions (Number : Type) where
  isFinite : Number → Bool
  zero : Number
  nonneg : Number → Bool
  atMostU32Max : Number → Bool
  ofUInt64 : UInt64 → Number
  ofUInt32 : UInt32 → Number
  toUInt64 : Number → UInt64
  toUInt32 : Number → UInt32
  whole : Number → Prop
  two64 : Number
  finite_ofUInt64 : ∀ count, isFinite (ofUInt64 count) = true
  finite_ofUInt32 : ∀ count, isFinite (ofUInt32 count) = true
  nonneg_ofUInt64 : ∀ count, nonneg (ofUInt64 count) = true
  nonneg_ofUInt32 : ∀ count, nonneg (ofUInt32 count) = true
  atMostU32Max_ofUInt32 : ∀ count, atMostU32Max (ofUInt32 count) = true
  toUInt32_ofUInt32 : ∀ count, toUInt32 (ofUInt32 count) = count
  toUInt64_ofUInt64 : ∀ count, count.toNat < 2 ^ 53 → toUInt64 (ofUInt64 count) = count
  rounds_to_whole : ∀ count, whole (ofUInt64 count) ∨ ofUInt64 count = two64
  ofUInt64_toUInt64 : ∀ {value}, whole value → ofUInt64 (toUInt64 value) = value
  two64_settles : toUInt64 (ofUInt64 (toUInt64 two64)) = toUInt64 two64

structure LearnedPathRecord (Number : Type) where
  path : Text
  kind : Text
  sampleCount : UInt64
  ready : Bool
  learnedRestOffset : Number
  learnedStddev : Number
  learnedTriggerMin : Number
  learnedTriggerMax : Number
  learnedDeadzoneRadius : Number
  learnedDebounceUs : UInt32
  lastUpdatedUnix : UInt64
  driftShiftResets : UInt32
deriving DecidableEq

structure DeviceProfile (Number : Type) where
  serial : Text := []
  serialHash : UInt64 := 0
  displayName : Text := []
  enableDiagnosticsOnly : Bool := true
  enableRestRecenter : Bool := false
  enableTriggerRemap : Bool := false
  correctionsEnabled : Bool := true
  learnedPaths : List (LearnedPathRecord Number) := []
deriving DecidableEq

def fnv1a64 (bytes : Text) : UInt64 :=
  bytes.foldl (fun hash byte => (hash ^^^ byte.toUInt64) * 0x100000001B3) 0xCBF29CE484222325

section Codec

variable {Number : Type}

/-! ### Decoding -/

def find (fields : List (String × Value Number)) (key : String) : Option (Value Number) :=
  (fields.find? fun entry => entry.1 == key).map Prod.snd

def getStr (fields : List (String × Value Number)) (key : String) (out : Text) : Text :=
  match find fields key with
  | some (.string text) => text
  | _ => out

def getBool (fields : List (String × Value Number)) (key : String) (out : Bool) : Bool :=
  match find fields key with
  | some (.bool flag) => flag
  | _ => out

def getDouble (fields : List (String × Value Number)) (key : String) (out : Number) : Number :=
  match find fields key with
  | some (.number value) => value
  | _ => out

variable (conversions : Conversions Number)

def getU64From (fields : List (String × Value Number)) (key : String) (out : UInt64) : UInt64 :=
  match find fields key with
  | some (.number value) => if conversions.nonneg value then conversions.toUInt64 value else out
  | _ => out

def getU32From (fields : List (String × Value Number)) (key : String) (out : UInt32) : UInt32 :=
  match find fields key with
  | some (.number value) =>
    if conversions.nonneg value && conversions.atMostU32Max value then
      conversions.toUInt32 value
    else out
  | _ => out

/-- The hash is a text of hexadecimal digits, or a number. -/
def getU64 (fields : List (String × Value Number)) (key : String) (out : UInt64) : UInt64 :=
  match find fields key with
  | some (.string text) => strtoull16 text
  | _ => getU64From conversions fields key out

/-- One entry of `learned_paths`; an entry that is no object or has no path is left out. -/
def decodeRecord : Value Number → Option (LearnedPathRecord Number)
  | .object fields =>
    let record : LearnedPathRecord Number :=
      { path := getStr fields "path" []
        kind := getStr fields "kind" []
        sampleCount := getU64From conversions fields "sample_count" 0
        ready := getBool fields "ready" false
        learnedRestOffset := getDouble fields "learned_rest_offset" conversions.zero
        learnedStddev := getDouble fields "learned_stddev" conversions.zero
        learnedTriggerMin := getDouble fields "learned_trigger_min" conversions.zero
        learnedTriggerMax := getDouble fields "learned_trigger_max" conversions.zero
        learnedDeadzoneRadius := getDouble fields "learned_deadzone_radius" conversions.zero
        learnedDebounceUs := getU32From conversions fields "learned_debounce_us" 0
        lastUpdatedUnix := getU64From conversions fields "last_updated_unix" 0
        driftShiftResets := getU32From conversions fields "drift_shift_resets" 0 }
    if record.path = [] then none else some record
  | _ => none

/-- The records that loading drops. -/
def pruned (record : LearnedPathRecord Number) : Bool :=
  classifyInputPath record.path == .unsupported ||
    classifyInputPath record.path == .diagnosticsOnly

def learnedPathsOf (fields : List (String × Value Number)) : List (LearnedPathRecord Number) :=
  match find fields "learned_paths" with
  | some (.array items) => items.filterMap (decodeRecord conversions)
  | _ => []

def decode : Value Number → DeviceProfile Number
  | .object fields =>
    let serial := getStr fields "serial" []
    let serialHash := getU64 conversions fields "serial_hash_hex" 0
    { serial := serial
      serialHash := if serialHash = 0 ∧ serial ≠ [] then fnv1a64 serial else serialHash
      displayName := getStr fields "display_name" []
      enableDiagnosticsOnly := getBool fields "enable_diagnostics_only" true
      enableRestRecenter := getBool fields "enable_rest_recenter" false
      enableTriggerRemap := getBool fields "enable_trigger_remap" false
      correctionsEnabled := getBool fields "corrections_enabled" true
      learnedPaths := (learnedPathsOf conversions fields).filter fun record => !pruned record }
  | _ => {}

/-! ### Encoding -/

/-- The constructor of a number; it throws if the double is not finite. -/
def value (number : Number) : Option (Value Number) :=
  if conversions.isFinite number then some (.number number) else none

/-- The members of a record, in the order of the map. -/
def encodeRecord (record : LearnedPathRecord Number) : Option (Value Number) := do
  let sampleCount ← value conversions (conversions.ofUInt64 record.sampleCount)
  let restOffset ← value conversions record.learnedRestOffset
  let stddev ← value conversions record.learnedStddev
  let triggerMin ← value conversions record.learnedTriggerMin
  let triggerMax ← value conversions record.learnedTriggerMax
  let deadzoneRadius ← value conversions record.learnedDeadzoneRadius
  let debounceUs ← value conversions (conversions.ofUInt32 record.learnedDebounceUs)
  let lastUpdatedUnix ← value conversions (conversions.ofUInt64 record.lastUpdatedUnix)
  let driftShiftResets ← value conversions (conversions.ofUInt32 record.driftShiftResets)
  return .object [
    ("drift_shift_resets", driftShiftResets),
    ("kind", .string record.kind),
    ("last_updated_unix", lastUpdatedUnix),
    ("learned_deadzone_radius", deadzoneRadius),
    ("learned_debounce_us", debounceUs),
    ("learned_rest_offset", restOffset),
    ("learned_stddev", stddev),
    ("learned_trigger_max", triggerMax),
    ("learned_trigger_min", triggerMin),
    ("path", .string record.path),
    ("ready", .bool record.ready),
    ("sample_count", sampleCount)]

def encode (profile : DeviceProfile Number) : Option (Value Number) := do
  let learned ← profile.learnedPaths.mapM (encodeRecord conversions)
  return .object [
    ("corrections_enabled", .bool profile.correctionsEnabled),
    ("display_name", .string profile.displayName),
    ("enable_diagnostics_only", .bool profile.enableDiagnosticsOnly),
    ("enable_rest_recenter", .bool profile.enableRestRecenter),
    ("enable_trigger_remap", .bool profile.enableTriggerRemap),
    ("learned_paths", .array learned),
    ("serial", .string profile.serial),
    ("serial_hash_hex", .string (formatHash profile.serialHash))]

/-! ### What comes back -/

/-- The learned values of a record can be written. -/
def LearnedPathRecord.Finite (record : LearnedPathRecord Number) : Prop :=
  conversions.isFinite record.learnedRestOffset ∧ conversions.isFinite record.learnedStddev ∧
    conversions.isFinite record.learnedTriggerMin ∧
      conversions.isFinite record.learnedTriggerMax ∧
        conversions.isFinite record.learnedDeadzoneRadius

/-- A counter after it has been a double. -/
def counted (count : UInt64) : UInt64 :=
  conversions.toUInt64 (conversions.ofUInt64 count)

def LearnedPathRecord.settled (record : LearnedPathRecord Number) : LearnedPathRecord Number :=
  { record with
    sampleCount := counted conversions record.sampleCount
    lastUpdatedUnix := counted conversions record.lastUpdatedUnix }

def settledHash (profile : DeviceProfile Number) : UInt64 :=
  if profile.serialHash = 0 ∧ profile.serial ≠ [] then fnv1a64 profile.serial
  else profile.serialHash

/-- The records of compensated paths. -/
def DeviceProfile.compensated (profile : DeviceProfile Number) : List (LearnedPathRecord Number) :=
  profile.learnedPaths.filter fun record => isCompensationPath (classifyInputPath record.path)

def DeviceProfile.settled (profile : DeviceProfile Number) : DeviceProfile Number :=
  { profile with
    serialHash := settledHash profile
    learnedPaths := profile.compensated.map fun record => record.settled conversions }

def DeviceProfile.Finite (profile : DeviceProfile Number) : Prop :=
  ∀ record ∈ profile.learnedPaths, record.Finite conversions

theorem not_pruned (record : LearnedPathRecord Number) :
    (!pruned record) = isCompensationPath (classifyInputPath record.path) := by
  unfold pruned
  cases classifyInputPath record.path <;> rfl

theorem value_finite {number : Number} (finite : conversions.isFinite number = true) :
    value conversions number = some (.number number) :=
  if_pos finite

/-- The members of a record that can be written. -/
def recordFields (record : LearnedPathRecord Number) : List (String × Value Number) :=
  [("drift_shift_resets", .number (conversions.ofUInt32 record.driftShiftResets)),
    ("kind", .string record.kind),
    ("last_updated_unix", .number (conversions.ofUInt64 record.lastUpdatedUnix)),
    ("learned_deadzone_radius", .number record.learnedDeadzoneRadius),
    ("learned_debounce_us", .number (conversions.ofUInt32 record.learnedDebounceUs)),
    ("learned_rest_offset", .number record.learnedRestOffset),
    ("learned_stddev", .number record.learnedStddev),
    ("learned_trigger_max", .number record.learnedTriggerMax),
    ("learned_trigger_min", .number record.learnedTriggerMin),
    ("path", .string record.path),
    ("ready", .bool record.ready),
    ("sample_count", .number (conversions.ofUInt64 record.sampleCount))]

theorem encodeRecord_finite {record : LearnedPathRecord Number}
    (finite : record.Finite conversions) :
    encodeRecord conversions record = some (.object (recordFields conversions record)) := by
  obtain ⟨restOffset, stddev, triggerMin, triggerMax, deadzoneRadius⟩ := finite
  unfold encodeRecord
  rw [value_finite _ restOffset, value_finite _ stddev, value_finite _ triggerMin,
    value_finite _ triggerMax, value_finite _ deadzoneRadius,
    value_finite _ (conversions.finite_ofUInt64 record.sampleCount),
    value_finite _ (conversions.finite_ofUInt64 record.lastUpdatedUnix),
    value_finite _ (conversions.finite_ofUInt32 record.learnedDebounceUs),
    value_finite _ (conversions.finite_ofUInt32 record.driftShiftResets)]
  rfl

theorem finite_of_value {number : Number} {json : Value Number}
    (written : value conversions number = some json) : conversions.isFinite number = true := by
  unfold value at written
  split at written
  · assumption
  · cases written

/-- A value that is not finite stops the writer. -/
theorem encodeRecord_eq_none {record : LearnedPathRecord Number}
    (infinite : ¬record.Finite conversions) : encodeRecord conversions record = none := by
  refine Option.eq_none_iff_forall_ne_some.mpr fun json written => infinite ?_
  obtain ⟨_, _, written⟩ := Option.bind_eq_some_iff.mp written
  obtain ⟨_, restOffset, written⟩ := Option.bind_eq_some_iff.mp written
  obtain ⟨_, stddev, written⟩ := Option.bind_eq_some_iff.mp written
  obtain ⟨_, triggerMin, written⟩ := Option.bind_eq_some_iff.mp written
  obtain ⟨_, triggerMax, written⟩ := Option.bind_eq_some_iff.mp written
  obtain ⟨_, deadzoneRadius, _⟩ := Option.bind_eq_some_iff.mp written
  exact ⟨finite_of_value _ restOffset, finite_of_value _ stddev, finite_of_value _ triggerMin,
    finite_of_value _ triggerMax, finite_of_value _ deadzoneRadius⟩

theorem getU64From_found {fields : List (String × Value Number)} {key : String} {count : UInt64}
    (found : find fields key = some (.number (conversions.ofUInt64 count))) :
    getU64From conversions fields key 0 = counted conversions count := by
  unfold getU64From
  rw [found]
  exact if_pos (conversions.nonneg_ofUInt64 count)

theorem getU32From_found {fields : List (String × Value Number)} {key : String} {count : UInt32}
    (found : find fields key = some (.number (conversions.ofUInt32 count))) :
    getU32From conversions fields key 0 = count := by
  have range : (conversions.nonneg (conversions.ofUInt32 count) &&
      conversions.atMostU32Max (conversions.ofUInt32 count)) = true :=
    Bool.and_eq_true_iff.mpr
      ⟨conversions.nonneg_ofUInt32 count, conversions.atMostU32Max_ofUInt32 count⟩
  unfold getU32From
  rw [found]
  exact (if_pos range).trans (conversions.toUInt32_ofUInt32 count)

/-- A record is read back, its counters as doubles. -/
theorem decodeRecord_fields (record : LearnedPathRecord Number) :
    decodeRecord conversions (.object (recordFields conversions record)) =
      if record.path = [] then none else some (record.settled conversions) := by
  have sampleCount :
      getU64From conversions (recordFields conversions record) "sample_count" 0 =
        counted conversions record.sampleCount :=
    getU64From_found conversions rfl
  have lastUpdatedUnix :
      getU64From conversions (recordFields conversions record) "last_updated_unix" 0 =
        counted conversions record.lastUpdatedUnix :=
    getU64From_found conversions rfl
  have debounceUs :
      getU32From conversions (recordFields conversions record) "learned_debounce_us" 0 =
        record.learnedDebounceUs :=
    getU32From_found conversions rfl
  have driftShiftResets :
      getU32From conversions (recordFields conversions record) "drift_shift_resets" 0 =
        record.driftShiftResets :=
    getU32From_found conversions rfl
  unfold decodeRecord
  dsimp only
  rw [sampleCount, lastUpdatedUnix, debounceUs, driftShiftResets]
  rfl

/-- The records that can be written come back in order, without those of other paths. -/
theorem learned_read {records : List (LearnedPathRecord Number)}
    (finite : ∀ record ∈ records, record.Finite conversions) :
    ∃ items, records.mapM (encodeRecord conversions) = some items ∧
      ((items.filterMap (decodeRecord conversions)).filter fun record => !pruned record) =
        (records.filter fun record => isCompensationPath (classifyInputPath record.path)).map
          fun record => record.settled conversions := by
  induction records with
  | nil => exact ⟨[], rfl, rfl⟩
  | cons record records inductionHypothesis =>
    obtain ⟨items, written, read⟩ :=
      inductionHypothesis fun other member => finite other (.tail _ member)
    refine ⟨.object (recordFields conversions record) :: items, ?_, ?_⟩
    · rw [List.mapM_cons, encodeRecord_finite _ (finite record (.head _)), written]
      rfl
    · rw [List.filterMap_cons, decodeRecord_fields]
      by_cases empty : record.path = []
      · have dropped : isCompensationPath (classifyInputPath record.path) = false := by
          rw [empty]
          rfl
        rw [if_pos empty, List.filter_cons_of_neg (by rw [dropped]; exact Bool.false_ne_true)]
        exact read
      · have same : (!pruned (record.settled conversions)) =
            isCompensationPath (classifyInputPath record.path) :=
          not_pruned (record.settled conversions)
        rw [if_neg empty]
        cases kept : isCompensationPath (classifyInputPath record.path) with
        | false =>
          rw [List.filter_cons_of_neg (by rw [same, kept]; exact Bool.false_ne_true),
            List.filter_cons_of_neg (by rw [kept]; exact Bool.false_ne_true)]
          exact read
        | true =>
          rw [List.filter_cons_of_pos (by rw [same, kept]), List.filter_cons_of_pos (by rw [kept]),
            read, List.map_cons]

def profileFields (profile : DeviceProfile Number) (items : List (Value Number)) :
    List (String × Value Number) :=
  [("corrections_enabled", .bool profile.correctionsEnabled),
    ("display_name", .string profile.displayName),
    ("enable_diagnostics_only", .bool profile.enableDiagnosticsOnly),
    ("enable_rest_recenter", .bool profile.enableRestRecenter),
    ("enable_trigger_remap", .bool profile.enableTriggerRemap),
    ("learned_paths", .array items),
    ("serial", .string profile.serial),
    ("serial_hash_hex", .string (formatHash profile.serialHash))]

theorem decode_profileFields (profile : DeviceProfile Number) (items : List (Value Number)) :
    decode conversions (.object (profileFields profile items)) =
      { profile with
        serialHash := settledHash profile
        learnedPaths :=
          (items.filterMap (decodeRecord conversions)).filter fun record => !pruned record } := by
  have hash : getU64 conversions (profileFields profile items) "serial_hash_hex" 0 =
      profile.serialHash :=
    strtoull16_formatHash profile.serialHash
  unfold decode
  dsimp only
  rw [hash]
  rfl

/-- A profile that can be written is read back with what is kept of it. -/
theorem decode_encode {profile : DeviceProfile Number} (finite : profile.Finite conversions) :
    ∃ json, encode conversions profile = some json ∧
      decode conversions json = profile.settled conversions := by
  obtain ⟨items, written, read⟩ := learned_read conversions finite
  refine ⟨.object (profileFields profile items), ?_, ?_⟩
  · unfold encode
    rw [written]
    rfl
  · rw [decode_profileFields, read]
    rfl

theorem encode_eq_none {profile : DeviceProfile Number} (infinite : ¬profile.Finite conversions) :
    encode conversions profile = none := by
  have stopped : profile.learnedPaths.mapM (encodeRecord conversions) = none := by
    unfold DeviceProfile.Finite at infinite
    revert infinite
    generalize profile.learnedPaths = records
    intro infinite
    induction records with
    | nil => exact absurd (fun _ member => nomatch member) infinite
    | cons record records inductionHypothesis =>
      rw [List.mapM_cons]
      by_cases finite : record.Finite conversions
      · have later :=
          inductionHypothesis fun all => infinite (List.forall_mem_cons.mpr ⟨finite, all⟩)
        rw [encodeRecord_finite _ finite, later]
        rfl
      · rw [encodeRecord_eq_none _ finite]
        rfl
  unfold encode
  rw [stopped]
  rfl

/-! ### A second round -/

theorem counted_counted (count : UInt64) :
    counted conversions (counted conversions count) = counted conversions count := by
  unfold counted
  rcases conversions.rounds_to_whole count with whole | beyond
  · rw [conversions.ofUInt64_toUInt64 whole]
  · rw [beyond, conversions.two64_settles]

theorem settledHash_settled (profile : DeviceProfile Number) :
    settledHash (profile.settled conversions) = settledHash profile := by
  show (if settledHash profile = 0 ∧ profile.serial ≠ [] then fnv1a64 profile.serial
    else settledHash profile) = settledHash profile
  unfold settledHash
  by_cases missing : profile.serialHash = 0 ∧ profile.serial ≠ []
  · rw [if_pos missing, ite_self]
  · rw [if_neg missing, if_neg missing]

theorem settled_settled (profile : DeviceProfile Number) :
    (profile.settled conversions).settled conversions = profile.settled conversions := by
  have kept : (profile.settled conversions).compensated =
      profile.compensated.map fun record => record.settled conversions := by
    refine List.filter_eq_self.mpr fun record member => ?_
    obtain ⟨original, source, rfl⟩ := List.mem_map.mp member
    exact (List.mem_filter.mp source).2
  have twice : (profile.settled conversions).compensated.map
      (fun record => record.settled conversions) =
        profile.compensated.map fun record => record.settled conversions := by
    rw [kept, List.map_map]
    refine List.map_congr_left fun record _ => ?_
    show (record.settled conversions).settled conversions = record.settled conversions
    unfold LearnedPathRecord.settled
    dsimp only
    rw [counted_counted, counted_counted]
  show { profile.settled conversions with
    serialHash := settledHash (profile.settled conversions)
    learnedPaths := (profile.settled conversions).compensated.map
      fun record => record.settled conversions } = profile.settled conversions
  rw [settledHash_settled, twice]
  rfl

theorem finite_settled {profile : DeviceProfile Number} (finite : profile.Finite conversions) :
    (profile.settled conversions).Finite conversions := by
  intro record member
  obtain ⟨original, source, rfl⟩ := List.mem_map.mp member
  exact finite original (List.mem_of_mem_filter source)

/-- A profile with a hash whose records are all kept and whose counters are doubles. -/
theorem settled_eq_self {profile : DeviceProfile Number} (hash : profile.serialHash ≠ 0)
    (compensation : ∀ record ∈ profile.learnedPaths,
      isCompensationPath (classifyInputPath record.path) = true)
    (small : ∀ record ∈ profile.learnedPaths,
      record.sampleCount.toNat < 2 ^ 53 ∧ record.lastUpdatedUnix.toNat < 2 ^ 53) :
    profile.settled conversions = profile := by
  have kept : profile.compensated = profile.learnedPaths := List.filter_eq_self.mpr compensation
  have same : profile.learnedPaths.map (fun record => record.settled conversions) =
      profile.learnedPaths := by
    refine (List.map_congr_left fun record member => ?_).trans (List.map_id _)
    obtain ⟨samples, updated⟩ := small record member
    unfold LearnedPathRecord.settled counted
    rw [conversions.toUInt64_ofUInt64 _ samples, conversions.toUInt64_ofUInt64 _ updated]
    rfl
  unfold DeviceProfile.settled settledHash
  rw [kept, same, if_neg fun missing => hash missing.1]

/-! ### Files -/

variable {File : Type} (serialize : Value Number → File) (parse : File → Option (Value Number))

/-- A profile is encoded, written, parsed and decoded. -/
def reload (profile : DeviceProfile Number) : Option (DeviceProfile Number) := do
  let json ← encode conversions profile
  let parsed ← parse (serialize json)
  return decode conversions parsed

/-- What a file keeps of a profile. A profile whose learned values are finite comes back with the
records of compensated paths and with counters as doubles, and then again unchanged. It comes
back as it was if it has a hash, no other records and small counters. Any other profile is not
written. -/
theorem profile_codec
    (inverts : ∀ profile json, encode conversions profile = some json →
      parse (serialize json) = some json) :
    (∀ profile : DeviceProfile Number, profile.Finite conversions → profile.serialHash ≠ 0 →
      (∀ record ∈ profile.learnedPaths,
        isCompensationPath (classifyInputPath record.path) = true) →
      (∀ record ∈ profile.learnedPaths,
        record.sampleCount.toNat < 2 ^ 53 ∧ record.lastUpdatedUnix.toNat < 2 ^ 53) →
      reload conversions serialize parse profile = some profile) ∧
    (∀ profile : DeviceProfile Number, profile.Finite conversions →
      ∃ loaded, reload conversions serialize parse profile = some loaded ∧
        loaded = { profile with
          serialHash := settledHash profile
          learnedPaths := (profile.learnedPaths.filter fun record =>
            isCompensationPath (classifyInputPath record.path)).map
              fun record => record.settled conversions } ∧
        reload conversions serialize parse loaded = some loaded) ∧
    ∀ profile : DeviceProfile Number, ¬profile.Finite conversions →
      reload conversions serialize parse profile = none := by
  have returns : ∀ profile : DeviceProfile Number, profile.Finite conversions →
      reload conversions serialize parse profile = some (profile.settled conversions) := by
    intro profile finite
    obtain ⟨json, written, read⟩ := decode_encode conversions finite
    unfold reload
    rw [written, Option.bind_eq_bind, Option.bind_some, inverts profile json written, ← read]
    rfl
  refine ⟨?_, ?_, ?_⟩
  · intro profile finite hash compensation small
    rw [returns profile finite, settled_eq_self conversions hash compensation small]
  · intro profile finite
    refine ⟨profile.settled conversions, returns profile finite, rfl, ?_⟩
    rw [returns _ (finite_settled conversions finite), settled_settled]
  · intro profile infinite
    unfold reload
    rw [encode_eq_none conversions infinite]
    rfl

end Codec

/-! ### Two profiles -/

theorem floor_count (count : Nat) : (count : Rat).floor = count := by
  rw [← Rat.floor_intCast (count : Int), Int.cast_natCast]

/-- Rationals and an infinity. -/
def extended : Conversions (Option Rat) where
  isFinite := Option.isSome
  zero := some 0
  nonneg value := value.all fun number => 0 ≤ number
  atMostU32Max value := value.any fun number => number ≤ 4294967295
  ofUInt64 count := some count.toNat
  ofUInt32 count := some count.toNat
  toUInt64 value := UInt64.ofNat (value.elim 0 fun number => number.floor.toNat)
  toUInt32 value := UInt32.ofNat (value.elim 0 fun number => number.floor.toNat)
  whole value := ∃ count : UInt64, value = some (count.toNat : Rat)
  two64 := some (2 ^ 64)
  finite_ofUInt64 _ := rfl
  finite_ofUInt32 _ := rfl
  nonneg_ofUInt64 count := decide_eq_true (Nat.cast_nonneg count.toNat)
  nonneg_ofUInt32 count := decide_eq_true (Nat.cast_nonneg count.toNat)
  atMostU32Max_ofUInt32 count :=
    decide_eq_true (Nat.cast_le.mpr (Nat.le_of_lt_succ count.toNat_lt))
  toUInt32_ofUInt32 count := by
    show UInt32.ofNat ((count.toNat : Rat).floor.toNat) = count
    rw [floor_count, Int.toNat_natCast, UInt32.ofNat_toNat]
  toUInt64_ofUInt64 count _ := by
    show UInt64.ofNat ((count.toNat : Rat).floor.toNat) = count
    rw [floor_count, Int.toNat_natCast, UInt64.ofNat_toNat]
  rounds_to_whole count := .inl ⟨count, rfl⟩
  ofUInt64_toUInt64 := by
    rintro _ ⟨count, rfl⟩
    show some (((UInt64.ofNat ((count.toNat : Rat).floor.toNat)).toNat : Rat)) = some ↑count.toNat
    rw [floor_count, Int.toNat_natCast, UInt64.ofNat_toNat]
  two64_settles := by decide +kernel

/-- A controller with a trigger that has been learned. -/
def triggerProfile (restOffset : Option Rat) : DeviceProfile (Option Rat) where
  serial := ascii "TEST_SERIAL"
  serialHash := 0x1234
  displayName := ascii "Test Controller"
  learnedPaths := [
    { path := ascii "/input/trigger/value"
      kind := ascii "scalar_single"
      sampleCount := 1024
      ready := true
      learnedRestOffset := restOffset
      learnedStddev := some (3 / 1000)
      learnedTriggerMin := some (2 / 100)
      learnedTriggerMax := some (98 / 100)
      learnedDeadzoneRadius := some 0
      learnedDebounceUs := 0
      lastUpdatedUnix := 1700000000
      driftShiftResets := 0 }]

theorem profile_codec_trigger :
    reload extended id some (triggerProfile (some (2 / 100))) =
      some (triggerProfile (some (2 / 100))) := by
  refine (profile_codec extended id some fun _ _ _ => rfl).1 _ ?_ (by decide) ?_ ?_
  · intro record member
    rw [List.mem_singleton.mp member]
    exact ⟨rfl, rfl, rfl, rfl, rfl⟩
  · decide +kernel
  · decide +kernel

/-- A rest offset that has become infinite stops the writer, and the profile is not saved. -/
theorem profile_codec_infinite :
    (triggerProfile none).serialHash ≠ 0 ∧
      (∀ record ∈ (triggerProfile none).learnedPaths,
        isCompensationPath (classifyInputPath record.path) = true) ∧
      (∀ record ∈ (triggerProfile none).learnedPaths,
        record.sampleCount.toNat < 2 ^ 53 ∧ record.lastUpdatedUnix.toNat < 2 ^ 53) ∧
      reload extended id some (triggerProfile none) ≠ some (triggerProfile none) := by
  have lost : reload extended id some (triggerProfile none) = none := rfl
  refine ⟨by decide, by decide +kernel, by decide +kernel, ?_⟩
  rw [lost]
  exact (Option.some_ne_none _).symm

end PairDriver.InputHealth.Profiles
