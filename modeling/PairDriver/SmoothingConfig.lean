/-
This file is about the text file of the smoothing configuration.

The file holds a line for every setting, with the serial numbers of the trackers as they
are. The reader cuts a line at its first `=` and reads at most 255 characters as one
line. The file gives back what was saved exactly if no serial holds a `=`, a line end
or the end-of-file character of text files, and every line fits the buffer.
-/

import PairDriver.TextLines

namespace PairDriver.Smoothing

open TextLines

/-! ### The configuration -/

/-- `SmoothingConfig`. The map of the trackers is what it gives for each serial. -/
structure SmoothingConfig where
  smoothness : Int := 0
  finger_mask : UInt16 := 0x03FF
  per_finger_smoothness : Fin 10 → Int := fun _ => 0
  trackerSmoothness : List UInt8 → Option Int := fun _ => none
  smart_smoothing : Bool := false

/-- The settings that the sliders can give, for serials that are C strings. -/
structure SmoothingConfig.Valid (cfg : SmoothingConfig) : Prop where
  smoothness : 0 ≤ cfg.smoothness ∧ cfg.smoothness ≤ 100
  per_finger : ∀ finger, 0 ≤ cfg.per_finger_smoothness finger ∧
    cfg.per_finger_smoothness finger ≤ 100
  tracker : ∀ serial value, cfg.trackerSmoothness serial = some value → 1 ≤ value ∧ value ≤ 100
  serial : ∀ serial value, cfg.trackerSmoothness serial = some value → 0 ∉ serial

/-- The entries of a map, each once, in some order. -/
structure Lists (entries : List (List UInt8 × Int)) (map : List UInt8 → Option Int) : Prop where
  nodup : (entries.map Prod.fst).Nodup
  mem_iff : ∀ serial value, (serial, value) ∈ entries ↔ map serial = some value

/-- The configuration with some of its trackers. -/
def SmoothingConfig.restrict (keep : List UInt8 → Bool) (cfg : SmoothingConfig) :
    SmoothingConfig :=
  { cfg with
    trackerSmoothness := fun serial =>
      if keep serial then cfg.trackerSmoothness serial else none }

/-! ### Saving -/

def keyLine (key value : List UInt8) : List UInt8 :=
  key ++ 61 :: value

def fingerKey (finger : Fin 10) : List UInt8 :=
  ascii "per_finger_smoothness." ++ decimalText finger

def trackerKey (serial : List UInt8) : List UInt8 :=
  ascii "tracker_smoothness." ++ cString serial

def headLines (cfg : SmoothingConfig) : List (List UInt8) :=
  [keyLine (ascii "smoothness") (formatInt cfg.smoothness),
    keyLine (ascii "finger_mask") (decimalText cfg.finger_mask.toNat),
    keyLine (ascii "smart_smoothing") (formatInt (if cfg.smart_smoothing then 1 else 0))]

/-- The line of a finger, if its strength is not zero. -/
def fingerLine (cfg : SmoothingConfig) (finger : Fin 10) : Option (List UInt8) :=
  if 0 < cfg.per_finger_smoothness finger then
    some (keyLine (fingerKey finger) (formatInt (cfg.per_finger_smoothness finger)))
  else none

def trackerLine (entry : List UInt8 × Int) : List UInt8 :=
  keyLine (trackerKey entry.1) (formatInt entry.2)

/-- The lines of the file; the map of the trackers gives its entries in some order. -/
def saveLines (cfg : SmoothingConfig) (entries : List (List UInt8 × Int)) : List (List UInt8) :=
  headLines cfg ++ (List.finRange 10).filterMap (fingerLine cfg) ++ entries.map trackerLine

/-- `SaveConfig`: the bytes of the file. -/
def saveConfig (cfg : SmoothingConfig) (entries : List (List UInt8 × Int)) : List UInt8 :=
  writeText (joinLines (saveLines cfg entries))

/-! ### Loading -/

def clampPercent (value : Int) : Int :=
  let atLeast := if value < 0 then 0 else value
  if 100 < atLeast then 100 else atLeast

/-- What a line with this key and this value changes. -/
def applyEntry (cfg : SmoothingConfig) (key val : List UInt8) : SmoothingConfig :=
  if key = ascii "smoothness" then { cfg with smoothness := clampPercent (atoi val) }
  else if key = ascii "finger_mask" then { cfg with finger_mask := UInt16.ofNat (strtoul val) }
  else if (ascii "per_finger_smoothness.").isPrefixOf key then
    let idx := atoi (key.drop 22)
    if inside : 0 ≤ idx ∧ idx < 10 then
      { cfg with
        per_finger_smoothness := Function.update cfg.per_finger_smoothness
          ⟨idx.toNat, by omega⟩ (clampPercent (atoi val)) }
    else cfg
  else if (ascii "tracker_smoothness.").isPrefixOf key then
    if 0 < clampPercent (atoi val) then
      { cfg with
        trackerSmoothness := Function.update cfg.trackerSmoothness (key.drop 19)
          (some (clampPercent (atoi val))) }
    else cfg
  else if key = ascii "smart_smoothing" then
    { cfg with smart_smoothing := decide (atoi val ≠ 0) }
  else cfg

def applyLine (cfg : SmoothingConfig) (line : List UInt8) : SmoothingConfig :=
  match splitKey (stripLine line) with
  | none => cfg
  | some (key, val) => applyEntry cfg key val

/-- The characters that `fgets` reads into `line[256]`. -/
def lineRoom : Nat := 255

/-- `LoadConfig` of a file, if there is one. -/
def loadConfig : Option (List UInt8) → SmoothingConfig
  | none => {}
  | some file => (readLines lineRoom (readText file)).foldl applyLine {}

/-- The serial and the value make a line that comes back. -/
def Fits (entry : List UInt8 × Int) : Prop :=
  (61 ∉ entry.1 ∧ 10 ∉ entry.1 ∧ 26 ∉ entry.1) ∧
    19 + entry.1.length + 1 + (formatInt entry.2).length ≤ lineRoom

/-! ### Lines of keys and numbers -/

section Lines

variable {cfg : SmoothingConfig} {key : List UInt8} {value : Nat}

theorem not_mem_decimalText {character : UInt8} (other : isDigit character = false) :
    character ∉ decimalText value := fun member =>
  absurd (decimalText_isDigit value character member) (by rw [other]; exact Bool.false_ne_true)

theorem not_mem_keyLine {character : UInt8} (other : isDigit character = false)
    (notEqual : character ≠ 61) (plain : character ∉ key) :
    character ∉ keyLine key (decimalText value) := by
  rw [keyLine, List.mem_append, List.mem_cons]
  exact not_or.mpr ⟨plain, not_or.mpr ⟨notEqual, not_mem_decimalText other⟩⟩

theorem stripLine_keyLine (plain : 0 ∉ key) :
    stripLine (keyLine key (decimalText value)) = keyLine key (decimalText value) := by
  obtain ⟨init, last, written⟩ :=
    (decimalText value).eq_nil_or_concat.resolve_left (decimalText_ne_nil value)
  rw [List.concat_eq_append] at written
  have digits := decimalText_isDigit value
  have noNul : 0 ∉ decimalText value := not_mem_decimalText rfl
  rw [written] at digits noNul
  rw [keyLine, written, ← List.cons_append, ← List.append_assoc]
  refine stripLine_of_digit ?_ (digits last (List.mem_append_right _ (List.mem_singleton_self _)))
  rw [List.mem_append, List.mem_cons]
  exact not_or.mpr ⟨plain, not_or.mpr ⟨by decide, fun member =>
    noNul (List.mem_append_left _ member)⟩⟩

theorem applyLine_keyLine (plain : 0 ∉ key) (unsplit : 61 ∉ key) :
    applyLine cfg (keyLine key (decimalText value)) = applyEntry cfg key (decimalText value) := by
  rw [applyLine, stripLine_keyLine plain, keyLine, splitKey_append unsplit]

theorem applyLine_blank (cfg : SmoothingConfig) : applyLine cfg [10] = cfg := rfl

theorem applyLine_concat (cfg : SmoothingConfig) (line : List UInt8) :
    applyLine cfg (line ++ [10]) = applyLine cfg line := by
  rw [applyLine, stripLine_concat, applyLine]

theorem clampPercent_of_mem {value : Int} (atLeast : 0 ≤ value) (atMost : value ≤ 100) :
    clampPercent value = value := by
  rw [clampPercent, if_neg (by omega), if_neg (by omega)]

end Lines

/-! ### What a saved line changes -/

section Entries

variable {value : Int} {serial : List UInt8}

/-- A strength is read as it was written. -/
theorem atoi_formatInt (atLeast : 0 ≤ value) (atMost : value ≤ 100) :
    atoi (formatInt value) = value := by
  rw [formatInt_of_nonneg atLeast, atoi_decimalText (by omega), Int.toNat_of_nonneg atLeast]

theorem clampPercent_atoi (atLeast : 0 ≤ value) (atMost : value ≤ 100) :
    clampPercent (atoi (formatInt value)) = value := by
  rw [atoi_formatInt atLeast atMost, clampPercent_of_mem atLeast atMost]

theorem applyEntry_smoothness (cfg : SmoothingConfig) (atLeast : 0 ≤ value)
    (atMost : value ≤ 100) :
    applyEntry cfg (ascii "smoothness") (formatInt value) = { cfg with smoothness := value } := by
  rw [applyEntry, if_pos rfl, clampPercent_atoi atLeast atMost]

theorem applyEntry_finger_mask (cfg : SmoothingConfig) (mask : UInt16) :
    applyEntry cfg (ascii "finger_mask") (decimalText mask.toNat) =
      { cfg with finger_mask := mask } := by
  rw [applyEntry, if_neg (by decide), if_pos rfl,
    strtoul_decimalText (mask.toNat_lt.trans (by decide)), UInt16.ofNat_toNat]

theorem applyEntry_smart_smoothing (cfg : SmoothingConfig) (smart : Bool) :
    applyEntry cfg (ascii "smart_smoothing") (formatInt (if smart then 1 else 0)) =
      { cfg with smart_smoothing := smart } := by
  rw [applyEntry, if_neg (by decide), if_neg (by decide), if_neg (by decide), if_neg (by decide),
    if_pos rfl]
  cases smart <;> rfl

theorem fingerKey_spec : ∀ finger : Fin 10, fingerKey finger ≠ ascii "smoothness" ∧
    fingerKey finger ≠ ascii "finger_mask" ∧
      (ascii "per_finger_smoothness.").isPrefixOf (fingerKey finger) = true ∧
        (fingerKey finger).drop 22 = decimalText finger := by
  decide

theorem applyEntry_finger (cfg : SmoothingConfig) (finger : Fin 10) (atLeast : 0 ≤ value)
    (atMost : value ≤ 100) :
    applyEntry cfg (fingerKey finger) (formatInt value) =
      { cfg with
        per_finger_smoothness := Function.update cfg.per_finger_smoothness finger value } := by
  obtain ⟨notSmoothness, notMask, isFinger, index⟩ := fingerKey_spec finger
  have read : atoi ((fingerKey finger).drop 22) = (finger : Nat) := by
    rw [index, atoi_decimalText (by omega)]
  rw [applyEntry, if_neg notSmoothness, if_neg notMask, if_pos isFinger]
  simp only [read]
  rw [dif_pos (by omega), clampPercent_atoi atLeast atMost]
  rfl

theorem applyEntry_tracker (cfg : SmoothingConfig) (atLeast : 1 ≤ value) (atMost : value ≤ 100) :
    applyEntry cfg (ascii "tracker_smoothness." ++ serial) (formatInt value) =
      { cfg with
        trackerSmoothness := Function.update cfg.trackerSmoothness serial (some value) } := by
  have notSmoothness : ascii "tracker_smoothness." ++ serial ≠ ascii "smoothness" :=
    fun same => absurd (List.cons.inj same).1 (by decide)
  have notMask : ascii "tracker_smoothness." ++ serial ≠ ascii "finger_mask" :=
    fun same => absurd (List.cons.inj same).1 (by decide)
  have notFinger : ¬(ascii "per_finger_smoothness.").isPrefixOf
      (ascii "tracker_smoothness." ++ serial) = true := Bool.false_ne_true
  have isTracker : (ascii "tracker_smoothness.").isPrefixOf
      (ascii "tracker_smoothness." ++ serial) = true := rfl
  rw [applyEntry, if_neg notSmoothness, if_neg notMask, if_neg notFinger, if_pos isTracker,
    clampPercent_atoi (by omega) atMost, if_pos (by omega)]
  rfl

end Entries

/-! ### Saved lines -/

section Saved

variable {cfg : SmoothingConfig} {entries : List (List UInt8 × Int)}

theorem fingerKey_plain : ∀ finger : Fin 10, (0 ∉ fingerKey finger ∧ 61 ∉ fingerKey finger) ∧
    (10 ∉ fingerKey finger ∧ 26 ∉ fingerKey finger) ∧ (fingerKey finger).length ≤ 23 := by
  decide

/-- The line of a finger, if there is one, sets its strength. -/
theorem foldl_fingerLine (valid : cfg.Valid) (finger : Fin 10) (start : SmoothingConfig) :
    (fingerLine cfg finger).toList.foldl applyLine start =
      { start with
        per_finger_smoothness := fun other =>
          if other = finger ∧ 0 < cfg.per_finger_smoothness other then
            cfg.per_finger_smoothness other
          else start.per_finger_smoothness other } := by
  obtain ⟨atLeast, atMost⟩ := valid.per_finger finger
  obtain ⟨⟨noNul, unsplit⟩, -⟩ := fingerKey_plain finger
  by_cases positive : 0 < cfg.per_finger_smoothness finger
  · rw [fingerLine, if_pos positive, Option.toList_some, List.foldl_cons, List.foldl_nil,
      formatInt_of_nonneg atLeast, applyLine_keyLine noNul unsplit, ← formatInt_of_nonneg atLeast,
      applyEntry_finger start finger atLeast atMost]
    congr 1
    funext other
    by_cases same : other = finger
    · subst same
      rw [Function.update_self, if_pos ⟨rfl, positive⟩]
    · rw [Function.update_of_ne same, if_neg fun both => same both.1]
  · have unset : ∀ other, ¬(other = finger ∧ 0 < cfg.per_finger_smoothness other) :=
      fun _ both => positive (both.1 ▸ both.2)
    rw [fingerLine, if_neg positive]
    simp only [unset, if_false]
    rfl

/-- The lines of the fingers set their strengths. -/
theorem foldl_fingerLines (valid : cfg.Valid) (fingers : List (Fin 10)) (start : SmoothingConfig) :
    (fingers.filterMap (fingerLine cfg)).foldl applyLine start =
      { start with
        per_finger_smoothness := fun finger =>
          if finger ∈ fingers ∧ 0 < cfg.per_finger_smoothness finger then
            cfg.per_finger_smoothness finger
          else start.per_finger_smoothness finger } := by
  rw [List.filterMap_eq_flatMap_toList]
  induction fingers generalizing start with
  | nil => simp
  | cons first rest inductionHypothesis =>
    rw [List.flatMap_cons, List.foldl_append, foldl_fingerLine valid, inductionHypothesis]
    congr 1
    funext finger
    by_cases same : finger = first
    · subst same
      by_cases positive : 0 < cfg.per_finger_smoothness finger
      · simp [positive]
      · simp [positive]
    · simp [same]

theorem foldl_headLines (valid : cfg.Valid) :
    (headLines cfg).foldl applyLine {} =
      { cfg with per_finger_smoothness := fun _ => 0, trackerSmoothness := fun _ => none } := by
  obtain ⟨atLeast, atMost⟩ := valid.smoothness
  have smart : formatInt (if cfg.smart_smoothing then 1 else 0) =
      decimalText (if cfg.smart_smoothing then 1 else 0) := by
    cases cfg.smart_smoothing <;> rfl
  rw [headLines, List.foldl_cons, List.foldl_cons, List.foldl_cons, List.foldl_nil, smart,
    formatInt_of_nonneg atLeast, applyLine_keyLine (by decide) (by decide),
    applyLine_keyLine (by decide) (by decide), applyLine_keyLine (by decide) (by decide),
    ← formatInt_of_nonneg atLeast, ← smart, applyEntry_smoothness _ atLeast atMost,
    applyEntry_finger_mask, applyEntry_smart_smoothing]

theorem not_mem_trackerKey {character : UInt8} {serial : List UInt8}
    (other : character ∉ ascii "tracker_smoothness.") (plain : character ∉ serial) :
    character ∉ trackerKey serial := by
  rw [trackerKey, List.mem_append]
  exact not_or.mpr ⟨other, fun member => plain ((List.takeWhile_sublist _).subset member)⟩

/-- The map after the entries are set one after the other. -/
def setEntries (entries : List (List UInt8 × Int)) (map : List UInt8 → Option Int) :
    List UInt8 → Option Int :=
  entries.foldl (fun (map : List UInt8 → Option Int) entry =>
    Function.update map entry.1 (some entry.2)) map

/-- The lines of the trackers set them one after the other. -/
theorem foldl_trackerLines
    (each : ∀ entry ∈ entries, (1 ≤ entry.2 ∧ entry.2 ≤ 100) ∧ 0 ∉ entry.1 ∧ 61 ∉ entry.1)
    (start : SmoothingConfig) :
    (entries.map trackerLine).foldl applyLine start =
      { start with trackerSmoothness := setEntries entries start.trackerSmoothness } := by
  induction entries generalizing start with
  | nil => rfl
  | cons entry rest inductionHypothesis =>
    rw [List.forall_mem_cons] at each
    obtain ⟨⟨⟨atLeast, atMost⟩, noNul, unsplit⟩, others⟩ := each
    have nonneg : 0 ≤ entry.2 := by omega
    have applied : applyLine start (trackerLine entry) =
        { start with
          trackerSmoothness :=
            Function.update start.trackerSmoothness entry.1 (some entry.2) } := by
      rw [trackerLine, formatInt_of_nonneg nonneg,
        applyLine_keyLine (not_mem_trackerKey (by decide) noNul)
          (not_mem_trackerKey (by decide) unsplit),
        ← formatInt_of_nonneg nonneg, trackerKey, cString_plain _ noNul,
        applyEntry_tracker start atLeast atMost]
    rw [List.map_cons, List.foldl_cons, applied, inductionHypothesis others]
    rfl

theorem setEntries_eq_some_iff (nodup : (entries.map Prod.fst).Nodup)
    (map : List UInt8 → Option Int) (serial : List UInt8) (value : Int) :
    setEntries entries map serial = some value ↔
      (serial, value) ∈ entries ∨ serial ∉ entries.map Prod.fst ∧ map serial = some value := by
  induction entries generalizing map with
  | nil => simp [setEntries]
  | cons entry rest inductionHypothesis =>
    have first : setEntries (entry :: rest) map =
        setEntries rest (Function.update map entry.1 (some entry.2)) := rfl
    rw [List.map_cons, List.nodup_cons] at nodup
    rw [first, inductionHypothesis nodup.2, List.map_cons, List.mem_cons, List.mem_cons]
    by_cases same : serial = entry.1
    · subst same
      have absent : (entry.1, value) ∉ rest :=
        fun member => nodup.1 (List.mem_map.mpr ⟨_, member, rfl⟩)
      rw [Function.update_self, Option.some_inj, Prod.ext_iff]
      constructor
      · rintro (later | ⟨-, rfl⟩)
        · exact absurd later absent
        · exact .inl (.inl ⟨rfl, rfl⟩)
      · rintro ((⟨-, rfl⟩ | later) | ⟨no, -⟩)
        · exact .inr ⟨nodup.1, rfl⟩
        · exact absurd later absent
        · exact absurd (.inl rfl) no
    · have different : (serial, value) ≠ entry := fun equal => same (congrArg Prod.fst equal)
      rw [Function.update_of_ne same]
      simp only [same, different, false_or]

/-- The entries that a map lists build it. -/
theorem setEntries_of_lists {map : List UInt8 → Option Int} (lists : Lists entries map) :
    setEntries entries (fun _ => none) = map := by
  funext serial
  refine Option.ext fun value => ?_
  rw [setEntries_eq_some_iff lists.nodup, lists.mem_iff]
  simp

end Saved

/-! ### The file comes back -/

section RoundTrip

variable {cfg : SmoothingConfig} {entries : List (List UInt8 × Int)}

/-- A line that the reader takes as a whole. -/
structure Readable (line : List UInt8) : Prop where
  plain : 10 ∉ line
  nonempty : line ≠ []
  short : line.length ≤ lineRoom
  noEnd : 26 ∉ line

theorem readable_keyLine {key : List UInt8} {value : Nat} (plain : 10 ∉ key) (noEnd : 26 ∉ key)
    (short : key.length + 1 + (decimalText value).length ≤ lineRoom) :
    Readable (keyLine key (decimalText value)) where
  plain := not_mem_keyLine rfl (by decide) plain
  nonempty := List.append_ne_nil_of_right_ne_nil _ (List.cons_ne_nil _ _)
  short := by
    rw [keyLine, List.length_append, List.length_cons]
    omega
  noEnd := not_mem_keyLine rfl (by decide) noEnd

theorem length_percent_le {value : Int} (atMost : value ≤ 100) :
    (decimalText value.toNat).length ≤ 3 :=
  length_decimalText_le (by decide) (by omega)

theorem readable_headLines (valid : cfg.Valid) : ∀ line ∈ headLines cfg, Readable line := by
  obtain ⟨atLeast, atMost⟩ := valid.smoothness
  have percent := length_percent_le atMost
  have mask : (decimalText cfg.finger_mask.toNat).length ≤ 5 :=
    length_decimalText_le (by decide) (cfg.finger_mask.toNat_lt.trans (by decide))
  have smart : (0 : Int) ≤ if cfg.smart_smoothing then 1 else 0 := by
    cases cfg.smart_smoothing <;> decide
  have flag : (if cfg.smart_smoothing then (1 : Int) else 0) ≤ 100 := by
    cases cfg.smart_smoothing <;> decide
  have bit := length_percent_le flag
  rw [headLines, formatInt_of_nonneg atLeast, formatInt_of_nonneg smart]
  simp only [List.forall_mem_cons]
  have smoothnessKey : (ascii "smoothness").length = 10 := rfl
  have maskKey : (ascii "finger_mask").length = 11 := rfl
  have smartKey : (ascii "smart_smoothing").length = 15 := rfl
  have room : lineRoom = 255 := rfl
  exact ⟨readable_keyLine (by decide) (by decide) (by omega),
    readable_keyLine (by decide) (by decide) (by omega),
    readable_keyLine (by decide) (by decide) (by omega), nofun⟩

theorem readable_fingerLine (valid : cfg.Valid) {finger : Fin 10} {line : List UInt8}
    (written : fingerLine cfg finger = some line) : Readable line := by
  obtain ⟨atLeast, atMost⟩ := valid.per_finger finger
  obtain ⟨-, ⟨noLine, noEnd⟩, short⟩ := fingerKey_plain finger
  have percent := length_percent_le atMost
  have room : lineRoom = 255 := rfl
  rw [fingerLine] at written
  split at written
  · rw [← Option.some.inj written, formatInt_of_nonneg atLeast]
    exact readable_keyLine noLine noEnd (by omega)
  · exact absurd written nofun

theorem readable_trackerLine {entry : List UInt8 × Int} (fits : Fits entry)
    (nonneg : 0 ≤ entry.2) : Readable (trackerLine entry) := by
  obtain ⟨⟨-, noLine, noEnd⟩, short⟩ := fits
  have key : (trackerKey entry.1).length ≤ 19 + entry.1.length := by
    rw [trackerKey, List.length_append]
    exact Nat.add_le_add_left (cString_length_le _) 19
  rw [formatInt_of_nonneg nonneg] at short
  rw [trackerLine, formatInt_of_nonneg nonneg]
  exact readable_keyLine (not_mem_trackerKey (by decide) noLine)
    (not_mem_trackerKey (by decide) noEnd) (by omega)

theorem readable_saveLines (valid : cfg.Valid) (lists : Lists entries cfg.trackerSmoothness)
    (fits : ∀ entry ∈ entries, Fits entry) : ∀ line ∈ saveLines cfg entries, Readable line := by
  intro line member
  rw [saveLines, List.mem_append, List.mem_append, List.mem_filterMap, List.mem_map] at member
  obtain (inHead | ⟨finger, -, written⟩) | ⟨entry, inEntries, rfl⟩ := member
  · exact readable_headLines valid line inHead
  · exact readable_fingerLine valid written
  · have value := valid.tracker _ _ ((lists.mem_iff entry.1 entry.2).mp inEntries)
    exact readable_trackerLine (fits entry inEntries) (by omega)

/-- A file of readable lines is read line by line. -/
theorem loadConfig_joinLines {lines : List (List UInt8)}
    (readable : ∀ line ∈ lines, Readable line) :
    loadConfig (some (writeText (joinLines lines))) = lines.foldl applyLine {} := by
  have noEnd : (joinLines lines).takeWhile (· ≠ 26) = joinLines lines := by
    refine List.takeWhile_eq_self_iff.mpr fun character member => decide_eq_true ?_
    obtain ⟨line, inLines, inLine⟩ := List.mem_flatMap.mp member
    rintro rfl
    obtain inBody | inEnd := List.mem_append.mp inLine
    · exact (readable line inLines).noEnd inBody
    · exact absurd inEnd (by decide)
  rw [loadConfig, readText_writeText, noEnd]
  exact foldl_readLines applyLine_blank applyLine_concat (fun line member =>
    have good := readable line member
    ⟨⟨good.plain, good.nonempty⟩, good.short⟩) _

/-- If every line fits, the file comes back. -/
theorem loadConfig_saveConfig (valid : cfg.Valid) (lists : Lists entries cfg.trackerSmoothness)
    (fits : ∀ entry ∈ entries, Fits entry) :
    loadConfig (some (saveConfig cfg entries)) = cfg := by
  have each : ∀ entry ∈ entries, (1 ≤ entry.2 ∧ entry.2 ≤ 100) ∧ 0 ∉ entry.1 ∧ 61 ∉ entry.1 := by
    intro entry member
    have mapped := (lists.mem_iff entry.1 entry.2).mp member
    exact ⟨valid.tracker _ _ mapped, valid.serial _ _ mapped, (fits entry member).1.1⟩
  have fingers : (fun finger => if finger ∈ List.finRange 10 ∧ 0 < cfg.per_finger_smoothness finger
      then cfg.per_finger_smoothness finger else 0) = cfg.per_finger_smoothness := by
    funext finger
    have nonneg := (valid.per_finger finger).1
    split
    · rfl
    · next zero =>
      exact nonneg.antisymm (not_lt.mp fun positive =>
        zero ⟨List.mem_finRange finger, positive⟩)
  rw [saveConfig, loadConfig_joinLines (readable_saveLines valid lists fits), saveLines,
    List.foldl_append, List.foldl_append, foldl_headLines valid, foldl_fingerLines valid,
    foldl_trackerLines each]
  dsimp only
  rw [fingers, setEntries_of_lists lists]

end RoundTrip

/-! ### What a file can give -/

section Loaded

variable {key val line : List UInt8} {serial : List UInt8} {value : Int}

theorem clampPercent_le (positive : 0 < clampPercent value) :
    clampPercent value ≤ value := by
  rw [clampPercent] at positive ⊢
  split at positive <;> split at positive <;> omega

/-- A value that counts has at least the digits of the number it gives. -/
theorem length_formatInt_le (positive : 0 < clampPercent (atoi val)) :
    (formatInt (clampPercent (atoi val))).length ≤ val.length := by
  have most := clampPercent_le positive
  have bound := atoi_lt val
  have room : 0 < val.length := by
    by_contra none
    rw [Nat.eq_zero_of_not_pos none, pow_zero] at bound
    omega
  rw [formatInt_of_nonneg positive.le]
  refine length_decimalText_le room ?_
  have whole : ((clampPercent (atoi val)).toNat : Int) < (10 ^ val.length : Nat) := by
    rw [Int.toNat_of_nonneg positive.le]
    push_cast
    exact most.trans_lt bound
  exact_mod_cast whole

/-- An entry leaves the trackers alone, or sets the one its key names. -/
theorem applyEntry_trackerSmoothness (cfg : SmoothingConfig) (key val : List UInt8) :
    (applyEntry cfg key val).trackerSmoothness = cfg.trackerSmoothness ∨
      ∃ serial, key = ascii "tracker_smoothness." ++ serial ∧ 0 < clampPercent (atoi val) ∧
        (applyEntry cfg key val).trackerSmoothness =
          Function.update cfg.trackerSmoothness serial (some (clampPercent (atoi val))) := by
  by_cases smoothness : key = ascii "smoothness"
  · rw [applyEntry, if_pos smoothness]
    exact .inl rfl
  by_cases mask : key = ascii "finger_mask"
  · rw [applyEntry, if_neg smoothness, if_pos mask]
    exact .inl rfl
  by_cases finger : (ascii "per_finger_smoothness.").isPrefixOf key
  · rw [applyEntry, if_neg smoothness, if_neg mask, if_pos finger]
    dsimp only
    split <;> exact .inl rfl
  by_cases tracker : (ascii "tracker_smoothness.").isPrefixOf key
  · rw [applyEntry, if_neg smoothness, if_neg mask, if_neg finger, if_pos tracker]
    split
    · next positive =>
      obtain ⟨serial, rfl⟩ := List.isPrefixOf_iff_prefix.mp tracker
      exact .inr ⟨serial, rfl, positive, rfl⟩
    · exact .inl rfl
  · rw [applyEntry, if_neg smoothness, if_neg mask, if_neg finger, if_neg tracker]
    split <;> exact .inl rfl

/-- A line of the file: perhaps a line end after characters that are none. -/
def IsLine (line : List UInt8) : Prop :=
  ∃ body, (line = body ∨ line = body ++ [10]) ∧ 10 ∉ body ∧ body.length ≤ lineRoom ∧ 26 ∉ body

theorem isLine_of_mem {file : List UInt8} (member : line ∈ readLines lineRoom (readText file)) :
    IsLine line := by
  obtain ⟨body, shape, plain, short, source⟩ :=
    exists_of_mem_readFrom List.not_mem_nil (by decide) member
  refine ⟨body, shape, plain, short, fun inBody => ?_⟩
  exact not_mem_readText file ((source 26 inBody).resolve_left List.not_mem_nil)

/-- A tracker that a line names, with the value of the line, makes a line that comes back. -/
theorem fits_of_splitKey (isLine : IsLine line)
    (split : splitKey (stripLine line) = some (ascii "tracker_smoothness." ++ serial, val))
    (positive : 0 < clampPercent (atoi val)) : Fits (serial, clampPercent (atoi val)) := by
  obtain ⟨body, shape, plain, short, noEnd⟩ := isLine
  have stripped : stripLine line = stripLine body := by
    obtain rfl | rfl := shape
    · rfl
    · exact stripLine_concat body
  obtain ⟨parts, unsplit⟩ := splitKey_eq_some split
  have inside := stripLine_sublist body
  rw [← stripped, parts] at inside
  have inKey : ∀ character ∈ serial, character ∈ ascii "tracker_smoothness." ++ serial :=
    fun _ => List.mem_append_right _
  have size := inside.length_le
  rw [List.length_append, List.length_append, List.length_cons] at size
  have keySize : (ascii "tracker_smoothness.").length = 19 := rfl
  have digits := length_formatInt_le positive
  refine ⟨⟨fun member => unsplit (inKey _ member), fun member => plain ?_, fun member => noEnd ?_⟩,
    ?_⟩
  · exact inside.subset (List.mem_append_left _ (inKey _ member))
  · exact inside.subset (List.mem_append_left _ (inKey _ member))
  · dsimp only
    omega

/-- Every tracker that a file gives makes a line that comes back. -/
theorem fits_of_loaded {lines : List (List UInt8)} (areLines : ∀ line ∈ lines, IsLine line)
    {start : SmoothingConfig}
    (initial : ∀ serial value, start.trackerSmoothness serial = some value → Fits (serial, value))
    (loaded : (lines.foldl applyLine start).trackerSmoothness serial = some value) :
    Fits (serial, value) := by
  induction lines generalizing start with
  | nil => exact initial serial value loaded
  | cons line rest inductionHypothesis =>
    rw [List.forall_mem_cons] at areLines
    refine inductionHypothesis areLines.2 (fun other strength set => ?_) loaded
    rw [applyLine] at set
    split at set
    · exact initial other strength set
    · next key val split =>
      obtain same | ⟨named, rfl, positive, updated⟩ := applyEntry_trackerSmoothness start key val
      · rw [same] at set
        exact initial other strength set
      · rw [updated] at set
        by_cases self : other = named
        · subst self
          rw [Function.update_self] at set
          rw [← Option.some.inj set]
          exact fits_of_splitKey areLines.1 split positive
        · rw [Function.update_of_ne self] at set
          exact initial other strength set

end Loaded

/-! ### When the file comes back -/

section Laws

variable {cfg : SmoothingConfig} {entries : List (List UInt8 × Int)}

theorem SmoothingConfig.Valid.restrict (valid : cfg.Valid) (keep : List UInt8 → Bool) :
    (cfg.restrict keep).Valid where
  smoothness := valid.smoothness
  per_finger := valid.per_finger
  tracker serial value kept := valid.tracker serial value (Option.ite_none_right_eq_some.mp kept).2
  serial serial value kept := valid.serial serial value (Option.ite_none_right_eq_some.mp kept).2

theorem Lists.restrict (lists : Lists entries cfg.trackerSmoothness) (keep : List UInt8 → Bool) :
    Lists (entries.filter fun entry => keep entry.1) (cfg.restrict keep).trackerSmoothness where
  nodup := lists.nodup.sublist (List.filter_sublist.map _)
  mem_iff serial value := by
    rw [List.mem_filter, lists.mem_iff, SmoothingConfig.restrict, Option.ite_none_right_eq_some,
      and_comm]

/-- The file gives back the configuration, and every part of it gives back that part, exactly if
the line of every tracker fits. -/
theorem round_trip_iff (valid : cfg.Valid) (lists : Lists entries cfg.trackerSmoothness) :
    (loadConfig (some (saveConfig cfg entries)) = cfg ∧
      ∀ keep : List UInt8 → Bool,
        loadConfig (some (saveConfig (cfg.restrict keep)
          (entries.filter fun entry => keep entry.1))) =
            (loadConfig (some (saveConfig cfg entries))).restrict keep) ↔
      ∀ entry ∈ entries, Fits entry := by
  constructor
  · rintro ⟨same, -⟩ entry member
    have loaded : (loadConfig (some (saveConfig cfg entries))).trackerSmoothness entry.1 =
        some entry.2 := by
      rw [same]
      exact (lists.mem_iff entry.1 entry.2).mp member
    have default : ∀ serial value,
        ({} : SmoothingConfig).trackerSmoothness serial = some value → Fits (serial, value) :=
      fun _ _ => nofun
    exact fits_of_loaded (fun _ => isLine_of_mem) default loaded
  · intro fits
    have whole := loadConfig_saveConfig valid lists fits
    refine ⟨whole, fun keep => ?_⟩
    rw [whole]
    exact loadConfig_saveConfig (valid.restrict keep) (lists.restrict keep)
      fun entry member => fits entry (List.mem_filter.mp member).1

/-- One tracker with its strength. -/
def oneTracker (serial : List UInt8) (value : Int) : SmoothingConfig :=
  { trackerSmoothness := fun other => if other = serial then some value else none }

theorem oneTracker_valid {serial : List UInt8} {value : Int} (plain : 0 ∉ serial)
    (atLeast : 1 ≤ value) (atMost : value ≤ 100) : (oneTracker serial value).Valid where
  smoothness := ⟨le_rfl, Int.natCast_nonneg 100⟩
  per_finger _ := ⟨le_rfl, Int.natCast_nonneg 100⟩
  tracker other strength set := by
    obtain ⟨-, same⟩ := Option.ite_none_right_eq_some.mp set
    rw [← Option.some.inj same]
    exact ⟨atLeast, atMost⟩
  serial other strength set := by
    rw [(Option.ite_none_right_eq_some.mp set).1]
    exact plain

theorem oneTracker_lists (serial : List UInt8) (value : Int) :
    Lists [(serial, value)] (oneTracker serial value).trackerSmoothness where
  nodup := List.nodup_singleton _
  mem_iff other strength := by
    rw [List.mem_singleton, Prod.mk.injEq, oneTracker, Option.ite_none_right_eq_some,
      Option.some_inj, eq_comm (a := strength)]

/-- A serial of letters and digits. -/
theorem round_trip_plain :
    loadConfig (some (saveConfig (oneTracker (ascii "LHR-7A31") 50) [(ascii "LHR-7A31", 50)])) =
      oneTracker (ascii "LHR-7A31") 50 :=
  ((round_trip_iff (oneTracker_valid (by decide) (by decide) (by decide))
    (oneTracker_lists _ _)).mpr (by
      rw [List.forall_mem_singleton]
      exact ⟨by decide, by decide⟩)).1

/-- The line of the serial `A=B` is cut inside the serial. -/
theorem serial_cut :
    (oneTracker (ascii "A=B") 50).Valid ∧
      Lists [(ascii "A=B", 50)] (oneTracker (ascii "A=B") 50).trackerSmoothness ∧
        loadConfig (some (saveConfig (oneTracker (ascii "A=B") 50) [(ascii "A=B", 50)])) ≠
          oneTracker (ascii "A=B") 50 := by
  refine ⟨oneTracker_valid (by decide) (by decide) (by decide), oneTracker_lists _ _,
    fun same => ?_⟩
  have lost : (loadConfig (some (saveConfig (oneTracker (ascii "A=B") 50)
      [(ascii "A=B", 50)]))).trackerSmoothness (ascii "A=B") = none := by
    decide +kernel
  rw [same] at lost
  exact absurd lost (by decide)

end Laws

end PairDriver.Smoothing
