/-
This file models the catalogue of module sources on disk: how it is written and
read as JSON, and how it is seeded with the built-in registry, with every
operation of the file system that can fail.

The content here is that a failure to load looks like a first start. Loading
returns the empty catalogue for a file that cannot be opened or parsed, and
seeding writes the registry to whatever it was returned. So the file loses its
sources exactly if it was not loaded but can be written.
-/

import PairDriver.ModuleSync
import PairDriver.TextLines

namespace PairDriver.SourcesFile

open ModuleSync (SourceKind)

/-- A string of the source, as its bytes. -/
abbrev Text := List UInt8

/-! ### JSON values -/

/-- A `picojson::value`. An object lists its members in the order of their keys; a rational stands
for a double. -/
inductive Value where
  | null
  | boolean (value : Bool)
  | number (value : Rat)
  | string (value : Text)
  | array (elements : List Value)
  | object (members : List (Text × Value))

def valueAt (value : Value) (key : String) : Option Value :=
  match value with
  | .object members => members.lookup (ascii key)
  | _ => none

def arrayAt (value : Value) (key : String) : Option (List Value) :=
  match valueAt value key with
  | some (.array elements) => some elements
  | _ => none

def stringAt (value : Value) (key : String) : Text :=
  match valueAt value key with
  | some (.string text) => text
  | _ => []

def boolAt (value : Value) (key : String) : Bool :=
  match valueAt value key with
  | some (.boolean boolean) => boolean
  | _ => false

/-- The number is truncated towards zero. -/
def intAt (value : Value) (key : String) (fallback : Int) : Int :=
  match valueAt value key with
  | some (.number number) => number.num.tdiv number.den
  | _ => fallback

/-- The two functions of the JSON library that are used; `serialize` breaks lines. -/
structure Picojson where
  parse : Text → Option Value
  serialize : Value → Text

def stripUtf8Bom : Text → Text
  | 0xEF :: 0xBB :: 0xBF :: rest => rest
  | body => body

/-- `ParseObject`, with the members of the object. -/
def parseObject (json : Picojson) (body : Text) : Option (List (Text × Value)) :=
  match json.parse (stripUtf8Bom body) with
  | some (.object members) => some members
  | _ => none

/-! ### The catalogue -/

def kindFromString (text : Text) : SourceKind :=
  if text = ascii "folder" then .folder
  else if text = ascii "github" then .gitHub
  else .registry

def kindToString : SourceKind → Text
  | .folder => ascii "folder"
  | .gitHub => ascii "github"
  | .registry => ascii "registry"

structure ModuleSource where
  id : Text := []
  kind : SourceKind := .registry
  url : Text := []
  path : Text := []
  ownerRepo : Text := []
  label : Text := []
  autoUpdate : Bool := false
  addedAt : Text := []
  lastCheckedAt : Text := []
  lastReleaseTag : Text := []
  lastSyncError : Text := []
deriving DecidableEq

structure SourcesCatalogue where
  schemaVersion : Int := 1
  sources : List ModuleSource := []
deriving DecidableEq

def loadSource (element : Value) : ModuleSource where
  id := stringAt element "id"
  kind := kindFromString (stringAt element "kind")
  url := stringAt element "url"
  path := stringAt element "path"
  ownerRepo := stringAt element "owner_repo"
  label := stringAt element "label"
  autoUpdate := boolAt element "auto_update"
  addedAt := stringAt element "added_at"
  lastCheckedAt := stringAt element "last_checked_at"
  lastReleaseTag := stringAt element "last_release_tag"

/-- The catalogue of a parsed file; entries without an identifier are skipped. -/
def catalogueOf (root : Value) : SourcesCatalogue where
  schemaVersion := intAt root "schema_version" 1
  sources := (((arrayAt root "sources").getD []).map loadSource).filter fun source => source.id ≠ []

/-- A member that is written unless its text is empty. -/
def optional (key : String) (text : Text) : List (Text × Value) :=
  if text = [] then [] else [(ascii key, .string text)]

def sourceValue (source : ModuleSource) : Value :=
  .object (optional "added_at" source.addedAt ++
    [(ascii "auto_update", .boolean source.autoUpdate), (ascii "id", .string source.id),
      (ascii "kind", .string (kindToString source.kind)), (ascii "label", .string source.label)] ++
    optional "last_checked_at" source.lastCheckedAt ++
    optional "last_release_tag" source.lastReleaseTag ++
    optional "owner_repo" source.ownerRepo ++ optional "path" source.path ++
    optional "url" source.url)

def catalogueValue (catalogue : SourcesCatalogue) : Value :=
  .object [(ascii "schema_version", .number catalogue.schemaVersion),
    (ascii "sources", .array (catalogue.sources.map sourceValue))]

/-! ### The file -/

/-- Which operations succeed during a call; reading may stop after some bytes. -/
structure Faults where
  opens : Bool := true
  readLength : Option Nat := none
  created : Bool := true
  written : Bool := true
  flushed : Bool := true
  renamed : Bool := true

/-- The text `LoadSourcesCatalogue` reads from the file; none if it does not open. -/
def readSources (faults : Faults) (file : Option Text) : Option Text :=
  match file with
  | none => none
  | some content =>
    if faults.opens then
      match faults.readLength with
      | none => some (TextLines.readText content)
      | some length => some ((TextLines.readText content).take length)
    else none

def loadSourcesCatalogue (json : Picojson) (faults : Faults) (file : Option Text) :
    SourcesCatalogue :=
  match (readSources faults file).bind (parseObject json) with
  | none => {}
  | some members => catalogueOf (.object members)

/-- Whether a save gets through to the rename. -/
def Faults.saves (faults : Faults) : Bool :=
  faults.created && faults.written && faults.flushed && faults.renamed

/-- The text a save writes: the length of a write is a number of 32 bits. -/
def savedText (json : Picojson) (catalogue : SourcesCatalogue) : Text :=
  let body := json.serialize (catalogueValue catalogue)
  body.take (body.length % 2 ^ 32)

/-- The result of a save and the file after it; only the rename touches the file. -/
def saveSourcesCatalogue (json : Picojson) (faults : Faults) (catalogue : SourcesCatalogue)
    (file : Option Text) : Bool × Option Text :=
  if faults.saves then (true, some (savedText json catalogue)) else (false, file)

/-- The built-in registry. -/
def registrySource : ModuleSource where
  id := ascii "00000000000000000000000000000001"
  url := ascii "https://legacy-registry.whyknot.dev"
  label := ascii "Legacy registry (curated)"
  autoUpdate := true

def hasRegistry (sources : List ModuleSource) : Bool :=
  sources.any fun source => source.id = registrySource.id

def seeded (sources : List ModuleSource) : SourcesCatalogue where
  sources := registrySource :: sources

/-- The catalogue that is returned, and the file after the call. -/
def ensureSourcesCatalogue (json : Picojson) (faults : Faults) (file : Option Text) :
    SourcesCatalogue × Option Text :=
  let catalogue := loadSourcesCatalogue json faults file
  if hasRegistry catalogue.sources then (catalogue, file)
  else
    (seeded catalogue.sources,
      (saveSourcesCatalogue json faults (seeded catalogue.sources) file).2)

/-! ### What must not be lost -/

/-- The sources a file describes, read in full; none if it is no JSON object. -/
def describes (json : Picojson) (file : Option Text) : Option (List ModuleSource) :=
  match file with
  | none => some []
  | some content => (parseObject json (TextLines.readText content)).map fun members =>
      (catalogueOf (.object members)).sources

/-- The file is as it was, or is a catalogue with every source it described. -/
def Kept (json : Picojson) (before after : Option Text) : Prop :=
  after = before ∨ ∃ described ∈ describes json before, ∃ left ∈ describes json after,
    described ⊆ left

/-- What the library does with a value the code saves: the text reads back, it has no byte that
text mode changes, it starts with a brace, and a text of which more than the last character is
missing does not parse. -/
structure Picojson.Inverts (json : Picojson) (value : Value) : Prop where
  parses : json.parse (json.serialize value) = some value
  textual : ∀ byte ∈ json.serialize value, byte ≠ 13 ∧ byte ≠ 26
  opens : (json.serialize value).head? = some 0x7B
  closed : ∀ length, (json.parse ((json.serialize value).take length)).isSome = true →
    (json.serialize value).length ≤ length + 1

/-- A text that is cut short parses to no other object than the whole text. -/
def Picojson.Cuts (json : Picojson) (text : Text) : Prop :=
  ∀ length members, parseObject json (text.take length) = some members →
    parseObject json text = some members

/-! ### A catalogue read back -/

theorem lookup_optional (key : String) (other text : Text) :
    (optional key text).lookup other =
      if other = ascii key ∧ text ≠ [] then some (.string text) else none := by
  by_cases empty : text = []
  · simp [optional, empty]
  · by_cases same : other = ascii key
    · simp [optional, empty, same]
    · simp [optional, empty, same, List.lookup_cons, beq_false_of_ne same]

theorem lookup_member (key : String) (other : Text) (value : Value) (rest : List (Text × Value)) :
    ((ascii key, value) :: rest).lookup other =
      if other = ascii key then some value else rest.lookup other := by
  by_cases same : other = ascii key
  · simp [same]
  · simp [same, List.lookup_cons, beq_false_of_ne same]

/-- The source without the error text, which is not written. -/
def clearError (source : ModuleSource) : ModuleSource := { source with lastSyncError := [] }

theorem kindFromString_kindToString (kind : SourceKind) :
    kindFromString (kindToString kind) = kind := by
  cases kind <;> rfl

/-- The text of an optional member, or the default. -/
theorem optional_text (text : Text) :
    (match (if text ≠ [] then some (Value.string text) else none) with
      | some (.string text) => text
      | _ => []) = text := by
  by_cases empty : text = []
  · simp [empty]
  · simp [empty]

theorem loadSource_sourceValue (source : ModuleSource) :
    loadSource (sourceValue source) = clearError source := by
  obtain ⟨id, kind, url, path, ownerRepo, label, autoUpdate, addedAt, checked, tag, error⟩ := source
  simp +decide only [loadSource, sourceValue, clearError, stringAt, boolAt, valueAt,
    List.lookup_append, lookup_optional, lookup_member, List.lookup_nil, false_and, true_and,
    if_false, if_true, Option.none_or, Option.or_none, optional_text,
    kindFromString_kindToString]

/-- What is read back is what was saved, but for sources without an identifier and error texts. -/
theorem catalogueOf_catalogueValue {catalogue : SourcesCatalogue}
    (named : ∀ source ∈ catalogue.sources, source.id ≠ []) :
    catalogueOf (catalogueValue catalogue) =
      { catalogue with sources := catalogue.sources.map clearError } := by
  have loaded : (catalogue.sources.map sourceValue).map loadSource =
      catalogue.sources.map clearError := by
    rw [List.map_map]
    exact List.map_congr_left fun source _ => loadSource_sourceValue source
  have kept : (catalogue.sources.map clearError).filter (fun source => source.id ≠ []) =
      catalogue.sources.map clearError := by
    refine List.filter_eq_self.mpr (List.forall_mem_map.mpr fun source member => ?_)
    exact decide_eq_true (named source member)
  have array : arrayAt (catalogueValue catalogue) "sources" =
      some (catalogue.sources.map sourceValue) := rfl
  have version : intAt (catalogueValue catalogue) "schema_version" 1 =
      catalogue.schemaVersion := by
    show Int.tdiv _ _ = _
    simp
  rw [catalogueOf, array, version, Option.getD_some, loaded, kept]

/-! ### Texts a save leaves -/

theorem readText_of_textual {text : Text} (textual : ∀ byte ∈ text, byte ≠ 13 ∧ byte ≠ 26) :
    TextLines.readText text = text := by
  induction text with
  | nil => rfl
  | cons byte rest inductionHypothesis =>
    obtain ⟨⟨notReturn, notEnd⟩, later⟩ := List.forall_mem_cons.mp textual
    rw [TextLines.readText, if_neg notEnd, if_neg fun lineEnd => notReturn lineEnd.1,
      inductionHypothesis later]

theorem stripUtf8Bom_of_opens {text : Text} (opens : ∀ byte ∈ text.head?, byte = 0x7B) :
    stripUtf8Bom text = text := by
  unfold stripUtf8Bom
  split
  · exact absurd (opens 0xEF rfl) (by decide)
  · rfl

section Saved

variable {json : Picojson} {catalogue : SourcesCatalogue}
  (inverts : json.Inverts (catalogueValue catalogue))

include inverts

/-- A text that begins like the one that was written is parsed as it stands. -/
theorem parseObject_take (length : Nat) :
    parseObject json (TextLines.readText
        ((json.serialize (catalogueValue catalogue)).take length)) =
      match json.parse ((json.serialize (catalogueValue catalogue)).take length) with
      | some (.object members) => some members
      | _ => none := by
  have textual := fun byte
      (member : byte ∈ (json.serialize (catalogueValue catalogue)).take length) =>
    inverts.textual byte (List.mem_of_mem_take member)
  have opens : ∀ byte ∈ ((json.serialize (catalogueValue catalogue)).take length).head?,
      byte = 0x7B := by
    intro byte member
    rw [List.head?_take] at member
    split at member
    · cases member
    · rw [inverts.opens] at member
      exact (Option.some.inj member).symm
  rw [readText_of_textual textual, parseObject, stripUtf8Bom_of_opens opens]

/-- A text of fewer than 4 GiB is written whole, and describes the sources of the catalogue. -/
theorem describes_saved (named : ∀ source ∈ catalogue.sources, source.id ≠ [])
    (short : (json.serialize (catalogueValue catalogue)).length < 2 ^ 32) :
    describes json (some (savedText json catalogue)) =
      some (catalogue.sources.map clearError) := by
  have parsed := parseObject_take inverts (json.serialize (catalogueValue catalogue)).length
  rw [List.take_length, inverts.parses] at parsed
  have members : parseObject json (TextLines.readText (json.serialize (catalogueValue catalogue))) =
      some [(ascii "schema_version", .number catalogue.schemaVersion),
        (ascii "sources", .array (catalogue.sources.map sourceValue))] := parsed
  rw [describes, savedText, Nat.mod_eq_of_lt short, List.take_length, members, Option.map_some]
  exact congrArg (fun loaded => some loaded.sources) (catalogueOf_catalogueValue named)

/-- A longer text is cut, and what is left describes nothing. -/
theorem describes_cut (long : ¬(json.serialize (catalogueValue catalogue)).length < 2 ^ 32) :
    describes json (some (savedText json catalogue)) = none := by
  have open' : json.parse (savedText json catalogue) = none := by
    refine Option.not_isSome_iff_eq_none.mp fun parses => ?_
    have whole := inverts.closed _ parses
    have cut := Nat.mod_lt (json.serialize (catalogueValue catalogue)).length
      (Nat.two_pow_pos 32)
    have step := Nat.mod_add_div (json.serialize (catalogueValue catalogue)).length (2 ^ 32)
    omega
  rw [describes, savedText, parseObject_take inverts]
  rw [savedText] at open'
  rw [open']
  rfl

end Saved

/-! ### Loading after a save -/

theorem clearError_eq_iff (source : ModuleSource) :
    clearError source = source ↔ source.lastSyncError = [] := by
  obtain ⟨⟩ := source
  simp [clearError, eq_comm]

theorem map_clearError_iff (sources : List ModuleSource) :
    sources.map clearError = sources ↔ ∀ source ∈ sources, source.lastSyncError = [] := by
  have pointwise := List.map_inj_left (l := sources) (f := clearError) (g := id)
  rw [List.map_id] at pointwise
  exact pointwise.trans (forall₂_congr fun source _ => clearError_eq_iff source)

theorem load_after_save_iff {json : Picojson} {catalogue : SourcesCatalogue}
    (inverts : json.Inverts (catalogueValue catalogue))
    (named : ∀ source ∈ catalogue.sources, source.id ≠ []) {faults : Faults}
    {file after : Option Text}
    (saved : saveSourcesCatalogue json faults catalogue file = (true, after)) :
    loadSourcesCatalogue json {} after = catalogue ↔
      catalogue = {} ∨ (json.serialize (catalogueValue catalogue)).length < 2 ^ 32 ∧
        ∀ source ∈ catalogue.sources, source.lastSyncError = [] := by
  obtain rfl : after = some (savedText json catalogue) := by
    unfold saveSourcesCatalogue at saved
    split at saved
    · exact (Prod.mk.inj saved).2.symm
    · cases (Prod.mk.inj saved).1
  by_cases short : (json.serialize (catalogueValue catalogue)).length < 2 ^ 32
  · have parsed := parseObject_take inverts (json.serialize (catalogueValue catalogue)).length
    rw [List.take_length, inverts.parses] at parsed
    have loaded : loadSourcesCatalogue json {} (some (savedText json catalogue)) =
        { catalogue with sources := catalogue.sources.map clearError } := by
      rw [← catalogueOf_catalogueValue named, loadSourcesCatalogue, readSources, savedText,
        Nat.mod_eq_of_lt short, List.take_length, if_pos rfl]
      simp only [Option.bind_some, parsed]
      rfl
    have same : loadSourcesCatalogue json {} (some (savedText json catalogue)) = catalogue ↔
        catalogue.sources.map clearError = catalogue.sources := by
      rw [loaded]
      exact ⟨fun equal => congrArg SourcesCatalogue.sources equal, fun equal => by rw [equal]⟩
    rw [same, map_clearError_iff]
    refine ⟨fun clear => Or.inr ⟨short, clear⟩, fun safe => ?_⟩
    rcases safe with rfl | safe
    · exact fun source member => nomatch member
    · exact safe.2
  · have nothing := Option.map_eq_none_iff.mp (describes_cut inverts short)
    have loaded : loadSourcesCatalogue json {} (some (savedText json catalogue)) = {} := by
      rw [loadSourcesCatalogue, readSources, if_pos rfl]
      simp only [Option.bind_some, nothing]
    rw [loaded]
    refine ⟨fun equal => Or.inl equal.symm, fun safe => ?_⟩
    exact (safe.resolve_right fun both => short both.1).symm

/-! ### Seeding -/

/-- The members of the file, if it opens and what is read of it parses. -/
def loadedMembers (json : Picojson) (faults : Faults) (file : Option Text) :
    Option (List (Text × Value)) :=
  (readSources faults file).bind (parseObject json)

/-- Nothing is lost: there is no file, it cannot be written, it was loaded (and lists the registry,
or the seeded catalogue has fewer than 4 GiB), or it describes nothing but the registry. -/
def Safe (json : Picojson) (faults : Faults) (before : Option Text) : Prop :=
  before = none ∨ faults.saves = false ∨
    (∃ members ∈ loadedMembers json faults before,
      hasRegistry (catalogueOf (.object members)).sources = true ∨
      (json.serialize (catalogueValue
        (seeded (catalogueOf (.object members)).sources))).length < 2 ^ 32) ∨
    ∃ described ∈ describes json before, described ⊆ [registrySource]

/-- What is loaded is what the file describes, also if reading it was cut short. -/
theorem describes_of_loaded {json : Picojson} {faults : Faults} {before : Option Text}
    (cuts : ∀ content ∈ before, json.Cuts (TextLines.readText content))
    {members : List (Text × Value)} (loaded : loadedMembers json faults before = some members) :
    describes json before = some (catalogueOf (.object members)).sources := by
  obtain ⟨text, read, parsed⟩ := Option.bind_eq_some_iff.mp loaded
  unfold readSources at read
  split at read
  · cases read
  rename_i content
  split at read
  · have whole : parseObject json (TextLines.readText content) = some members := by
      split at read
      · obtain rfl := Option.some.inj read
        exact parsed
      · obtain rfl := Option.some.inj read
        exact cuts content rfl _ _ parsed
    rw [describes, whole]
    rfl
  · cases read

theorem described_named {json : Picojson} {file : Option Text} {described : List ModuleSource}
    (describe : describes json file = some described) :
    ∀ source ∈ described, source.id ≠ [] ∧ source.lastSyncError = [] := by
  intro source member
  unfold describes at describe
  split at describe
  · obtain rfl := Option.some.inj describe
    cases member
  · obtain ⟨members, _, rfl⟩ := Option.map_eq_some_iff.mp describe
    obtain ⟨loaded, named⟩ := List.mem_filter.mp member
    obtain ⟨element, _, rfl⟩ := List.mem_map.mp loaded
    exact ⟨of_decide_eq_true named, rfl⟩

theorem seeded_named {sources : List ModuleSource}
    (named : ∀ source ∈ sources, source.id ≠ [] ∧ source.lastSyncError = []) :
    (∀ source ∈ (seeded sources).sources, source.id ≠ []) ∧
      (seeded sources).sources.map clearError = (seeded sources).sources :=
  ⟨List.forall_mem_cons.mpr ⟨by decide, fun source member => (named source member).1⟩,
    (map_clearError_iff _).mpr
      (List.forall_mem_cons.mpr ⟨rfl, fun source member => (named source member).2⟩)⟩

/-- A seeded catalogue that is written whole describes the registry and the sources it had. -/
theorem describes_seeded {json : Picojson} {sources : List ModuleSource}
    (inverts : json.Inverts (catalogueValue (seeded sources)))
    (named : ∀ source ∈ sources, source.id ≠ [] ∧ source.lastSyncError = [])
    (short : (json.serialize (catalogueValue (seeded sources))).length < 2 ^ 32) :
    describes json (some (savedText json (seeded sources))) = some (registrySource :: sources) := by
  obtain ⟨ids, clear⟩ := seeded_named named
  rw [describes_saved inverts ids short, clear]
  rfl

theorem ensure_loaded {json : Picojson} {faults : Faults} {before : Option Text}
    {members : List (Text × Value)} (loaded : loadedMembers json faults before = some members) :
    (ensureSourcesCatalogue json faults before).2 =
      if hasRegistry (catalogueOf (.object members)).sources ∨ faults.saves = false then before
      else some (savedText json (seeded (catalogueOf (.object members)).sources)) := by
  have catalogue : loadSourcesCatalogue json faults before = catalogueOf (.object members) := by
    rw [loadSourcesCatalogue, ← loadedMembers, loaded]
  rw [ensureSourcesCatalogue, catalogue]
  unfold saveSourcesCatalogue
  cases hasRegistry (catalogueOf (.object members)).sources
  · cases faults.saves <;> rfl
  · rfl

theorem ensure_unloaded {json : Picojson} {faults : Faults} {before : Option Text}
    (unloaded : loadedMembers json faults before = none) :
    (ensureSourcesCatalogue json faults before).2 =
      if faults.saves = false then before else some (savedText json (seeded [])) := by
  have catalogue : loadSourcesCatalogue json faults before = {} := by
    rw [loadSourcesCatalogue, ← loadedMembers, unloaded]
  rw [ensureSourcesCatalogue, catalogue]
  unfold saveSourcesCatalogue
  cases faults.saves <;> rfl

/-- The seeded catalogue keeps every source, unless it is too long to be written whole. -/
theorem kept_seeded_iff {json : Picojson} {before : Option Text} {described : List ModuleSource}
    (describe : describes json before = some described)
    (inverts : json.Inverts (catalogueValue (seeded described))) :
    Kept json before (some (savedText json (seeded described))) ↔
      (json.serialize (catalogueValue (seeded described))).length < 2 ^ 32 := by
  by_cases short : (json.serialize (catalogueValue (seeded described))).length < 2 ^ 32
  · have after := describes_seeded inverts (described_named describe) short
    refine iff_of_true (Or.inr ⟨described, describe, _, after, ?_⟩) short
    exact List.subset_cons_self _ _
  · have after := describes_cut inverts short
    refine iff_of_false ?_ short
    rintro (same | ⟨_, _, left, describesLeft, _⟩)
    · rw [← same, after] at describe
      cases describe
    · rw [after] at describesLeft
      cases describesLeft

/-- The registry alone keeps every source exactly if there was no other. -/
theorem kept_registry_iff {json : Picojson} {before : Option Text}
    (inverts : json.Inverts (catalogueValue (seeded [])))
    (short : (json.serialize (catalogueValue (seeded []))).length < 2 ^ 32) :
    Kept json before (some (savedText json (seeded []))) ↔
      ∃ described ∈ describes json before, described ⊆ [registrySource] := by
  have after := describes_seeded inverts (fun _ member => nomatch member) short
  constructor
  · rintro (same | ⟨described, describe, left, describesLeft, subset⟩)
    · exact ⟨_, same ▸ after, List.Subset.refl _⟩
    · rw [after] at describesLeft
      obtain rfl := Option.some.inj describesLeft
      exact ⟨described, describe, subset⟩
  · rintro ⟨described, describe, subset⟩
    exact Or.inr ⟨described, describe, _, after, subset⟩

/-- Sources that are all the registry, none of which has its identifier. -/
theorem eq_nil_of_unlisted {sources : List ModuleSource} (listed : hasRegistry sources = false)
    (subset : sources ⊆ [registrySource]) : sources = [] := by
  refine List.eq_nil_iff_forall_not_mem.mpr fun source member => ?_
  obtain rfl := List.mem_singleton.mp (subset member)
  have registered : hasRegistry sources = true :=
    List.any_eq_true.mpr ⟨registrySource, member, by simp⟩
  rw [listed] at registered
  cases registered

theorem ensure_keeps_iff {json : Picojson} {faults : Faults} {before : Option Text}
    (cuts : ∀ content ∈ before, json.Cuts (TextLines.readText content))
    (inverts : ∀ sources, describes json before = some sources ∨ sources = [] →
      json.Inverts (catalogueValue (seeded sources)))
    (short : (json.serialize (catalogueValue (seeded []))).length < 2 ^ 32) :
    Kept json before (ensureSourcesCatalogue json faults before).2 ↔ Safe json faults before := by
  unfold Safe
  cases saves : faults.saves with
  | false =>
    have unchanged : (ensureSourcesCatalogue json faults before).2 = before := by
      cases loaded : loadedMembers json faults before with
      | none => rw [ensure_unloaded loaded, if_pos saves]
      | some members => rw [ensure_loaded loaded, if_pos (Or.inr saves)]
    exact iff_of_true (Or.inl unchanged) (Or.inr (Or.inl rfl))
  | true =>
    cases loaded : loadedMembers json faults before with
    | none =>
      have absent : before = none → ∃ described ∈ describes json before,
          described ⊆ [registrySource] := by
        rintro rfl
        exact ⟨[], rfl, List.nil_subset _⟩
      rw [ensure_unloaded loaded, if_neg (by simp [saves]),
        kept_registry_iff (inverts [] (Or.inr rfl)) short]
      simpa using absent
    | some members =>
      have describe := describes_of_loaded cuts loaded
      rw [ensure_loaded loaded]
      cases listed : hasRegistry (catalogueOf (.object members)).sources with
      | true =>
        rw [if_pos (Or.inl rfl)]
        exact iff_of_true (Or.inl rfl) (Or.inr (Or.inr (Or.inl ⟨members, rfl, Or.inl listed⟩)))
      | false =>
        rw [if_neg (by simp [saves]), kept_seeded_iff describe (inverts _ (Or.inl describe))]
        constructor
        · exact fun fits => Or.inr (Or.inr (Or.inl ⟨members, rfl, Or.inr fits⟩))
        · rintro (rfl | impossible | ⟨other, same, fits⟩ | ⟨described, same, subset⟩)
          · cases loaded
          · cases impossible
          · obtain rfl := Option.some.inj same
            exact fits.resolve_left fun registered => by
              rw [listed] at registered
              cases registered
          · rw [describe] at same
            obtain rfl := Option.some.inj same
            rwa [eq_nil_of_unlisted listed subset]

/-! ### The catalogue of the sync model -/

/-- A source as the model of the sync knows it. -/
def forget (source : ModuleSource) : ModuleSync.ModuleSource where
  id := source.id
  kind := source.kind
  url := source.url
  path := source.path
  ownerRepo := source.ownerRepo
  autoUpdate := source.autoUpdate
  lastCheckedAt := source.lastCheckedAt
  lastReleaseTag := source.lastReleaseTag

theorem forget_registrySource : forget registrySource = ModuleSync.registrySource := by
  decide +kernel

theorem hasRegistry_forget (sources : List ModuleSource) :
    ((sources.map forget).any fun source => source.id = ModuleSync.registrySource.id) =
      hasRegistry sources := by
  rw [List.any_map, ← forget_registrySource]
  rfl

/-- A text from its lines. -/
def textOf (lines : List String) : Text :=
  lines.flatMap fun line => ascii line ++ [10]

/-- The text of the catalogue with the registry alone. -/
@[irreducible] def registryText : Text :=
  textOf ["\x7b", "  \"schema_version\": 1,", "  \"sources\": [", "    \x7b",
    "      \"auto_update\": true,",
    "      \"id\": \"00000000000000000000000000000001\",",
    "      \"kind\": \"registry\",",
    "      \"label\": \"Legacy registry (curated)\",",
    "      \"url\": \"https:\\/\\/legacy-registry.whyknot.dev\"",
    "    \x7d", "  ]", "\x7d"]

/-- A folder source, and the text of the catalogue that lists it. -/
def folderSource : ModuleSource where
  id := ascii "ab"
  kind := .folder
  path := ascii "C:\\modules"
  label := ascii "Mine"

@[irreducible] def folderText : Text :=
  textOf ["\x7b", "  \"schema_version\": 1,", "  \"sources\": [", "    \x7b",
    "      \"auto_update\": false,", "      \"id\": \"ab\",", "      \"kind\": \"folder\",",
    "      \"label\": \"Mine\",", "      \"path\": \"C:\\\\modules\"", "    \x7d", "  ]", "\x7d"]

/-- A text that ends too early. -/
@[irreducible] def brokenText : Text := ascii "\x7b\"sources\":["

/-- The library on these texts, and on the catalogue with the registry
alone. -/
def twoTexts : Picojson where
  parse text :=
    if text = registryText then some (catalogueValue (seeded []))
    else if text = folderText then some (catalogueValue { sources := [folderSource] })
    else none
  serialize _ := registryText

theorem registryText_textual : ∀ byte ∈ registryText, byte ≠ 13 ∧ byte ≠ 26 := by
  have plain : registryText.all (fun byte => byte ≠ 13 ∧ byte ≠ 26) = true := by decide +kernel
  exact fun byte member => of_decide_eq_true (List.all_eq_true.mp plain byte member)

/-- No beginning of the first text is the second one. -/
theorem take_registryText_ne (length : Nat) : registryText.take length ≠ folderText := by
  intro same
  have long : 70 ≤ folderText.length := by decide +kernel
  have bound := List.length_take_le length registryText
  rw [same] at bound
  have start : (registryText.take length).take 70 = registryText.take 70 := by
    rw [List.take_take, Nat.min_eq_left (long.trans bound)]
  rw [same] at start
  exact absurd start (by decide +kernel)

theorem twoTexts_inverts : twoTexts.Inverts (catalogueValue (seeded [])) where
  parses := if_pos rfl
  textual := registryText_textual
  opens := by decide +kernel
  closed := by
    intro length parses
    show registryText.length ≤ length + 1
    by_cases whole : registryText.take length = registryText
    · have bound := List.length_take_le length registryText
      rw [whole] at bound
      exact bound.trans (Nat.le_succ _)
    · have unparsed : twoTexts.parse (registryText.take length) = none :=
        (if_neg whole).trans (if_neg (take_registryText_ne length))
      exact absurd parses (Option.not_isSome_iff_eq_none.mpr unparsed)

theorem not_kept {json : Picojson} {before after : Option Text} {left : List ModuleSource}
    (describeLeft : describes json after = some left)
    (lost : ∀ described ∈ describes json before, ¬described ⊆ left) : ¬Kept json before after := by
  rintro (same | ⟨described, describe, other, describeOther, subset⟩)
  · exact lost left (same ▸ describeLeft) (List.Subset.refl _)
  · rw [describeLeft] at describeOther
    obtain rfl := Option.some.inj describeOther
    exact lost described describe subset

end PairDriver.SourcesFile
