/-
This file models the two command texts the overlay hands to PowerShell: the
call of the sync script, and the commands that set or clear a flag file of the
driver with administrator rights. Both put values into single-quoted strings.

The content here is which values survive. PowerShell ends a single-quoted
string at any of five quote characters; the writers double one of them, and the
path of the sync script is not escaped at all. So the texts are scanned as they
are meant exactly if no value has one of the other four, and the script path
has none of the five.
-/

import PairDriver.Bytes
import PairDriver.VerbatimStrings

namespace PairDriver.PowerShell

/-! ### Texts and tokens -/

/-- A UTF-8 string of the source, as its bytes. -/
abbrev Text := List UInt8

/-- A wide string, as its UTF-16 code units. -/
abbrev Wide := List UInt16

/-- The code units of a literal. -/
def wide (text : String) : Wide :=
  text.toList.map fun character => UInt16.ofNat character.toNat

/-- The apostrophe, the quote character that the writers know. -/
def apostrophe : UInt16 := 0x27

/-- The characters that close a single-quoted string: the apostrophe and U+2018 to U+201B. -/
def isQuote (character : UInt16) : Bool :=
  [apostrophe, 0x2018, 0x2019, 0x201A, 0x201B].contains character

/-- Blanks, the characters that are a token of their own, and the quote characters; `pair` says
which quote character two in a row stand for. -/
def lexicon (pair : UInt16 → UInt16 → UInt16) : Lexicon UInt16 where
  isQuote := isQuote
  isBlank character := [0x20, 0x09].contains character
  isMark character := [0x26, 0x28, 0x29, 0x2C, 0x3B, 0x3D, 0x7B, 0x7C, 0x7D].contains character
  pair := pair

/-- Two quote characters in a row stand for one; two of a kind for that one. -/
structure Pairing (pair : UInt16 → UInt16 → UInt16) : Prop where
  same : ∀ quote, isQuote quote = true → pair quote quote = quote
  quote : ∀ first second, isQuote first = true → isQuote second = true →
    isQuote (pair first second) = true

/-- Tokens of code; a text of one character is a mark. -/
def code (texts : List String) : List (Token UInt16) :=
  texts.map fun text =>
    match wide text with
    | [character] => .mark character
    | word => .word word

/-- `Utf8ToWide`; `convert` is the system's conversion. -/
def utf8ToWide (convert : Text → Wide) (value : Text) : Wide :=
  if value = [] then [] else convert value

/-- The lambda `psSingleQuoteWide`, and `QuotePowerShellString`. -/
def quotePowerShellString (value : Wide) : Wide :=
  apostrophe :: (doubled apostrophe value ++ [apostrophe])

/-! ### The call of the sync script -/

structure PendingOp where
  action : Text
  kind : Text := []
  sourceData : Text := []
  sourceId : Text := []

/-- An argument that is left out if its value is empty. -/
def optionalArgument (convert : Text → Wide) (name : Wide) (value : Text) : Wide :=
  if value = [] then [] else name ++ quotePowerShellString (utf8ToWide convert value)

/-- The command text `LaunchNext` builds. -/
def psCmd (convert : Text → Wide) (script resultPath : Wide) (op : PendingOp) : Wide :=
  wide "& '" ++ script ++ wide "'" ++
    (wide " -Action " ++ quotePowerShellString (utf8ToWide convert op.action)) ++
    optionalArgument convert (wide " -Kind ") op.kind ++
    optionalArgument convert (wide " -SourceData ") op.sourceData ++
    optionalArgument convert (wide " -SourceId ") op.sourceId ++
    (wide " -ResultPath " ++ quotePowerShellString resultPath)

/-- The call of a script with named arguments. -/
structure Invocation where
  script : Wide
  arguments : List (String × Wide)

/-- An invocation as tokens, with nothing after it. -/
def Invocation.tokens (invocation : Invocation) : List (Token UInt16) :=
  code ["&"] ++ .verbatim invocation.script ::
    invocation.arguments.flatMap fun argument => code [argument.1] ++ [.verbatim argument.2]

/-- The invocation that is meant. -/
def launchInvocation (convert : Text → Wide) (script resultPath : Wide) (op : PendingOp) :
    Invocation where
  script := script
  arguments := [("-Action", utf8ToWide convert op.action)] ++
    (if op.kind = [] then [] else [("-Kind", utf8ToWide convert op.kind)]) ++
    (if op.sourceData = [] then [] else [("-SourceData", utf8ToWide convert op.sourceData)]) ++
    (if op.sourceId = [] then [] else [("-SourceId", utf8ToWide convert op.sourceId)]) ++
    [("-ResultPath", resultPath)]

/-! ### The commands for a flag file -/

structure ShellContext where
  installDir : Wide
  driverResourceDirs : List Wide

/-- `FlagPath`; nothing without a resource directory or a file name. -/
def ShellContext.flagPath (convert : Text → Wide) (context : ShellContext)
    (flagFileName : Option Text) : Wide :=
  match context.driverResourceDirs, flagFileName with
  | front :: _, some name =>
    if utf8ToWide convert name = [] then [] else front ++ wide "\\" ++ utf8ToWide convert name
  | _, _ => []

/-- The features with a shortcut: flag file, label and command line argument. -/
def shortcuts : List (Text × Wide × Wide) :=
  [(ascii "enable_calibration.flag", wide "Space Calibrator", wide "--launch=calibration"),
    (ascii "enable_smoothing.flag", wide "Smoothing", wide "--launch=smoothing"),
    (ascii "enable_inputhealth.flag", wide "Input Health", wide "--launch=inputhealth"),
    (ascii "enable_facetracking.flag", wide "Face Tracking", wide "--launch=facetracking"),
    (ascii "enable_oscrouter.flag", wide "OSC Router", wide "--launch=oscrouter"),
    (ascii "enable_captions.flag", wide "Captions", wide "--launch=captions")]

/-- `ShortcutLabelFor` and `ShortcutArgFor`; both tables list the same flag files. -/
def shortcutFor (flagFileName : Option Text) : Option (Wide × Wide) :=
  flagFileName.bind fun name => (shortcuts.find? fun entry => entry.1 = name).map Prod.snd

def isSeparator (character : UInt16) : Bool :=
  character == 0x5C || character == 0x2F

/-- The path up to its last separator; a path without one is kept. -/
def parentOf (path : Wide) : Wide :=
  if path.any isSeparator then
    ((path.reverse.dropWhile fun character => !isSeparator character).drop 1).reverse
  else path

def smRelative : Wide := wide "Microsoft\\Windows\\Start Menu\\Programs\\WKOpenVR"

def scFileName (label : Wide) : Wide := wide "WKOpenVR - " ++ label ++ wide ".lnk"

def ShellContext.exePath (context : ShellContext) : Wide :=
  context.installDir ++ wide "\\WKOpenVR.exe"

def description (label : Wide) : Wide := label ++ wide " in WKOpenVR"

/-- The commands that create the shortcut of a feature. -/
def ShellContext.createShortcut (context : ShellContext) (label scArg : Wide) : Wide :=
  wide "; $smDir = Join-Path $env:ProgramData " ++ quotePowerShellString smRelative ++
    wide "; New-Item -ItemType Directory -Force -Path $smDir | Out-Null" ++
    wide "; $scPath = Join-Path $smDir " ++ quotePowerShellString (scFileName label) ++
    wide "; $wsh = New-Object -ComObject WScript.Shell" ++
    wide "; $sc = $wsh.CreateShortcut($scPath)" ++
    wide "; $sc.TargetPath = " ++ quotePowerShellString context.exePath ++
    wide "; $sc.Arguments = " ++ quotePowerShellString scArg ++
    wide "; $sc.IconLocation = " ++ quotePowerShellString (context.exePath ++ wide ",0") ++
    wide "; $sc.Description = " ++ quotePowerShellString (description label) ++
    wide "; $sc.Save()"

/-- The commands that remove it. -/
def removeShortcut (label : Wide) : Wide :=
  wide "; $smDir = Join-Path $env:ProgramData " ++ quotePowerShellString smRelative ++
    wide "; $scPath = Join-Path $smDir " ++ quotePowerShellString (scFileName label) ++
    wide "; if (Test-Path -LiteralPath $scPath) \x7b Remove-Item -LiteralPath $scPath -Force \x7d"

/-- The command text `SetFlagPresent` runs elevated; none without a flag path. -/
def ShellContext.setFlagPresent (convert : Text → Wide) (context : ShellContext)
    (flagFileName : Option Text) (present : Bool) : Option Wide :=
  let path := context.flagPath convert flagFileName
  if path = [] then none
  else if present then
    some (wide "New-Item -ItemType Directory -Force -Path " ++
      quotePowerShellString (parentOf path) ++
      wide " | Out-Null; Set-Content -LiteralPath " ++ quotePowerShellString path ++
      wide " -Value enabled -NoNewline" ++
      (shortcutFor flagFileName).elim [] fun entry => context.createShortcut entry.1 entry.2)
  else
    some (wide "if (Test-Path -LiteralPath " ++ quotePowerShellString path ++
      wide ") \x7b Remove-Item -LiteralPath " ++ quotePowerShellString path ++
      wide " -Force \x7d" ++ (shortcutFor flagFileName).elim [] fun entry => removeShortcut entry.1)

/-- The commands that are meant. -/
def ShellContext.setFlagTokens (convert : Text → Wide) (context : ShellContext)
    (flagFileName : Option Text) (present : Bool) : List (Token UInt16) :=
  let path := context.flagPath convert flagFileName
  if present then
    code ["New-Item", "-ItemType", "Directory", "-Force", "-Path"] ++ .verbatim (parentOf path) ::
      code ["|", "Out-Null", ";", "Set-Content", "-LiteralPath"] ++ .verbatim path ::
      code ["-Value", "enabled", "-NoNewline"] ++
      (shortcutFor flagFileName).elim [] fun entry =>
        code [";", "$smDir", "=", "Join-Path", "$env:ProgramData"] ++ .verbatim smRelative ::
        code [";", "New-Item", "-ItemType", "Directory", "-Force", "-Path", "$smDir", "|",
          "Out-Null", ";", "$scPath", "=", "Join-Path", "$smDir"] ++
        .verbatim (scFileName entry.1) ::
        code [";", "$wsh", "=", "New-Object", "-ComObject", "WScript.Shell", ";", "$sc", "=",
          "$wsh.CreateShortcut", "(", "$scPath", ")", ";", "$sc.TargetPath", "="] ++
        .verbatim context.exePath ::
        code [";", "$sc.Arguments", "="] ++ .verbatim entry.2 ::
        code [";", "$sc.IconLocation", "="] ++ .verbatim (context.exePath ++ wide ",0") ::
        code [";", "$sc.Description", "="] ++ .verbatim (description entry.1) ::
        code [";", "$sc.Save", "(", ")"]
  else
    code ["if", "(", "Test-Path", "-LiteralPath"] ++ .verbatim path ::
      code [")", "\x7b", "Remove-Item", "-LiteralPath"] ++ .verbatim path ::
      code ["-Force", "\x7d"] ++
      (shortcutFor flagFileName).elim [] fun entry =>
        code [";", "$smDir", "=", "Join-Path", "$env:ProgramData"] ++ .verbatim smRelative ::
        code [";", "$scPath", "=", "Join-Path", "$smDir"] ++ .verbatim (scFileName entry.1) ::
        code [";", "if", "(", "Test-Path", "-LiteralPath", "$scPath", ")", "\x7b", "Remove-Item",
          "-LiteralPath", "$scPath", "-Force", "\x7d"]

/-! ### Code between the values -/

/-- The text has no quote character but the apostrophe. -/
def Escapable (text : Wide) : Prop :=
  ∀ character ∈ text, isQuote character = true → character = apostrophe

instance (text : Wide) : Decidable (Escapable text) :=
  decidable_of_iff
    (text.all (fun character => !isQuote character || character == apostrophe) = true)
    (by simp only [List.all_eq_true, Bool.or_eq_true, Bool.not_eq_true', beq_iff_eq, Escapable,
      ← Bool.not_eq_true, imp_iff_not_or])

theorem escapable_append (first second : Wide) :
    Escapable (first ++ second) ↔ Escapable first ∧ Escapable second :=
  List.forall_mem_append

def plain (text : Wide) : Bool :=
  text.all fun character => !isQuote character

theorem plain_iff (text : Wide) :
    plain text = true ↔ ∀ character ∈ text, isQuote character = false := by
  simp only [plain, List.all_eq_true, Bool.not_eq_true']

/-- A piece of code without quote characters reads as its tokens and ends between two. -/
def Reads (piece : Wide × List (Token UInt16)) : Prop :=
  piece.1.foldl (lexicon fun _ second => second).read {} = ⟨piece.2, .between⟩ ∧ piece.1 ≠ [] ∧
    plain piece.1 = true

/-- The same for code at the end of a text, which may end in a word. -/
def Ends (piece : Wide × List (Token UInt16)) : Prop :=
  (lexicon fun _ second => second).lex piece.1 = some piece.2 ∧ plain piece.1 = true

instance (piece : Wide × List (Token UInt16)) : Decidable (Reads piece) :=
  inferInstanceAs (Decidable (_ ∧ _ ∧ _))

instance (piece : Wide × List (Token UInt16)) : Decidable (Ends piece) :=
  inferInstanceAs (Decidable (_ ∧ _))

theorem Reads.sound {piece : Wide × List (Token UInt16)} (reads : Reads piece)
    (pair : UInt16 → UInt16 → UInt16) (value : Wide) (escaped : Bool) :
    Segment.Sound (lexicon pair) ⟨piece.1, piece.2, value, escaped⟩ where
  reads := ((lexicon fun _ second => second).foldl_read_pair pair
    ((plain_iff piece.1).mp reads.2.2) {}).trans reads.1
  nonempty := reads.2.1
  opens := fun character member =>
    (plain_iff piece.1).mp reads.2.2 character (List.mem_of_mem_head? member)

theorem Ends.lex {piece : Wide × List (Token UInt16)} (ends : Ends piece)
    (pair : UInt16 → UInt16 → UInt16) : (lexicon pair).lex piece.1 = some piece.2 := by
  rw [← ends.1, Lexicon.lex, Lexicon.lex,
    ← (lexicon fun _ second => second).foldl_read_pair pair ((plain_iff piece.1).mp ends.2) {}]
  rfl

theorem clean_escaped (pair : UInt16 → UInt16 → UInt16) (text value : Wide)
    (tokens : List (Token UInt16)) :
    Segment.Clean (lexicon pair) apostrophe ⟨text, tokens, value, true⟩ ↔ Escapable value := by
  simp only [Segment.Clean, Escapable, true_and]
  rfl

/-- A text of fixed code and quoted values is scanned as it is meant exactly if its values are
clean. -/
theorem lex_segments_iff {pair : UInt16 → UInt16 → UInt16} (pairing : Pairing pair)
    {segments : List (Segment UInt16)} {last : Wide × List (Token UInt16)}
    (sound : ∀ segment ∈ segments, segment.Sound (lexicon pair)) (ends : Ends last) :
    (lexicon pair).lex (Segment.render apostrophe segments last.1) =
        some (Segment.tokens segments last.2) ↔
      ∀ segment ∈ segments, segment.Clean (lexicon pair) apostrophe :=
  Segment.lex_render_iff rfl (pairing.same apostrophe rfl) pairing.quote sound (ends.lex pair)
    fun character member => (plain_iff last.1).mp ends.2 character (List.mem_of_mem_head? member)

/-! ### The call of the sync script is scanned as meant -/

/-- A named argument with its blanks. -/
def argumentSegment (argument : String × Wide) : Segment UInt16 where
  code := wide " " ++ wide argument.1 ++ wide " "
  codeTokens := code [argument.1]
  value := argument.2

def Invocation.segments (invocation : Invocation) : List (Segment UInt16) :=
  ⟨wide "& ", code ["&"], invocation.script, false⟩ :: invocation.arguments.map argumentSegment

/-- The parameters of the sync script. -/
def parameters : List String :=
  ["-Action", "-Kind", "-SourceData", "-SourceId", "-ResultPath"]

theorem reads_parameter {name : String} (member : name ∈ parameters) :
    Reads (wide " " ++ wide name ++ wide " ", code [name]) := by
  have all : ∀ name ∈ parameters, Reads (wide " " ++ wide name ++ wide " ", code [name]) := by
    decide +kernel
  exact all name member

theorem render_arguments (arguments : List (String × Wide)) (last : Wide) :
    Segment.render apostrophe (arguments.map argumentSegment) last =
      (arguments.flatMap fun argument =>
        wide " " ++ wide argument.1 ++ wide " " ++ quotePowerShellString argument.2) ++ last := by
  induction arguments with
  | nil => rfl
  | cons argument rest inductionHypothesis =>
    simp only [List.map_cons, Segment.render, inductionHypothesis, List.flatMap_cons,
      argumentSegment, Segment.body, if_true, quotePowerShellString, List.append_assoc,
      List.cons_append, List.nil_append]

theorem psCmd_eq (convert : Text → Wide) (script resultPath : Wide) (op : PendingOp) :
    psCmd convert script resultPath op =
      Segment.render apostrophe (launchInvocation convert script resultPath op).segments [] := by
  obtain ⟨opening, closing, action, kind, data, id, result⟩ :
      wide "& '" = wide "& " ++ [apostrophe] ∧ wide "'" = [apostrophe] ∧
        wide " -Action " = wide " " ++ wide "-Action" ++ wide " " ∧
        wide " -Kind " = wide " " ++ wide "-Kind" ++ wide " " ∧
        wide " -SourceData " = wide " " ++ wide "-SourceData" ++ wide " " ∧
        wide " -SourceId " = wide " " ++ wide "-SourceId" ++ wide " " ∧
        wide " -ResultPath " = wide " " ++ wide "-ResultPath" ++ wide " " := by
    decide +kernel
  rw [Invocation.segments, Segment.render, render_arguments, psCmd, opening, action, kind, data, id,
    result, closing, launchInvocation]
  unfold optionalArgument
  simp only [List.flatMap_append, List.flatMap_cons, List.flatMap_nil, List.append_nil,
    List.append_assoc, List.cons_append, List.nil_append, Segment.body, Bool.false_eq_true,
    if_false]
  split_ifs <;> simp only [List.flatMap_cons, List.flatMap_nil, List.append_nil,
    List.append_assoc, List.nil_append]

theorem tokens_arguments (arguments : List (String × Wide)) :
    Segment.tokens (arguments.map argumentSegment) [] =
      arguments.flatMap fun argument => code [argument.1] ++ [.verbatim argument.2] := by
  induction arguments with
  | nil => rfl
  | cons argument rest inductionHypothesis =>
    rw [List.map_cons, Segment.tokens, inductionHypothesis, List.flatMap_cons, List.append_assoc]
    rfl

/-- The values of an operation as they stand in the command text. -/
def launchValues (convert : Text → Wide) (resultPath : Wide) (op : PendingOp) : List Wide :=
  [utf8ToWide convert op.action, utf8ToWide convert op.kind, utf8ToWide convert op.sourceData,
    utf8ToWide convert op.sourceId, resultPath]

theorem lex_psCmd_iff {pair : UInt16 → UInt16 → UInt16} (pairing : Pairing pair)
    (convert : Text → Wide) (script resultPath : Wide) (op : PendingOp) :
    (lexicon pair).lex (psCmd convert script resultPath op) =
        some (launchInvocation convert script resultPath op).tokens ↔
      (∀ character ∈ script, isQuote character = false) ∧
        ∀ value ∈ launchValues convert resultPath op, Escapable value := by
  have call : Reads (wide "& ", code ["&"]) := by decide +kernel
  have ends : Ends ([], []) := ⟨rfl, rfl⟩
  have arguments : ∀ argument ∈ (launchInvocation convert script resultPath op).arguments,
      argument.1 ∈ parameters := by
    simp only [launchInvocation, List.mem_append, List.mem_singleton]
    rintro argument ((((rfl | member) | member) | member) | rfl)
    · simp [parameters]
    all_goals first
      | split at member
        · cases member
        · obtain rfl := List.mem_singleton.mp member
          simp [parameters]
      | simp [parameters]
  have sound : ∀ segment ∈ (launchInvocation convert script resultPath op).segments,
      segment.Sound (lexicon pair) := by
    rw [Invocation.segments, List.forall_mem_cons, List.forall_mem_map]
    exact ⟨call.sound pair _ _, fun argument member =>
      (reads_parameter (arguments argument member)).sound pair _ _⟩
  have meant : (launchInvocation convert script resultPath op).tokens =
      Segment.tokens (launchInvocation convert script resultPath op).segments [] := by
    rw [Invocation.tokens, Invocation.segments, Segment.tokens, tokens_arguments]
  rw [psCmd_eq, meant, lex_segments_iff pairing sound ends, Invocation.segments,
    List.forall_mem_cons, List.forall_mem_map]
  refine and_congr ?_ ?_
  · simp only [Segment.Clean, Bool.false_eq_true, false_and, imp_false, Bool.not_eq_true]
    rfl
  · simp only [argumentSegment, clean_escaped]
    unfold launchInvocation launchValues
    have blank : Escapable (utf8ToWide convert []) := by simp [utf8ToWide, Escapable]
    simp only [List.forall_mem_append, List.forall_mem_singleton, List.forall_mem_cons]
    split_ifs <;> simp_all [and_assoc]

/-! ### The commands for a flag file are scanned as meant -/

/-- The code before the values of the commands that set a flag. -/
def setCode : List (Wide × List (Token UInt16)) :=
  [(wide "New-Item -ItemType Directory -Force -Path ",
      code ["New-Item", "-ItemType", "Directory", "-Force", "-Path"]),
    (wide " | Out-Null; Set-Content -LiteralPath ",
      code ["|", "Out-Null", ";", "Set-Content", "-LiteralPath"])]

/-- The end of these commands. -/
def setEnd : Wide × List (Token UInt16) :=
  (wide " -Value enabled -NoNewline", code ["-Value", "enabled", "-NoNewline"])

/-- The code before the values of the commands that create the shortcut. -/
def createCode : List (Wide × List (Token UInt16)) :=
  [(setEnd.1 ++ wide "; $smDir = Join-Path $env:ProgramData ",
      setEnd.2 ++ code [";", "$smDir", "=", "Join-Path", "$env:ProgramData"]),
    (wide "; New-Item -ItemType Directory -Force -Path $smDir | Out-Null" ++
        wide "; $scPath = Join-Path $smDir ",
      code [";", "New-Item", "-ItemType", "Directory", "-Force", "-Path", "$smDir", "|",
        "Out-Null", ";", "$scPath", "=", "Join-Path", "$smDir"]),
    (wide "; $wsh = New-Object -ComObject WScript.Shell" ++
        wide "; $sc = $wsh.CreateShortcut($scPath)" ++ wide "; $sc.TargetPath = ",
      code [";", "$wsh", "=", "New-Object", "-ComObject", "WScript.Shell", ";", "$sc", "=",
        "$wsh.CreateShortcut", "(", "$scPath", ")", ";", "$sc.TargetPath", "="]),
    (wide "; $sc.Arguments = ", code [";", "$sc.Arguments", "="]),
    (wide "; $sc.IconLocation = ", code [";", "$sc.IconLocation", "="]),
    (wide "; $sc.Description = ", code [";", "$sc.Description", "="])]

def createEnd : Wide × List (Token UInt16) :=
  (wide "; $sc.Save()", code [";", "$sc.Save", "(", ")"])

/-- The code before the values of the commands that clear a flag. -/
def clearCode : List (Wide × List (Token UInt16)) :=
  [(wide "if (Test-Path -LiteralPath ", code ["if", "(", "Test-Path", "-LiteralPath"]),
    (wide ") \x7b Remove-Item -LiteralPath ", code [")", "\x7b", "Remove-Item", "-LiteralPath"])]

def clearEnd : Wide × List (Token UInt16) :=
  (wide " -Force \x7d", code ["-Force", "\x7d"])

/-- The code before the values of the commands that remove the shortcut. -/
def removeCode : List (Wide × List (Token UInt16)) :=
  [(clearEnd.1 ++ wide "; $smDir = Join-Path $env:ProgramData ",
      clearEnd.2 ++ code [";", "$smDir", "=", "Join-Path", "$env:ProgramData"]),
    (wide "; $scPath = Join-Path $smDir ", code [";", "$scPath", "=", "Join-Path", "$smDir"])]

def removeEnd : Wide × List (Token UInt16) :=
  (wide "; if (Test-Path -LiteralPath $scPath) \x7b Remove-Item -LiteralPath $scPath -Force \x7d",
    code [";", "if", "(", "Test-Path", "-LiteralPath", "$scPath", ")", "\x7b", "Remove-Item",
      "-LiteralPath", "$scPath", "-Force", "\x7d"])

theorem code_reads :
    ∀ piece ∈ setCode ++ createCode ++ clearCode ++ removeCode, Reads piece := by
  decide +kernel

theorem code_ends : ∀ piece ∈ [setEnd, createEnd, clearEnd, removeEnd], Ends piece := by
  decide +kernel

/-- Values after pieces of code, with their quotes doubled. -/
def quoted (pieces : List (Wide × List (Token UInt16))) (values : List Wide) :
    List (Segment UInt16) :=
  (pieces.zip values).map fun entry => ⟨entry.1.1, entry.1.2, entry.2, true⟩

/-- For values whose quotes are all doubled, the condition is on the values alone. -/
theorem lex_quoted_iff {pair : UInt16 → UInt16 → UInt16} (pairing : Pairing pair)
    {pieces : List (Wide × List (Token UInt16))} {values : List Wide}
    {last : Wide × List (Token UInt16)} (enough : values.length ≤ pieces.length)
    (reads : ∀ piece ∈ pieces, Reads piece) (ends : Ends last) :
    (lexicon pair).lex (Segment.render apostrophe (quoted pieces values) last.1) =
        some (Segment.tokens (quoted pieces values) last.2) ↔
      ∀ value ∈ values, Escapable value := by
  have sound : ∀ segment ∈ quoted pieces values, segment.Sound (lexicon pair) :=
    List.forall_mem_map.mpr fun entry zipped =>
      (reads entry.1 (List.of_mem_zip zipped).1).sound pair entry.2 true
  rw [lex_segments_iff pairing sound ends, quoted, List.forall_mem_map]
  simp only [clean_escaped]
  rw [← List.forall_mem_map (P := Escapable), List.map_snd_zip enough]

/-! ### The fixed values -/

theorem fixed_escapable : (Escapable smRelative ∧ Escapable (wide "\\WKOpenVR.exe") ∧
    Escapable (wide ",0")) ∧ ∀ entry ∈ shortcuts, Escapable (scFileName entry.2.1) ∧
      Escapable entry.2.2 ∧ Escapable (description entry.2.1) := by
  decide +kernel

theorem shortcut_escapable {flagFileName : Option Text} {label scArg : Wide}
    (entry : shortcutFor flagFileName = some (label, scArg)) :
    Escapable (scFileName label) ∧ Escapable scArg ∧ Escapable (description label) := by
  obtain ⟨name, _, found⟩ := Option.bind_eq_some_iff.mp entry
  obtain ⟨listed, search, same⟩ := Option.map_eq_some_iff.mp found
  have values := fixed_escapable.2 listed (List.mem_of_find?_eq_some search)
  rwa [same] at values

theorem parentOf_escapable {path : Wide} (escapable : Escapable path) :
    Escapable (parentOf path) := by
  intro character member
  refine escapable character ?_
  unfold parentOf at member
  split at member
  · exact List.mem_reverse.mp ((List.dropWhile_sublist _).subset
      (List.mem_of_mem_drop (List.mem_reverse.mp member)))
  · exact member

theorem exePath_escapable_iff (context : ShellContext) :
    Escapable context.exePath ↔ Escapable context.installDir := by
  rw [ShellContext.exePath, escapable_append]
  exact and_iff_left fixed_escapable.1.2.1

theorem icon_escapable_iff (context : ShellContext) :
    Escapable (context.exePath ++ wide ",0") ↔ Escapable context.installDir := by
  rw [escapable_append, exePath_escapable_iff]
  exact and_iff_left fixed_escapable.1.2.2

/-! ### Both directions -/

section Commands

variable {pair : UInt16 → UInt16 → UInt16} (pairing : Pairing pair)

include pairing

theorem lex_set_iff (path : Wide) :
    (lexicon pair).lex (wide "New-Item -ItemType Directory -Force -Path " ++
        quotePowerShellString (parentOf path) ++
        wide " | Out-Null; Set-Content -LiteralPath " ++ quotePowerShellString path ++
        wide " -Value enabled -NoNewline") =
      some (Segment.tokens (quoted setCode [parentOf path, path]) setEnd.2) ↔ Escapable path := by
  have reads : ∀ piece ∈ setCode, Reads piece := fun piece member =>
    code_reads piece (by simp only [List.mem_append, member, true_or])
  have scanned := @lex_quoted_iff _ pairing _ [parentOf path, path] _ (le_refl 2) reads
    (code_ends setEnd List.mem_cons_self)
  simp only [quoted, setCode, setEnd, List.zip_cons_cons, List.zip_nil_right, List.map_cons,
    List.map_nil, Segment.render, Segment.body, if_true, List.forall_mem_cons, List.not_mem_nil,
    false_imp_iff, implies_true, and_true] at scanned
  simp only [quoted, setCode, setEnd, List.zip_cons_cons, List.zip_nil_right, List.map_cons,
    List.map_nil, quotePowerShellString, List.append_assoc, List.cons_append,
    List.nil_append] at scanned ⊢
  exact scanned.trans (and_iff_right_of_imp parentOf_escapable)

theorem lex_create_iff (context : ShellContext) (path : Wide) {label scArg : Wide}
    (fixed : Escapable (scFileName label) ∧ Escapable scArg ∧ Escapable (description label)) :
    (lexicon pair).lex (wide "New-Item -ItemType Directory -Force -Path " ++
        quotePowerShellString (parentOf path) ++
        wide " | Out-Null; Set-Content -LiteralPath " ++ quotePowerShellString path ++
        wide " -Value enabled -NoNewline" ++ context.createShortcut label scArg) =
      some (Segment.tokens (quoted (setCode ++ createCode) [parentOf path, path, smRelative,
        scFileName label, context.exePath, scArg, context.exePath ++ wide ",0",
        description label]) createEnd.2) ↔
      Escapable path ∧ Escapable context.installDir := by
  have reads : ∀ piece ∈ setCode ++ createCode, Reads piece := fun piece member =>
    code_reads piece (List.mem_append_left _ (List.mem_append_left _ member))
  have scanned := @lex_quoted_iff _ pairing _ [parentOf path, path, smRelative,
    scFileName label, context.exePath, scArg, context.exePath ++ wide ",0", description label] _
    (le_refl 8) reads (code_ends createEnd (by simp))
  simp only [quoted, setCode, setEnd, createCode, createEnd, List.zip_cons_cons,
    List.zip_nil_right, List.map_cons, List.map_nil, List.cons_append, List.nil_append,
    Segment.render, Segment.body, if_true, List.forall_mem_cons, List.not_mem_nil, false_imp_iff,
    implies_true, and_true, exePath_escapable_iff, icon_escapable_iff, fixed, fixed_escapable.1,
    true_and] at scanned
  simp only [quoted, setCode, setEnd, createCode, createEnd, List.zip_cons_cons,
    List.zip_nil_right, List.map_cons, List.map_nil, ShellContext.createShortcut,
    quotePowerShellString, List.append_assoc, List.cons_append, List.nil_append] at scanned ⊢
  rw [scanned]
  constructor
  · rintro ⟨_, plainPath, plainDir, _⟩
    exact ⟨plainPath, plainDir⟩
  · rintro ⟨plainPath, plainDir⟩
    exact ⟨parentOf_escapable plainPath, plainPath, plainDir, plainDir⟩

theorem lex_clear_iff (path : Wide) :
    (lexicon pair).lex (wide "if (Test-Path -LiteralPath " ++ quotePowerShellString path ++
        wide ") \x7b Remove-Item -LiteralPath " ++ quotePowerShellString path ++
        wide " -Force \x7d") =
      some (Segment.tokens (quoted clearCode [path, path]) clearEnd.2) ↔ Escapable path := by
  have reads : ∀ piece ∈ clearCode, Reads piece := fun piece member =>
    code_reads piece (by simp only [List.mem_append, member, true_or, or_true])
  have scanned := @lex_quoted_iff _ pairing _ [path, path] _ (le_refl 2) reads
    (code_ends clearEnd (by simp))
  simp only [quoted, clearCode, clearEnd, List.zip_cons_cons, List.zip_nil_right, List.map_cons,
    List.map_nil, Segment.render, Segment.body, if_true, List.forall_mem_cons, List.not_mem_nil,
    false_imp_iff, implies_true, and_true, and_self] at scanned
  simpa only [quoted, clearCode, clearEnd, List.zip_cons_cons, List.zip_nil_right, List.map_cons,
    List.map_nil, quotePowerShellString, List.append_assoc, List.cons_append,
    List.nil_append] using scanned

theorem lex_remove_iff (path : Wide) {label : Wide} (fixed : Escapable (scFileName label)) :
    (lexicon pair).lex (wide "if (Test-Path -LiteralPath " ++ quotePowerShellString path ++
        wide ") \x7b Remove-Item -LiteralPath " ++ quotePowerShellString path ++
        wide " -Force \x7d" ++ removeShortcut label) =
      some (Segment.tokens (quoted (clearCode ++ removeCode) [path, path, smRelative,
        scFileName label]) removeEnd.2) ↔
      Escapable path := by
  have reads : ∀ piece ∈ clearCode ++ removeCode, Reads piece := fun piece member =>
    code_reads piece (by
      rcases List.mem_append.mp member with first | second
      · simp only [List.mem_append, first, or_true, true_or]
      · simp only [List.mem_append, second, or_true])
  have scanned := @lex_quoted_iff _ pairing _ [path, path, smRelative, scFileName label] _
    (le_refl 4) reads (code_ends removeEnd (by simp))
  simp only [quoted, clearCode, clearEnd, removeCode, removeEnd, List.zip_cons_cons,
    List.zip_nil_right, List.map_cons, List.map_nil, List.cons_append, List.nil_append,
    Segment.render, Segment.body, if_true, List.forall_mem_cons, List.not_mem_nil, false_imp_iff,
    implies_true, and_true, and_self, fixed, fixed_escapable.1] at scanned
  simpa only [quoted, clearCode, clearEnd, removeCode, removeEnd, List.zip_cons_cons,
    List.zip_nil_right, List.map_cons, List.map_nil, removeShortcut, quotePowerShellString,
    List.append_assoc, List.cons_append, List.nil_append] using scanned

theorem lex_setFlagPresent_iff (convert : Text → Wide) (context : ShellContext)
    (flagFileName : Option Text) (present : Bool) {command : Wide}
    (built : context.setFlagPresent convert flagFileName present = some command) :
    (lexicon pair).lex command = some (context.setFlagTokens convert flagFileName present) ↔
      Escapable (context.flagPath convert flagFileName) ∧
        (present = true → shortcutFor flagFileName ≠ none → Escapable context.installDir) := by
  unfold ShellContext.setFlagPresent at built
  unfold ShellContext.setFlagTokens
  generalize context.flagPath convert flagFileName = path at *
  dsimp only at built ⊢
  split at built
  · cases built
  cases present with
  | true =>
    obtain rfl := Option.some.inj built
    cases entry : shortcutFor flagFileName with
    | none =>
      simpa [Segment.tokens, quoted, setCode, setEnd] using lex_set_iff pairing path
    | some shortcut =>
      have scanned := lex_create_iff pairing context path (shortcut_escapable entry)
      simpa [Segment.tokens, quoted, setCode, setEnd, createCode, createEnd] using scanned
  | false =>
    obtain rfl := Option.some.inj built
    cases entry : shortcutFor flagFileName with
    | none =>
      simpa [Segment.tokens, quoted, clearCode, clearEnd] using lex_clear_iff pairing path
    | some shortcut =>
      have scanned := lex_remove_iff pairing path (shortcut_escapable entry).1
      simpa [Segment.tokens, quoted, clearCode, clearEnd, removeCode, removeEnd] using scanned

end Commands

/-- The call of the sync script is scanned as meant exactly if its path has no quote character and
no argument has one but the apostrophe; the commands for a flag file exactly if the path of the
file, and the install directory where it is used, have none but the apostrophe. -/
theorem powershell_quoting_iff {pair : UInt16 → UInt16 → UInt16} (pairing : Pairing pair)
    (convert : Text → Wide) :
    (∀ (script resultPath : Wide) (op : PendingOp),
      (lexicon pair).lex (psCmd convert script resultPath op) =
          some (launchInvocation convert script resultPath op).tokens ↔
        (∀ character ∈ script, isQuote character = false) ∧
          ∀ value ∈ launchValues convert resultPath op, Escapable value) ∧
    ∀ (context : ShellContext) (flagFileName : Option Text) (present : Bool) (command : Wide),
      context.setFlagPresent convert flagFileName present = some command →
      ((lexicon pair).lex command = some (context.setFlagTokens convert flagFileName present) ↔
        Escapable (context.flagPath convert flagFileName) ∧
          (present = true → shortcutFor flagFileName ≠ none → Escapable context.installDir)) :=
  ⟨fun script resultPath op => lex_psCmd_iff pairing convert script resultPath op,
    fun context flagFileName present _ built =>
      lex_setFlagPresent_iff pairing convert context flagFileName present built⟩

/-! ### Concrete texts -/

/-- Of two quote characters in a row the second one. -/
def second (_ last : UInt16) : UInt16 := last

theorem second_pairing : Pairing second where
  same := fun _ _ => rfl
  quote := fun _ _ _ isQuote => isQuote

/-- The conversion of ASCII and of sequences of three bytes. -/
def convertBasic : Text → Wide
  | lead :: middle :: last :: rest =>
    if 0xE0 ≤ lead ∧ lead < 0xF0 then
      ((lead.toUInt16 &&& 0x0F) <<< 12 ||| (middle.toUInt16 &&& 0x3F) <<< 6 |||
        (last.toUInt16 &&& 0x3F)) :: convertBasic rest
    else lead.toUInt16 :: convertBasic (middle :: last :: rest)
  | short => short.map UInt8.toUInt16

def scriptPath : Wide := wide "C:\\WKOpenVR\\resources\\face-module-sync.ps1"

def resultFile : Wide := wide "C:\\Temp\\fts1.tmp"

/-- A folder source whose label has an apostrophe. -/
def apostropheLabel : PendingOp where
  action := ascii "add"
  kind := ascii "folder"
  sourceData := ascii "\x7b\"label\":\"Bob's\"\x7d"
  sourceId := ascii "42"

theorem powershell_quoting_apostrophe :
    (lexicon second).lex (psCmd convertBasic scriptPath resultFile apostropheLabel) =
      some (launchInvocation convertBasic scriptPath resultFile apostropheLabel).tokens :=
  ((powershell_quoting_iff second_pairing convertBasic).1 scriptPath resultFile
    apostropheLabel).mpr ⟨by simpa [plain_iff] using (by decide +kernel : plain scriptPath = true),
      by decide +kernel⟩

/-- A label with U+2019: the string ends early, and what follows is a command of its own. -/
def quotedLabel : PendingOp where
  action := ascii "update"
  sourceData := ascii "Bob" ++ [0xE2, 0x80, 0x99] ++ ascii ";calc;" ++ [0xE2, 0x80, 0x99]

/-- An install directory with U+2019. -/
def quotedInstall : ShellContext where
  installDir := wide "D:\\Bob" ++ [0x2019] ++ wide "s VR"
  driverResourceDirs := [wide "C:\\resources"]

/-- A script below a directory with an apostrophe, a label with U+2019, and an install directory
with U+2019 are not scanned as they are meant. -/
theorem quoted_values_break_out :
    (lexicon second).lex (psCmd convertBasic (wide "C:\\O'Brien\\sync.ps1") resultFile
        ⟨ascii "remove", [], [], ascii "42"⟩) ≠
      some (launchInvocation convertBasic (wide "C:\\O'Brien\\sync.ps1") resultFile
        ⟨ascii "remove", [], [], ascii "42"⟩).tokens ∧
    (lexicon second).lex (psCmd convertBasic scriptPath resultFile quotedLabel) =
      some (code ["&"] ++ .verbatim scriptPath :: code ["-Action"] ++ .verbatim (wide "update") ::
        code ["-SourceData"] ++ .verbatim (wide "Bob") :: code [";", "calc", ";"] ++
        .verbatim [] :: code ["-ResultPath"] ++ [.verbatim resultFile]) ∧
    ∃ command, quotedInstall.setFlagPresent convertBasic
        (some (ascii "enable_captions.flag")) true = some command ∧
      (lexicon second).lex command ≠ some (quotedInstall.setFlagTokens convertBasic
        (some (ascii "enable_captions.flag")) true) := by
  refine ⟨by decide +kernel, by decide +kernel, ?_⟩
  have named : quotedInstall.setFlagPresent convertBasic
      (some (ascii "enable_captions.flag")) true ≠ none := by decide +kernel
  obtain ⟨command, built⟩ := Option.ne_none_iff_exists'.mp named
  refine ⟨command, built, fun scanned => ?_⟩
  have values := (lex_setFlagPresent_iff second_pairing convertBasic quotedInstall _ true built).mp
    scanned
  exact absurd (values.2 rfl (by decide +kernel)) (by decide +kernel)

end PairDriver.PowerShell
