/-
This file models how the captions overlay quotes the arguments of the command
that installs or removes a pack. Backslashes are counted and written once it is
known what follows them: twice and one more before a quote, twice at the end, and
as they are elsewhere.

The count is a machine word. The content here is that the split of a quoted line
gives back every argument with each run of backslashes reduced by the word, so it
gives back the arguments exactly if no run is too long for it.
-/

import PairDriver.ArgumentLine
import PairDriver.PowerShellQuoting

namespace PairDriver.CaptionsCommand

open PowerShell (Wide wide)

/-! ### Quoting -/

def quote : UInt16 := 0x22

def backslash : UInt16 := 0x5C

def space : UInt16 := 0x20

/-- What is written so far, and the backslashes that are not written yet. -/
structure Quoting where
  out : Wide
  backslashes : UInt32

/-- `out.append(count, L'\\')`. -/
def appendBackslashes (out : Wide) (count : UInt32) : Wide :=
  out ++ List.replicate count.toNat backslash

/-- The loop body of `QuoteArg`. -/
def quoteNext (quoting : Quoting) (ch : UInt16) : Quoting :=
  if ch = backslash then { quoting with backslashes := quoting.backslashes + 1 }
  else if ch = quote then
    { out := appendBackslashes quoting.out (quoting.backslashes * 2 + 1) ++ [ch], backslashes := 0 }
  else if quoting.backslashes ≠ 0 then
    { out := appendBackslashes quoting.out quoting.backslashes ++ [ch], backslashes := 0 }
  else { quoting with out := quoting.out ++ [ch] }

/-- The end of `QuoteArg`. -/
def quoteEnd (quoting : Quoting) : Wide :=
  if quoting.backslashes ≠ 0 then
    appendBackslashes quoting.out (quoting.backslashes * 2) ++ [quote]
  else quoting.out ++ [quote]

/-- `QuoteArg`. -/
def quoteArg (value : Wide) : Wide := quoteEnd (value.foldl quoteNext ⟨[quote], 0⟩)

/-- The line of the quoted arguments. -/
def joinArgs (arguments : List Wide) : Wide :=
  List.intercalate [space] (arguments.map quoteArg)

/-- The characters of a Windows command line. -/
def lineRule : LineRule UInt16 where
  quote := quote
  backslash := backslash
  isBlank character := [space, 0x09].contains character
  quote_ne_backslash := by decide
  quote_not_blank := by decide
  backslash_not_blank := by decide

/-! ### What is read back -/

/-- The argument that is read back, where so many backslashes come before the text. -/
def readBack (count : Nat) : Wide → Wide
  | [] => List.replicate (count % 2 ^ 31) backslash
  | ch :: rest =>
    if ch = backslash then readBack (count + 1) rest
    else if ch = quote then
      List.replicate (count % 2 ^ 31) backslash ++ ch :: readBack 0 rest
    else List.replicate (count % 2 ^ 32) backslash ++ ch :: readBack 0 rest

/-- Every run of backslashes before a quote or the end is shorter than 2^31, and every other
shorter than 2^32, where so many backslashes come before the text. -/
def RunsFit (count : Nat) : Wide → Prop
  | [] => count < 2 ^ 31
  | ch :: rest =>
    if ch = backslash then RunsFit (count + 1) rest
    else if ch = quote then count < 2 ^ 31 ∧ RunsFit 0 rest
    else count < 2 ^ 32 ∧ RunsFit 0 rest

theorem readBack_length_le (count : Nat) (value : Wide) :
    (readBack count value).length ≤ count + value.length := by
  induction value generalizing count with
  | nil =>
    rw [readBack, List.length_replicate]
    exact Nat.mod_le count _
  | cons ch rest inductionHypothesis =>
    unfold readBack
    have after := inductionHypothesis 0
    split
    · have onward := inductionHypothesis (count + 1)
      rw [List.length_cons]
      omega
    · split
      · have reduced := Nat.mod_le count (2 ^ 31)
        rw [List.length_append, List.length_replicate, List.length_cons, List.length_cons]
        omega
      · have reduced := Nat.mod_le count (2 ^ 32)
        rw [List.length_append, List.length_replicate, List.length_cons, List.length_cons]
        omega

/-- A reduced run and a text that is not longer give back a run and a text only as they are. -/
theorem replicate_append_eq_iff {count bound : Nat} (positive : 0 < bound) {ch : UInt16}
    {after rest : Wide} (shorter : after.length ≤ rest.length) :
    List.replicate (count % bound) backslash ++ ch :: after =
        List.replicate count backslash ++ ch :: rest ↔
      count < bound ∧ after = rest := by
  constructor
  · intro same
    have lengths := congrArg List.length same
    rw [List.length_append, List.length_append, List.length_replicate, List.length_replicate,
      List.length_cons, List.length_cons] at lengths
    have reduced := Nat.mod_le count bound
    have whole : count % bound = count := by omega
    rw [whole, List.append_cancel_left_eq, List.cons_eq_cons] at same
    exact ⟨whole ▸ Nat.mod_lt count positive, same.2⟩
  · rintro ⟨fits, rfl⟩
    rw [Nat.mod_eq_of_lt fits]

/-- A text is read back as it is exactly if its runs of backslashes fit. -/
theorem readBack_eq_iff (count : Nat) (value : Wide) :
    readBack count value = List.replicate count backslash ++ value ↔ RunsFit count value := by
  induction value generalizing count with
  | nil =>
    rw [readBack, RunsFit, List.append_nil, List.replicate_inj]
    constructor
    · rintro ⟨whole, -⟩
      exact whole ▸ Nat.mod_lt count (by decide)
    · intro fits
      exact ⟨Nat.mod_eq_of_lt fits, Or.inr rfl⟩
  | cons ch rest inductionHypothesis =>
    have after : (readBack 0 rest).length ≤ rest.length := by
      have bounded := readBack_length_le 0 rest
      rwa [Nat.zero_add] at bounded
    have onward : readBack 0 rest = rest ↔ RunsFit 0 rest := inductionHypothesis 0
    unfold readBack RunsFit
    split
    · next same =>
      rw [same, ← inductionHypothesis (count + 1), List.replicate_succ', List.append_assoc]
      rfl
    · split
      · rw [replicate_append_eq_iff (by decide) after, onward]
      · rw [replicate_append_eq_iff (by decide) after, onward]

theorem readBack_self_iff (value : Wide) : readBack 0 value = value ↔ RunsFit 0 value :=
  readBack_eq_iff 0 value

/-! ### The round trip -/

theorem appendBackslashes_zero (out : Wide) : appendBackslashes out 0 = out :=
  List.append_nil out

theorem quoteNext_backslash (quoting : Quoting) :
    quoteNext quoting backslash = { quoting with backslashes := quoting.backslashes + 1 } :=
  if_pos rfl

theorem quoteNext_quote (quoting : Quoting) :
    quoteNext quoting quote =
      ⟨appendBackslashes quoting.out (quoting.backslashes * 2 + 1) ++ [quote], 0⟩ := by
  rw [quoteNext, if_neg (by decide), if_pos rfl]

theorem quoteNext_other (quoting : Quoting) {ch : UInt16} (other : ch ≠ backslash)
    (unquote : ch ≠ quote) :
    quoteNext quoting ch = ⟨appendBackslashes quoting.out quoting.backslashes ++ [ch], 0⟩ := by
  rw [quoteNext, if_neg other, if_neg unquote]
  split
  · rfl
  · next none =>
    have zero : quoting.backslashes = 0 := not_not.mp none
    rw [zero, appendBackslashes_zero]

theorem quoteEnd_eq (quoting : Quoting) :
    quoteEnd quoting = appendBackslashes quoting.out (quoting.backslashes * 2) ++ [quote] := by
  rw [quoteEnd]
  split
  · rfl
  · next none =>
    have zero : quoting.backslashes = 0 := not_not.mp none
    rw [zero, UInt32.zero_mul, appendBackslashes_zero]

/-- The word is the number of backslashes, reduced. -/
def Counts (backslashes : UInt32) (count : Nat) : Prop :=
  backslashes.toNat = count % 2 ^ 32

theorem counts_zero : Counts 0 0 := by
  unfold Counts
  decide

theorem Counts.succ {backslashes : UInt32} {count : Nat} (counts : Counts backslashes count) :
    Counts (backslashes + 1) (count + 1) := by
  unfold Counts at *
  rw [UInt32.toNat_add, counts, UInt32.toNat_one]
  omega

theorem Counts.double {backslashes : UInt32} {count : Nat} (counts : Counts backslashes count) :
    (backslashes * 2).toNat = 2 * (count % 2 ^ 31) := by
  unfold Counts at counts
  rw [UInt32.toNat_mul, counts]
  show count % 2 ^ 32 * 2 % 2 ^ 32 = _
  omega

theorem Counts.double_succ {backslashes : UInt32} {count : Nat}
    (counts : Counts backslashes count) :
    (backslashes * 2 + 1).toNat = 2 * (count % 2 ^ 31) + 1 := by
  rw [UInt32.toNat_add, counts.double, UInt32.toNat_one]
  omega

/-- What is written so far reads as the start of an argument in quotes. -/
def Opens (out text : Wide) : Prop :=
  ∀ arguments, lineRule.read { arguments } out = ⟨arguments, some text, 0, true⟩

theorem Opens.read {out text : Wide} (opens : Opens out text) {more longer : Wide} {quoted : Bool}
    (onward : ∀ arguments, lineRule.read ⟨arguments, some text, 0, true⟩ more =
      ⟨arguments, some longer, 0, quoted⟩) (arguments : List Wide) :
    lineRule.read { arguments } (out ++ more) = ⟨arguments, some longer, 0, quoted⟩ := by
  rw [LineRule.read_append, opens arguments, onward arguments]

theorem quoting_reads (value : Wide) {out text : Wide} {backslashes : UInt32} {count : Nat}
    (opens : Opens out text) (counts : Counts backslashes count) :
    lineRule.Reads (quoteEnd (value.foldl quoteNext ⟨out, backslashes⟩))
      (text ++ readBack count value) := by
  induction value generalizing out text backslashes count with
  | nil =>
    rw [List.foldl_nil, quoteEnd_eq, appendBackslashes, counts.double, List.append_assoc]
    exact opens.read fun arguments => lineRule.read_delimiter arguments text _ true
  | cons ch rest inductionHypothesis =>
    rw [List.foldl_cons, readBack]
    split
    · next same =>
      rw [same, quoteNext_backslash]
      exact inductionHypothesis opens counts.succ
    · next other =>
      split
      · next same =>
        rw [same, quoteNext_quote, appendBackslashes, counts.double_succ, List.append_assoc,
          ← List.append_assoc text, List.append_cons (text ++ _)]
        exact inductionHypothesis (opens.read fun arguments =>
          lineRule.read_quote arguments text _ true) counts_zero
      · next unquote =>
        rw [quoteNext_other _ other unquote, appendBackslashes, counts, List.append_assoc,
          ← List.append_assoc text, List.append_cons (text ++ _)]
        exact inductionHypothesis (opens.read fun arguments =>
          lineRule.read_literal arguments text _ other unquote (Bool.and_false _)) counts_zero

theorem quoteArg_reads (value : Wide) : lineRule.Reads (quoteArg value) (readBack 0 value) :=
  quoting_reads value lineRule.read_open counts_zero

theorem split_joinArgs (arguments : List Wide) :
    lineRule.split (joinArgs arguments) = arguments.map (readBack 0) := by
  refine lineRule.split_intercalate (by decide) ?_
  rw [List.forall₂_map_left_iff, List.forall₂_map_right_iff]
  exact List.forall₂_same.mpr fun value _ => quoteArg_reads value

theorem runsFit_replicate (run count : Nat) (rest : Wide) :
    RunsFit count (List.replicate run backslash ++ rest) ↔ RunsFit (count + run) rest := by
  induction run generalizing count with
  | zero => rfl
  | succ run inductionHypothesis =>
    rw [List.replicate_succ, List.cons_append, RunsFit, if_pos rfl, inductionHypothesis,
      Nat.add_right_comm, Nat.add_assoc]

theorem runsFit_quote (count : Nat) (rest : Wide) :
    RunsFit count (quote :: rest) ↔ count < 2 ^ 31 ∧ RunsFit 0 rest := by
  conv_lhs => unfold RunsFit
  rw [if_neg (by decide), if_pos rfl]

/-- Backslashes whose double does not fit the word, before a quote. -/
def overlongRun : Wide := List.replicate (2 ^ 31) backslash ++ [quote]

theorem overlongRun_unfit : ¬RunsFit 0 overlongRun := by
  rw [overlongRun, runsFit_replicate, runsFit_quote]
  rintro ⟨short, -⟩
  omega

/-- The command line of `StartPackAction`. -/
def packCommand (packScriptPath packId packManifestPath : Wide) (uninstall : Bool) : Wide :=
  wide "powershell.exe -NoProfile -ExecutionPolicy Bypass -File " ++ quoteArg packScriptPath ++
    wide " -PackId " ++ quoteArg packId ++ wide " -Manifest " ++ quoteArg packManifestPath ++
    if uninstall then wide " -Uninstall" else []

/-- A word that needs no quotes. -/
def isPlainWord (word : Wide) : Bool :=
  !word.isEmpty && word.all fun character =>
    character != backslash && character != quote && !lineRule.isBlank character

theorem reads_word {word : Wide} (plain : isPlainWord word = true) : lineRule.Reads word word := by
  rw [isPlainWord, Bool.and_eq_true, List.all_eq_true] at plain
  refine lineRule.reads_plain (fun empty => ?_) fun character member => ?_
  · rw [empty] at plain
    exact absurd plain.1 (by decide)
  · have kind := plain.2 character member
    simp only [Bool.and_eq_true, bne_iff_ne, ne_eq, Bool.not_eq_true'] at kind
    exact ⟨kind.1.1, kind.1.2, kind.2⟩

/-- The words before the script, and the one that asks for an uninstall. -/
def commandWords : List Wide :=
  ["powershell.exe", "-NoProfile", "-ExecutionPolicy", "Bypass", "-File"].map wide

def uninstallWords (uninstall : Bool) : List Wide :=
  if uninstall then [wide "-Uninstall"] else []

theorem packCommand_eq (packScriptPath packId packManifestPath : Wide) (uninstall : Bool) :
    packCommand packScriptPath packId packManifestPath uninstall =
      List.intercalate [space] (commandWords ++ ([quoteArg packScriptPath, wide "-PackId",
        quoteArg packId, wide "-Manifest", quoteArg packManifestPath] ++
          uninstallWords uninstall)) := by
  have start : wide "powershell.exe -NoProfile -ExecutionPolicy Bypass -File " =
      List.intercalate [space] commandWords ++ [space] := by decide +kernel
  have packId' : wide " -PackId " = [space] ++ wide "-PackId" ++ [space] := by decide +kernel
  have manifest' : wide " -Manifest " = [space] ++ wide "-Manifest" ++ [space] := by
    decide +kernel
  have uninstall' : wide " -Uninstall" = [space] ++ wide "-Uninstall" := by decide +kernel
  rw [packCommand, start, packId', manifest', uninstall']
  cases uninstall with
  | true => simp [uninstallWords, commandWords]
  | false => simp [uninstallWords, commandWords]

/-- PowerShell gets the script, the pack and the manifest as they are. -/
theorem packCommand_split {packScriptPath packId packManifestPath : Wide} (uninstall : Bool)
    (scriptFits : RunsFit 0 packScriptPath) (idFits : RunsFit 0 packId)
    (manifestFits : RunsFit 0 packManifestPath) :
    lineRule.split (packCommand packScriptPath packId packManifestPath uninstall) =
      commandWords ++ ([packScriptPath, wide "-PackId", packId, wide "-Manifest",
        packManifestPath] ++ uninstallWords uninstall) := by
  have quoted : ∀ {value}, RunsFit 0 value → lineRule.Reads (quoteArg value) value := by
    intro value fits
    have reads := quoteArg_reads value
    rwa [(readBack_self_iff value).mpr fits] at reads
  have plainWords : ∀ {words : List Wide}, words.all isPlainWord = true →
      List.Forall₂ lineRule.Reads words words := fun plain =>
    List.forall₂_same.mpr fun word member => reads_word (List.all_eq_true.mp plain word member)
  rw [packCommand_eq]
  refine lineRule.split_intercalate (by decide)
    (List.rel_append (plainWords (by decide +kernel)) (List.rel_append ?_ (plainWords ?_)))
  · exact .cons (quoted scriptFits) (.cons (reads_word (by decide +kernel)) (.cons (quoted idFits)
      (.cons (reads_word (by decide +kernel)) (.cons (quoted manifestFits) .nil))))
  · cases uninstall with
    | true => decide +kernel
    | false => rfl

theorem packCommand_split_blank :
    lineRule.split (packCommand (wide "C:\\App 1\\pack.ps1") (wide "en") (wide "C:\\p\\") true) =
      commandWords ++ ([wide "C:\\App 1\\pack.ps1", wide "-PackId", wide "en",
        wide "-Manifest", wide "C:\\p\\"] ++ uninstallWords true) :=
  packCommand_split true ((readBack_self_iff _).mp (by decide +kernel))
    ((readBack_self_iff _).mp (by decide +kernel)) ((readBack_self_iff _).mp (by decide +kernel))

end PairDriver.CaptionsCommand
