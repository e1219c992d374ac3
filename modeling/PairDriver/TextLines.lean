/-
This file is a library about text files of lines, as the C runtime of the platform reads
and writes them: the translation of line ends, the lines a buffer of fixed size cuts
a text into, and the readers of numbers.

A text without the end-of-file character survives the translation. A line that fits the
buffer is read as one line; every line that is read stays within the buffer and
holds no line end but its last character.
-/

import PairDriver.Decimal

namespace PairDriver.TextLines

/-! ### Line ends -/

/-- The bytes of a text that is written in text mode. -/
def writeText (text : List UInt8) : List UInt8 :=
  text.flatMap fun character => if character = 10 then [13, 10] else [character]

/-- The text of the bytes that are read in text mode, up to the character `0x1A`. -/
def readText : List UInt8 → List UInt8
  | [] => []
  | byte :: rest =>
    if byte = 26 then []
    else if byte = 13 ∧ rest.head? = some 10 then readText rest
    else byte :: readText rest

theorem head?_writeText (text : List UInt8) : (writeText text).head? ≠ some 10 := by
  cases text with
  | nil => exact nofun
  | cons character rest =>
    by_cases lineEnd : character = 10
    · simp [writeText, lineEnd]
    · simp [writeText, lineEnd]

theorem readText_writeText (text : List UInt8) :
    readText (writeText text) = text.takeWhile (· ≠ 26) := by
  induction text with
  | nil => rfl
  | cons character rest inductionHypothesis =>
    have split : writeText (character :: rest) =
        (if character = 10 then [13, 10] else [character]) ++ writeText rest := rfl
    by_cases lineEnd : character = 10
    · rw [split, if_pos lineEnd, lineEnd, List.takeWhile_cons_of_pos (by decide),
        ← inductionHypothesis]
      simp [readText]
    · have kept : ¬(character = 13 ∧ (writeText rest).head? = some 10) :=
        fun returned => head?_writeText rest returned.2
      rw [split, if_neg lineEnd, List.singleton_append, readText, if_neg kept, inductionHypothesis]
      by_cases endOfFile : character = 26
      · rw [if_pos endOfFile, List.takeWhile_cons_of_neg (by simpa using endOfFile)]
      · rw [if_neg endOfFile, List.takeWhile_cons_of_pos (by simpa using endOfFile)]

theorem not_mem_readText (bytes : List UInt8) : 26 ∉ readText bytes := by
  induction bytes with
  | nil => exact List.not_mem_nil
  | cons byte rest inductionHypothesis =>
    rw [readText]
    split
    · exact List.not_mem_nil
    · next other =>
      split
      · exact inductionHypothesis
      · rw [List.mem_cons]
        exact not_or.mpr ⟨fun same => other same.symm, inductionHypothesis⟩

/-! ### Lines -/

/-- The lines of successive calls of `fgets` for up to `room` characters; `line` is what the
current call has read. -/
def readFrom (room : Nat) (line : List UInt8) : List UInt8 → List (List UInt8)
  | [] => if line = [] then [] else [line]
  | character :: rest =>
    if character = 10 ∨ room ≤ line.length + 1 then
      (line ++ [character]) :: readFrom room [] rest
    else readFrom room (line ++ [character]) rest

def readLines (room : Nat) (text : List UInt8) : List (List UInt8) :=
  readFrom room [] text

def joinLines (lines : List (List UInt8)) : List UInt8 :=
  lines.flatMap (· ++ [10])

section Lines

variable {room : Nat} {line body text : List UInt8}

theorem readFrom_append (plain : 10 ∉ body) (fits : line.length + body.length < room) :
    readFrom room line (body ++ text) = readFrom room (line ++ body) text := by
  induction body generalizing line with
  | nil => rw [List.nil_append, List.append_nil]
  | cons character rest inductionHypothesis =>
    rw [List.mem_cons, not_or] at plain
    rw [List.length_cons] at fits
    rw [List.cons_append, readFrom, if_neg (by
      rintro (lineEnd | full)
      · exact plain.1 lineEnd.symm
      · omega)]
    rw [inductionHypothesis plain.2 (by rw [List.length_append, List.length_singleton]; omega),
      List.append_assoc, List.singleton_append]

/-- A line that leaves room for its line end is read with it. -/
theorem readLines_line (plain : 10 ∉ body) (fits : body.length < room) :
    readLines room (body ++ 10 :: text) = (body ++ [10]) :: readLines room text := by
  rw [readLines, readFrom_append plain (by simpa using fits), List.nil_append, readFrom,
    if_pos (.inl rfl)]
  rfl

/-- A line that takes all the room is read without its line end, which is a line of its own. -/
theorem readLines_fullLine (plain : 10 ∉ body) (full : body.length = room) (nonempty : body ≠ []) :
    readLines room (body ++ 10 :: text) = body :: [10] :: readLines room text := by
  obtain ⟨init, last, rfl⟩ := body.eq_nil_or_concat.resolve_left nonempty
  rw [List.concat_eq_append] at *
  rw [List.length_append, List.length_singleton] at full
  rw [readLines, List.append_assoc, List.singleton_append,
    readFrom_append (fun member => plain (List.mem_append_left _ member)) (by simp; omega),
    List.nil_append, readFrom, if_pos (.inr full.ge), readFrom, if_pos (.inl rfl)]
  rfl

theorem not_mem_concat {character : UInt8} (plain : 10 ∉ line) (other : character ≠ 10) :
    10 ∉ line ++ [character] := by
  rw [List.mem_append, List.mem_singleton]
  exact not_or.mpr ⟨plain, other.symm⟩

theorem mem_or_mem_of_mem_concat {character other : UInt8}
    (member : other ∈ line ++ [character]) : other ∈ line ∨ other ∈ character :: text := by
  obtain inLine | last := List.mem_append.mp member
  · exact .inl inLine
  · exact .inr (List.mem_singleton.mp last ▸ List.mem_cons_self)

/-- A line is up to `room` characters that are no line ends, and perhaps a line end. -/
theorem exists_of_mem_readFrom {chunk : List UInt8} (plain : 10 ∉ line)
    (fits : line.length < room) (member : chunk ∈ readFrom room line text) :
    ∃ body, (chunk = body ∨ chunk = body ++ [10]) ∧ 10 ∉ body ∧ body.length ≤ room ∧
      ∀ character ∈ body, character ∈ line ∨ character ∈ text := by
  induction text generalizing line with
  | nil =>
    rw [readFrom] at member
    split at member
    · exact absurd member List.not_mem_nil
    · exact ⟨line, .inl (List.mem_singleton.mp member), plain, fits.le, fun _ => .inl⟩
  | cons character rest inductionHypothesis =>
    rw [readFrom] at member
    split at member
    · obtain same | later := List.mem_cons.mp member
      · by_cases lineEnd : character = 10
        · exact ⟨line, .inr (lineEnd ▸ same), plain, fits.le, fun _ => .inl⟩
        · refine ⟨line ++ [character], .inl same, not_mem_concat plain lineEnd, ?_,
            fun _ => mem_or_mem_of_mem_concat⟩
          rw [List.length_append, List.length_singleton]
          exact fits
      · obtain ⟨body, shape, noEnd, short, source⟩ :=
          inductionHypothesis List.not_mem_nil (Nat.zero_lt_of_lt fits) later
        exact ⟨body, shape, noEnd, short, fun other inBody =>
          .inr (List.mem_cons_of_mem _ ((source other inBody).resolve_left List.not_mem_nil))⟩
    · next go =>
      obtain ⟨noEnd, space⟩ := not_or.mp go
      have longer : (line ++ [character]).length < room := by
        rw [List.length_append, List.length_singleton]
        exact not_le.mp space
      obtain ⟨body, shape, plainBody, short, source⟩ :=
        inductionHypothesis (not_mem_concat plain noEnd) longer member
      exact ⟨body, shape, plainBody, short, fun other inBody =>
        (source other inBody).elim mem_or_mem_of_mem_concat
          fun inRest => .inr (List.mem_cons_of_mem _ inRest)⟩

/-- Lines that fit are folded as they were written, if the fold passes over line ends. -/
theorem foldl_readLines {State : Type} {step : State → List UInt8 → State}
    (blank : ∀ state, step state [10] = state)
    (ended : ∀ state line, step state (line ++ [10]) = step state line)
    {lines : List (List UInt8)}
    (fits : ∀ line ∈ lines, (10 ∉ line ∧ line ≠ []) ∧ line.length ≤ room) (start : State) :
    (readLines room (joinLines lines)).foldl step start = lines.foldl step start := by
  induction lines generalizing start with
  | nil => rfl
  | cons line rest inductionHypothesis =>
    rw [List.forall_mem_cons] at fits
    obtain ⟨⟨⟨plain, nonempty⟩, short⟩, others⟩ := fits
    have joined : joinLines (line :: rest) = line ++ 10 :: joinLines rest := by
      simp [joinLines]
    rw [joined, List.foldl_cons]
    obtain spare | full := short.lt_or_eq
    · rw [readLines_line plain spare, List.foldl_cons, ended, inductionHypothesis others]
    · rw [readLines_fullLine plain full nonempty, List.foldl_cons, List.foldl_cons, blank,
        inductionHypothesis others]

end Lines

/-! ### Keys and values -/

def isLineEnd (character : UInt8) : Bool :=
  character = 10 || character = 13

/-- The C string of a line without its line end. -/
def stripLine (line : List UInt8) : List UInt8 :=
  (cString line).rdropWhile isLineEnd

/-- The texts before and after the first `=`. -/
def splitKey (line : List UInt8) : Option (List UInt8 × List UInt8) :=
  if 61 ∈ line then some (line.takeWhile (· ≠ 61), (line.dropWhile (· ≠ 61)).tail) else none

section Keys

variable {line body key value : List UInt8}

theorem cString_append_of_mem (ends : 0 ∈ body) (rest : List UInt8) :
    cString (body ++ rest) = cString body := by
  obtain ⟨before, after, rfl, plain⟩ := List.eq_append_cons_of_mem ends
  rw [List.append_assoc, List.cons_append, cString_append _ _ plain, cString_append _ _ plain]

theorem stripLine_concat (body : List UInt8) : stripLine (body ++ [10]) = stripLine body := by
  by_cases ends : 0 ∈ body
  · rw [stripLine, cString_append_of_mem ends, stripLine]
  · rw [stripLine, cString_plain_append _ _ ends, stripLine, cString_plain _ ends]
    exact List.rdropWhile_concat_pos _ _ _ rfl

theorem stripLine_sublist (line : List UInt8) : (stripLine line).Sublist line :=
  (List.rdropWhile_prefix _ _).sublist.trans (List.takeWhile_sublist _)

/-- A line without a NUL that ends in a digit stays as it is. -/
theorem stripLine_of_digit (plain : 0 ∉ line) {digit : UInt8} (last : isDigit digit = true) :
    stripLine (line ++ [digit]) = line ++ [digit] := by
  obtain ⟨least, -⟩ := isDigit_range last
  have noNul : 0 ∉ line ++ [digit] := by
    rw [List.mem_append, List.mem_singleton]
    rintro (inLine | rfl)
    · exact plain inLine
    · exact absurd least (by decide)
  rw [stripLine, cString_plain _ noNul]
  refine List.rdropWhile_concat_neg _ _ _ fun lineEnd => ?_
  obtain rfl | rfl := by simpa [isLineEnd] using lineEnd
  · exact absurd least (by decide)
  · exact absurd least (by decide)

theorem splitKey_append (plain : 61 ∉ key) :
    splitKey (key ++ 61 :: value) = some (key, value) := by
  have others : ∀ character ∈ key, decide (character ≠ 61) = true :=
    fun character member => decide_eq_true fun same => plain (same ▸ member)
  rw [splitKey, if_pos (List.mem_append_right _ List.mem_cons_self),
    List.takeWhile_append_of_pos others, List.dropWhile_append_of_pos others,
    List.takeWhile_cons_of_neg (by decide), List.dropWhile_cons_of_neg (by decide),
    List.append_nil, List.tail_cons]

theorem splitKey_eq_some (split : splitKey line = some (key, value)) :
    line = key ++ 61 :: value ∧ 61 ∉ key := by
  rw [splitKey] at split
  split at split
  · next contains =>
    obtain ⟨before, after, rfl, plain⟩ := List.eq_append_cons_of_mem contains
    have parts : splitKey (before ++ 61 :: after) = some (before, after) := splitKey_append plain
    rw [splitKey, if_pos contains, split] at parts
    obtain ⟨rfl, rfl⟩ := Prod.mk.inj (Option.some.inj parts)
    exact ⟨rfl, plain⟩
  · exact absurd split nofun

end Keys

/-! ### Numbers -/

/-- `%d`. -/
def formatInt (value : Int) : List UInt8 :=
  if value < 0 then 45 :: decimalText value.natAbs else decimalText value.natAbs

/-- `atoi`, which stops at the ends of the range of an `int`. -/
def atoi (text : List UInt8) : Int :=
  let signed := splitSign (text.dropWhile isSpace)
  let magnitude : Int := digitsValue (signed.2.takeWhile isDigit)
  let value := if signed.1 then -magnitude else magnitude
  if value < -2 ^ 31 then -2 ^ 31 else if 2 ^ 31 ≤ value then 2 ^ 31 - 1 else value

/-- The digit of a base that a character stands for. -/
def baseDigit (base : Nat) (character : UInt8) : Option Nat :=
  let digit :=
    if isDigit character then character.toNat - 48
    else if 97 ≤ character ∧ character ≤ 122 then character.toNat - 97 + 10
    else if 65 ≤ character ∧ character ≤ 90 then character.toNat - 65 + 10
    else base
  if digit < base then some digit else none

/-- The number of the longest run of digits of a base. -/
def readBase (base : Nat) (text : List UInt8) : Nat :=
  (text.takeWhile fun character => (baseDigit base character).isSome).foldl
    (fun value character => base * value + (baseDigit base character).getD 0) 0

/-- `strtoul` with the base the text chooses, for an `unsigned long` of 32 bits. -/
def strtoul (text : List UInt8) : Nat :=
  let signed := splitSign (text.dropWhile isSpace)
  let magnitude :=
    match signed.2 with
    | 48 :: letter :: rest =>
      if letter = 120 ∨ letter = 88 then readBase 16 rest else readBase 8 (letter :: rest)
    | digits => readBase 10 digits
  if 2 ^ 32 ≤ magnitude then 2 ^ 32 - 1
  else if signed.1 then (2 ^ 32 - magnitude) % 2 ^ 32 else magnitude

/-! ### Reading what was written -/

theorem formatInt_of_nonneg {value : Int} (nonneg : 0 ≤ value) :
    formatInt value = decimalText value.toNat := by
  have same : value.natAbs = value.toNat := by omega
  rw [formatInt, if_neg (not_lt.mpr nonneg), same]

theorem atoi_decimalText {value : Nat} (fits : value < 2 ^ 31) :
    atoi (decimalText value) = value := by
  simp only [atoi, splitSign_decimalText, takeWhile_decimalText, digitsValue_decimalText,
    Bool.false_eq_true, if_false]
  rw [if_neg (by omega), if_neg (by omega)]

theorem foldl_digits_lt {digits : List UInt8} (allDigits : ∀ digit ∈ digits, isDigit digit = true)
    (start : Nat) :
    digits.foldl (fun value digit => 10 * value + (digit.toNat - 48)) start <
      (start + 1) * 10 ^ digits.length := by
  induction digits generalizing start with
  | nil => simp
  | cons digit rest inductionHypothesis =>
    rw [List.forall_mem_cons] at allDigits
    have range := isDigit_range allDigits.1
    have step : 10 * start + (digit.toNat - 48) + 1 ≤ (start + 1) * 10 := by omega
    rw [List.foldl_cons, List.length_cons, pow_succ']
    exact (inductionHypothesis allDigits.2 _).trans_le
      ((Nat.mul_le_mul_right _ step).trans_eq (Nat.mul_assoc _ _ _))

theorem splitSign_sublist (text : List UInt8) : (splitSign text).2.Sublist text := by
  cases text with
  | nil => exact .slnil
  | cons character rest =>
    rw [splitSign]
    split
    · exact List.sublist_cons_self _ _
    · split
      · exact List.sublist_cons_self _ _
      · exact .refl _

/-- A text of so many characters spells a number of at most so many digits. -/
theorem atoi_lt (text : List UInt8) : atoi text < 10 ^ text.length := by
  set digits := (splitSign (text.dropWhile isSpace)).2.takeWhile isDigit with digitsOf
  have shorter : digits.length ≤ text.length :=
    ((List.takeWhile_sublist _).trans
      ((splitSign_sublist _).trans (List.dropWhile_sublist _))).length_le
  have small : digitsValue digits < 10 ^ text.length := by
    have bound : digitsValue digits < (0 + 1) * 10 ^ digits.length :=
      foldl_digits_lt (fun _ => List.mem_takeWhile_imp) 0
    rw [Nat.zero_add, Nat.one_mul] at bound
    exact bound.trans_le (Nat.pow_le_pow_right (by decide) shorter)
  have whole : (digitsValue digits : Int) < 10 ^ text.length := by exact_mod_cast small
  have positive : (0 : Int) < 10 ^ text.length := by positivity
  simp only [atoi, ← digitsOf]
  split <;> split <;> (try split) <;> omega

theorem length_decimalText_le {value size : Nat} (room : 0 < size) (small : value < 10 ^ size) :
    (decimalText value).length ≤ size := by
  rw [decimalText]
  split
  · exact room
  · rw [List.length_map, List.length_reverse]
    exact (Nat.digits_length_le_iff (by decide) value).mpr small

/-- The first digit of a number that is not zero is not zero. -/
theorem decimalText_eq_cons {value : Nat} (positive : 0 < value) :
    ∃ digit rest, decimalText value = digit :: rest ∧ digit ≠ 48 := by
  have nonempty : Nat.digits 10 value ≠ [] := Nat.digits_ne_nil_iff_ne_zero.mpr positive.ne'
  have last := Nat.getLast_digit_ne_zero 10 positive.ne'
  have small := Nat.digits_lt_base (by decide) (List.getLast_mem nonempty)
  refine ⟨UInt8.ofNat (48 + (Nat.digits 10 value).getLast nonempty),
    (Nat.digits 10 value).dropLast.reverse.map fun digit => UInt8.ofNat (48 + digit), ?_, ?_⟩
  · conv_lhs => rw [decimalText, if_neg positive.ne', ← List.dropLast_concat_getLast nonempty]
    rw [List.reverse_append, List.reverse_singleton, List.singleton_append, List.map_cons]
  · intro same
    have written := digit_toNat small
    rw [same] at written
    exact last (Nat.add_left_cancel written).symm

theorem baseDigit_ten {character : UInt8} (digit : isDigit character = true) :
    baseDigit 10 character = some (character.toNat - 48) := by
  obtain ⟨least, most⟩ := isDigit_range digit
  rw [baseDigit, if_pos digit]
  exact if_pos (by omega)

theorem readBase_ten {digits : List UInt8} (allDigits : ∀ digit ∈ digits, isDigit digit = true) :
    readBase 10 digits = digitsValue digits := by
  have taken : (digits.takeWhile fun character => (baseDigit 10 character).isSome) = digits :=
    List.takeWhile_eq_self_iff.mpr fun digit member => by
      rw [baseDigit_ten (allDigits digit member)]
      rfl
  rw [readBase, taken, digitsValue]
  refine List.foldl_ext _ _ _ fun value digit member => ?_
  rw [baseDigit_ten (allDigits digit member), Option.getD_some]

/-- A number is read back from its digits, whatever base they might suggest. -/
theorem strtoul_decimalText {value : Nat} (fits : value < 2 ^ 32) :
    strtoul (decimalText value) = value := by
  obtain rfl | positive := Nat.eq_zero_or_pos value
  · decide
  · obtain ⟨digit, rest, written, leading⟩ := decimalText_eq_cons positive
    have read := readBase_ten (decimalText_isDigit value)
    rw [digitsValue_decimalText, written] at read
    rw [strtoul, splitSign_decimalText, written]
    split
    · next same => exact absurd (List.cons.inj same).1 leading
    · rw [read, if_neg (by omega), if_neg Bool.false_ne_true]

end PairDriver.TextLines
