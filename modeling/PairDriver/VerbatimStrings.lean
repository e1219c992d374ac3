/-
This file develops verbatim strings in command texts: strings that open and
close with a quote character, inside of which two quote characters in a row
stand for one and every other character is literal.

The scanner knows a whole class of quote characters and the writer doubles only
one of them. The content here is when a text that is put together from fixed
code and quoted values is scanned as intended: exactly if every value has no
quote character its writer did not double. A value that has one is scanned as
another value, whatever follows it, because the scanner counts quote characters
in pairs and the code after a value starts with none.
-/

import Mathlib

namespace PairDriver

universe u

variable {α : Type u}

/-! ### The scanner -/

/-- A token of a command text. -/
inductive Token (α : Type u) where
  | word (text : List α)
  | mark (character : α)
  | verbatim (value : List α)
deriving DecidableEq

/-- The classes of characters a scanner knows, and the character a pair of quotes stands for. -/
structure Lexicon (α : Type u) where
  isQuote : α → Bool
  isBlank : α → Bool
  isMark : α → Bool
  pair : α → α → α

/-- Where the scanner is: between tokens, in a word, in a verbatim string, or after a quote
character in a verbatim string. -/
inductive ScanMode (α : Type u) where
  | between
  | word (text : List α)
  | inside (value : List α)
  | closing (value : List α) (first : α)
deriving DecidableEq

structure Scan (α : Type u) where
  tokens : List (Token α) := []
  mode : ScanMode α := .between
deriving DecidableEq

namespace Lexicon

variable (lexicon : Lexicon α)

/-- A character between tokens. -/
def enter (tokens : List (Token α)) (character : α) : Scan α :=
  if lexicon.isQuote character then ⟨tokens, .inside []⟩
  else if lexicon.isBlank character then ⟨tokens, .between⟩
  else if lexicon.isMark character then ⟨tokens ++ [.mark character], .between⟩
  else ⟨tokens, .word [character]⟩

/-- One step of the scanner. -/
def read (scan : Scan α) (character : α) : Scan α :=
  match scan.mode with
  | .between => lexicon.enter scan.tokens character
  | .word text =>
    if lexicon.isQuote character || lexicon.isBlank character || lexicon.isMark character then
      lexicon.enter (scan.tokens ++ [.word text]) character
    else ⟨scan.tokens, .word (text ++ [character])⟩
  | .inside value =>
    if lexicon.isQuote character then ⟨scan.tokens, .closing value character⟩
    else ⟨scan.tokens, .inside (value ++ [character])⟩
  | .closing value first =>
    if lexicon.isQuote character then
      ⟨scan.tokens, .inside (value ++ [lexicon.pair first character])⟩
    else lexicon.enter (scan.tokens ++ [.verbatim value]) character

/-- The tokens at the end of the text; a verbatim string that is still open is an error. -/
def finish (scan : Scan α) : Option (List (Token α)) :=
  match scan.mode with
  | .between => some scan.tokens
  | .word text => some (scan.tokens ++ [.word text])
  | .inside _ => none
  | .closing value _ => some (scan.tokens ++ [.verbatim value])

def lex (text : List α) : Option (List (Token α)) :=
  finish (text.foldl lexicon.read {})

end Lexicon

/-! ### The writer -/

/-- The text with every occurrence of one character doubled. -/
def doubled [DecidableEq α] (quote : α) (text : List α) : List α :=
  text.flatMap fun character => if character = quote then [quote, quote] else [character]

/-- A piece of a command text: fixed code with the tokens it stands for, and a value in quotes after
it. The value is doubled or is written as it is. -/
structure Segment (α : Type u) where
  code : List α
  codeTokens : List (Token α)
  value : List α
  escaped : Bool := true

namespace Segment

variable [DecidableEq α] (quote : α)

/-- What stands between the quotes. -/
def body (segment : Segment α) : List α :=
  if segment.escaped then doubled quote segment.value else segment.value

/-- The command text; `last` is the code after the last value. -/
def render : List (Segment α) → List α → List α
  | [], last => last
  | segment :: rest, last =>
    segment.code ++ quote :: (segment.body quote ++ quote :: render rest last)

/-- The tokens the command text is meant to be. -/
def tokens : List (Segment α) → List (Token α) → List (Token α)
  | [], lastTokens => lastTokens
  | segment :: rest, lastTokens =>
    segment.codeTokens ++ .verbatim segment.value :: tokens rest lastTokens

end Segment

/-! ### The tokens only grow -/

namespace Lexicon

variable (lexicon : Lexicon α)

/-- A scan with tokens before it. -/
def after (earlier : List (Token α)) (scan : Scan α) : Scan α :=
  ⟨earlier ++ scan.tokens, scan.mode⟩

theorem enter_after (earlier tokens : List (Token α)) (character : α) :
    lexicon.enter (earlier ++ tokens) character =
      after earlier (lexicon.enter tokens character) := by
  unfold enter after
  split_ifs <;> simp only [List.append_assoc]

theorem read_after (earlier : List (Token α)) (scan : Scan α) (character : α) :
    lexicon.read (after earlier scan) character = after earlier (lexicon.read scan character) := by
  obtain ⟨tokens, mode⟩ := scan
  cases mode with
  | between => exact lexicon.enter_after earlier tokens character
  | word text =>
    simp only [read, after, List.append_assoc, enter_after]
    split_ifs <;> rfl
  | inside value =>
    simp only [read, after]
    split_ifs <;> rfl
  | closing value first =>
    simp only [read, after, List.append_assoc, enter_after]
    split_ifs <;> rfl

theorem foldl_after (earlier : List (Token α)) (text : List α) (scan : Scan α) :
    text.foldl lexicon.read (after earlier scan) =
      after earlier (text.foldl lexicon.read scan) := by
  induction text generalizing scan with
  | nil => rfl
  | cons character rest inductionHypothesis =>
    rw [List.foldl_cons, read_after, inductionHypothesis, List.foldl_cons]

theorem finish_after (earlier : List (Token α)) (scan : Scan α) :
    finish (after earlier scan) = (finish scan).map (earlier ++ ·) := by
  obtain ⟨tokens, mode⟩ := scan
  cases mode <;> simp [finish, after]

/-- What the scanner has when it is asked for more text stays at the front of what it returns. -/
theorem tokens_prefix {scan : Scan α} {text : List α} {out : List (Token α)}
    (finished : finish (text.foldl lexicon.read scan) = some out) : scan.tokens <+: out := by
  have shape : scan = after scan.tokens ⟨[], scan.mode⟩ := by simp [after]
  rw [shape, foldl_after, finish_after] at finished
  obtain ⟨rest, _, rfl⟩ := Option.map_eq_some_iff.mp finished
  exact List.prefix_append _ _

/-- Text without quote characters is scanned the same whatever pairs of them stand for. -/
theorem foldl_read_pair (pair : α → α → α) {text : List α}
    (plain : ∀ character ∈ text, lexicon.isQuote character = false) (scan : Scan α) :
    text.foldl { lexicon with pair := pair }.read scan = text.foldl lexicon.read scan := by
  refine List.foldl_ext _ _ _ fun scan character member => ?_
  obtain ⟨tokens, mode⟩ := scan
  cases mode with
  | closing value first =>
    simp only [read, plain character member, Bool.false_eq_true, if_false]
    rfl
  | _ => rfl

/-! ### What a verbatim string costs -/

/-- The number of quote characters of a text. -/
def quotes (text : List α) : Nat := text.countP lexicon.isQuote

/-- The number of its other characters. -/
def others (text : List α) : Nat := text.countP fun character => !lexicon.isQuote character

section Counting

variable {lexicon} (paired : ∀ first second, lexicon.isQuote first = true →
  lexicon.isQuote second = true → lexicon.isQuote (lexicon.pair first second) = true)

include paired

/-- The value the scanner takes from an open string has the other characters of what it read, and
half of its quote characters; the odd one closes the string. -/
theorem counts_of_finish (earlier : List (Token α)) (text : List α) {out : List (Token α)} :
    (∀ value, finish (text.foldl lexicon.read ⟨earlier, .inside value⟩) = some out →
      ∃ whole front back, text = front ++ back ∧ earlier ++ [.verbatim whole] <+: out ∧
        lexicon.others whole = lexicon.others value + lexicon.others front ∧
        lexicon.quotes front + 2 * lexicon.quotes value = 2 * lexicon.quotes whole + 1) ∧
    ∀ value first, lexicon.isQuote first = true →
      finish (text.foldl lexicon.read ⟨earlier, .closing value first⟩) = some out →
      ∃ whole front back, text = front ++ back ∧ earlier ++ [.verbatim whole] <+: out ∧
        lexicon.others whole = lexicon.others value + lexicon.others front ∧
        lexicon.quotes front + 2 * lexicon.quotes value = 2 * lexicon.quotes whole := by
  induction text with
  | nil =>
    refine ⟨fun value finished => ?_, fun value first _ finished => ?_⟩
    · cases finished
    obtain rfl : earlier ++ [Token.verbatim value] = out := Option.some.inj finished
    exact ⟨value, [], [], rfl, List.prefix_refl _, rfl, by simp [quotes]⟩
  | cons character rest inductionHypothesis =>
    obtain ⟨inside, closing⟩ := inductionHypothesis
    cases isQuote : lexicon.isQuote character with
    | true =>
      constructor
      · intro value finished
        simp only [List.foldl_cons, read, isQuote, if_true] at finished
        obtain ⟨whole, front, back, rfl, early, other, quote⟩ :=
          closing value character isQuote finished
        refine ⟨whole, character :: front, back, rfl, early, ?_, ?_⟩
        · simpa [others, isQuote] using other
        · simp only [quotes, List.countP_cons, isQuote, if_true] at quote ⊢
          omega
      · intro value first firstQuote finished
        simp only [List.foldl_cons, read, isQuote, if_true] at finished
        obtain ⟨whole, front, back, rfl, early, other, quote⟩ := inside _ finished
        have pair := paired first character firstQuote isQuote
        refine ⟨whole, character :: front, back, rfl, early, ?_, ?_⟩
        · simpa [others, isQuote, pair] using other
        · simp only [quotes, List.countP_cons, List.countP_append, List.countP_nil, isQuote, pair,
            if_true] at quote ⊢
          omega
    | false =>
      constructor
      · intro value finished
        simp only [List.foldl_cons, read, isQuote, Bool.false_eq_true, if_false] at finished
        obtain ⟨whole, front, back, rfl, early, other, quote⟩ := inside _ finished
        refine ⟨whole, character :: front, back, rfl, early, ?_, ?_⟩
        · simp only [others, List.countP_cons, List.countP_append, List.countP_nil, isQuote,
            Bool.not_false, if_true] at other ⊢
          omega
        · simpa [quotes, isQuote] using quote
      · intro value first _ finished
        simp only [List.foldl_cons, read, isQuote, Bool.false_eq_true, if_false] at finished
        refine ⟨value, [], character :: rest, rfl, ?_, rfl, by simp [quotes]⟩
        refine List.IsPrefix.trans ?_ (lexicon.tokens_prefix finished)
        have early := lexicon.enter_after (earlier ++ [.verbatim value]) [] character
        rw [List.append_nil] at early
        rw [early]
        exact List.prefix_append _ _

/-- If the value that is read is the one meant, its quote characters were doubled: what stands
between the quotes has twice as many. -/
theorem quotes_of_finish {earlier : List (Token α)} {value body rest : List α} {quote : α}
    {out : List (Token α)} (isQuote : lexicon.isQuote quote = true)
    (same : lexicon.others body = lexicon.others value)
    (opens : ∀ character ∈ rest.head?, lexicon.isQuote character = false)
    (finished :
      finish ((body ++ quote :: rest).foldl lexicon.read ⟨earlier, .inside []⟩) = some out)
    (meant : earlier ++ [.verbatim value] <+: out) :
    2 * lexicon.quotes value ≤ lexicon.quotes body := by
  obtain ⟨whole, front, back, split, early, other, odd⟩ :=
    (counts_of_finish paired earlier _).1 [] finished
  obtain rfl : whole = value := by
    have equal := (List.prefix_of_prefix_length_le early meant (by simp)).eq_of_length (by simp)
    simpa using equal
  simp only [others, quotes, List.countP_nil] at other odd same ⊢
  rw [List.append_cons] at split
  rcases List.append_eq_append_iff.mp split with ⟨more, rfl, tail⟩ | ⟨more, tail, _⟩
  · cases more with
    | nil =>
      simp only [List.countP_append, List.countP_cons, List.countP_nil, isQuote, if_true] at odd
      omega
    | cons character later =>
      rw [tail, List.cons_append, List.head?_cons] at opens
      have plain := opens character rfl
      simp only [List.countP_append, List.countP_cons, List.countP_nil, plain, Bool.not_false,
        if_true] at other
      omega
  · have bound : front.countP lexicon.isQuote ≤ (body ++ [quote]).countP lexicon.isQuote := by
      rw [tail, List.countP_append]
      exact Nat.le_add_right _ _
    simp only [List.countP_append, List.countP_cons, List.countP_nil, isQuote, if_true] at bound
    omega

end Counting

/-- After a value that ends with its closing quote the scanner is between tokens. -/
theorem finish_closing (earlier : List (Token α)) (value : List α) (first : α) {rest : List α}
    (opens : ∀ character ∈ rest.head?, lexicon.isQuote character = false) :
    finish (rest.foldl lexicon.read ⟨earlier, .closing value first⟩) =
      finish (rest.foldl lexicon.read ⟨earlier ++ [.verbatim value], .between⟩) := by
  cases rest with
  | nil => rfl
  | cons character later =>
    have plain := opens character rfl
    simp only [List.foldl_cons, read, plain, Bool.false_eq_true, if_false]

end Lexicon

/-! ### The text as it is meant -/

namespace Segment

variable [DecidableEq α] (lexicon : Lexicon α) (quote : α)

/-- The code reads as its tokens, ends between tokens, and does not start with a quote character. -/
structure Sound (segment : Segment α) : Prop where
  reads : segment.code.foldl lexicon.read {} = ⟨segment.codeTokens, .between⟩
  nonempty : segment.code ≠ []
  opens : ∀ character ∈ segment.code.head?, lexicon.isQuote character = false

/-- The writer doubles every quote character of the value. -/
def Clean (segment : Segment α) : Prop :=
  ∀ character ∈ segment.value, lexicon.isQuote character = true →
    segment.escaped = true ∧ character = quote

variable {lexicon quote}

theorem others_body (isQuote : lexicon.isQuote quote = true) (segment : Segment α) :
    lexicon.others (segment.body quote) = lexicon.others segment.value := by
  unfold body
  split
  · induction segment.value with
    | nil => rfl
    | cons character rest inductionHypothesis =>
      by_cases same : character = quote
      · simpa [doubled, Lexicon.others, same, isQuote] using inductionHypothesis
      · simpa [doubled, Lexicon.others, same, List.countP_cons] using inductionHypothesis
  · rfl

theorem quotes_doubled (isQuote : lexicon.isQuote quote = true) (text : List α) :
    lexicon.quotes (doubled quote text) = lexicon.quotes text + text.count quote := by
  induction text with
  | nil => rfl
  | cons character rest inductionHypothesis =>
    by_cases same : character = quote
    · simp only [Lexicon.quotes, doubled, List.flatMap_cons, same, if_true, List.countP_append,
        List.countP_cons, List.countP_nil, isQuote, List.count_cons_self] at inductionHypothesis ⊢
      omega
    · simp only [Lexicon.quotes, doubled, List.flatMap_cons, same, if_false, List.countP_append,
        List.countP_cons, List.countP_nil, List.count_cons_of_ne same] at inductionHypothesis ⊢
      omega

/-- A value whose quote characters number half of those in its body is clean. -/
theorem clean_of_quotes (isQuote : lexicon.isQuote quote = true) {segment : Segment α}
    (twice : 2 * lexicon.quotes segment.value ≤ lexicon.quotes (segment.body quote)) :
    segment.Clean lexicon quote := by
  intro character member quoted
  cases escaped : segment.escaped with
  | false =>
    simp only [body, escaped, Bool.false_eq_true, if_false] at twice
    have positive : 0 < lexicon.quotes segment.value :=
      List.countP_pos_iff.mpr ⟨character, member, quoted⟩
    omega
  | true =>
    refine ⟨rfl, by_contra fun other => ?_⟩
    simp only [body, escaped, if_true, quotes_doubled isQuote] at twice
    have split : lexicon.quotes segment.value = segment.value.count quote +
        segment.value.countP fun character => lexicon.isQuote character && character != quote := by
      rw [Lexicon.quotes, List.count, List.countP_eq_countP_filter_add _ _ (· == quote),
        List.countP_filter, List.countP_filter]
      congr 1
      refine List.countP_congr fun character _ => ?_
      by_cases same : character = quote <;> simp [same, isQuote]
    have positive : 0 < segment.value.countP fun character =>
        lexicon.isQuote character && character != quote :=
      List.countP_pos_iff.mpr ⟨character, member, by simp [quoted, other]⟩
    omega

/-- The scanner reads a clean value back. -/
theorem foldl_body (isQuote : lexicon.isQuote quote = true)
    (pairSame : lexicon.pair quote quote = quote) (earlier : List (Token α)) {segment : Segment α}
    (clean : segment.Clean lexicon quote) :
    (segment.body quote).foldl lexicon.read ⟨earlier, .inside []⟩ =
      ⟨earlier, .inside segment.value⟩ := by
  suffices readsOn : ∀ text value : List α, (∀ character ∈ text, lexicon.isQuote character = true →
      segment.escaped = true ∧ character = quote) →
      (if segment.escaped then doubled quote text else text).foldl lexicon.read
        ⟨earlier, .inside value⟩ = ⟨earlier, .inside (value ++ text)⟩ from
    readsOn segment.value [] clean
  intro text
  induction text with
  | nil =>
    intro value _
    rw [List.append_nil]
    split <;> rfl
  | cons character rest inductionHypothesis =>
    intro value quotesDoubled
    have later := inductionHypothesis (value ++ [character]) fun other member =>
      quotesDoubled other (List.mem_cons_of_mem _ member)
    rw [List.append_assoc, List.singleton_append] at later
    rw [← later]
    cases quoted : lexicon.isQuote character with
    | true =>
      obtain ⟨escaped, rfl⟩ := quotesDoubled character List.mem_cons_self quoted
      simp only [escaped, if_true, doubled, List.flatMap_cons, List.foldl_append, List.foldl_cons,
        List.foldl_nil, Lexicon.read, isQuote, pairSame]
    | false =>
      have other : character ≠ quote := fun same => by
        rw [same, isQuote] at quoted
        cases quoted
      cases segment.escaped <;>
        simp [doubled, other, Lexicon.read, quoted]

theorem render_opens {segments : List (Segment α)} {last : List α}
    (sound : ∀ segment ∈ segments, segment.Sound lexicon)
    (opens : ∀ character ∈ last.head?, lexicon.isQuote character = false) :
    ∀ character ∈ (render quote segments last).head?, lexicon.isQuote character = false := by
  cases segments with
  | nil => exact opens
  | cons segment rest =>
    obtain ⟨_, nonempty, first⟩ := sound segment List.mem_cons_self
    rw [render, List.head?_append_of_ne_nil _ nonempty]
    exact first

/-- A command text is scanned as it is meant exactly if all its values are clean. -/
theorem lex_render_iff (isQuote : lexicon.isQuote quote = true)
    (pairSame : lexicon.pair quote quote = quote)
    (paired : ∀ first second, lexicon.isQuote first = true → lexicon.isQuote second = true →
      lexicon.isQuote (lexicon.pair first second) = true)
    {segments : List (Segment α)} {last : List α} {lastTokens : List (Token α)}
    (sound : ∀ segment ∈ segments, segment.Sound lexicon)
    (lastReads : lexicon.lex last = some lastTokens)
    (lastOpens : ∀ character ∈ last.head?, lexicon.isQuote character = false) :
    lexicon.lex (render quote segments last) = some (tokens segments lastTokens) ↔
      ∀ segment ∈ segments, segment.Clean lexicon quote := by
  suffices scans : ∀ earlier : List (Token α),
      Lexicon.finish ((render quote segments last).foldl lexicon.read ⟨earlier, .between⟩) =
        some (earlier ++ tokens segments lastTokens) ↔
      ∀ segment ∈ segments, segment.Clean lexicon quote from scans []
  induction segments with
  | nil =>
    intro earlier
    have reads := lexicon.foldl_after earlier last {}
    rw [Lexicon.after, List.append_nil] at reads
    rw [render, reads, Lexicon.finish_after]
    refine iff_of_true ?_ (by simp)
    rw [← Lexicon.lex, lastReads]
    rfl
  | cons segment rest inductionHypothesis =>
    intro earlier
    obtain ⟨reads, _, _⟩ := sound segment List.mem_cons_self
    have opens : ∀ character ∈ (render quote rest last).head?,
        lexicon.isQuote character = false :=
      render_opens (fun other member => sound other (List.mem_cons_of_mem _ member)) lastOpens
    have later := inductionHypothesis (fun other member =>
      sound other (List.mem_cons_of_mem _ member))
      (earlier ++ segment.codeTokens ++ [.verbatim segment.value])
    have opened : (segment.code ++ [quote]).foldl lexicon.read ⟨earlier, .between⟩ =
        ⟨earlier ++ segment.codeTokens, .inside []⟩ := by
      have code := lexicon.foldl_after earlier segment.code {}
      rw [reads, Lexicon.after, Lexicon.after, List.append_nil] at code
      rw [List.foldl_append, code]
      simp [Lexicon.read, Lexicon.enter, isQuote]
    rw [render, List.append_cons, List.foldl_append, opened, tokens, List.forall_mem_cons]
    simp only [List.append_assoc, List.singleton_append] at later ⊢
    constructor
    · intro finished
      have clean : segment.Clean lexicon quote := by
        refine clean_of_quotes isQuote (Lexicon.quotes_of_finish paired isQuote
          (others_body isQuote segment) opens finished ⟨tokens rest lastTokens, ?_⟩)
        simp only [List.append_assoc, List.singleton_append]
      refine ⟨clean, later.mp ?_⟩
      rw [List.foldl_append, foldl_body isQuote pairSame _ clean, List.foldl_cons] at finished
      simp only [Lexicon.read, isQuote, if_true] at finished
      rw [lexicon.finish_closing _ _ _ opens] at finished
      simpa only [List.append_assoc, List.singleton_append] using finished
    · rintro ⟨clean, others⟩
      rw [List.foldl_append, foldl_body isQuote pairSame _ clean, List.foldl_cons]
      simp only [Lexicon.read, isQuote, if_true]
      rw [lexicon.finish_closing _ _ _ opens]
      simpa only [List.append_assoc, List.singleton_append] using later.mpr others

end Segment

end PairDriver
