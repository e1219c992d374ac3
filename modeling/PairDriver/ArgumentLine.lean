/-
This file is a library for command lines that a program splits into its arguments
by the usual rule: blanks outside quotes separate, 2n backslashes before a quote
stand for n backslashes and the quote opens or closes, 2n+1 stand for n
backslashes and a literal quote, and all other backslashes are literal.

The content here is how a line that was joined from texts is split: if each text
alone reads as an argument, the line reads as the list of them.
-/

import Mathlib

namespace PairDriver

/-! ### The rule -/

/-- The characters with a meaning on a command line. -/
structure LineRule (Symbol : Type) where
  quote : Symbol
  backslash : Symbol
  isBlank : Symbol → Bool
  quote_ne_backslash : quote ≠ backslash
  quote_not_blank : isBlank quote = false
  backslash_not_blank : isBlank backslash = false

/-- Where a program is in its command line: the arguments that are complete, the one under way if
there is one, the backslashes read last, and whether quotes are open. -/
structure Splitting (Symbol : Type) where
  arguments : List (List Symbol) := []
  current : Option (List Symbol) := none
  backslashes : Nat := 0
  quoted : Bool := false

namespace LineRule

variable {Symbol : Type} (rule : LineRule Symbol)

/-- The argument under way, with so many literal backslashes. -/
def literal (splitting : Splitting Symbol) (count : Nat) : List Symbol :=
  splitting.current.getD [] ++ List.replicate count rule.backslash

/-- The arguments, should the one under way end here. -/
def complete (splitting : Splitting Symbol) : List (List Symbol) :=
  match splitting.current with
  | some _ => splitting.arguments ++ [rule.literal splitting splitting.backslashes]
  | none => splitting.arguments

theorem complete_argument (arguments : List (List Symbol)) (argument : List Symbol) :
    rule.complete ⟨arguments, some argument, 0, false⟩ = arguments ++ [argument] := by
  simp [complete, literal]

variable [DecidableEq Symbol]

/-- One more character of the line. -/
def next (splitting : Splitting Symbol) (symbol : Symbol) : Splitting Symbol :=
  if symbol = rule.backslash then
    { splitting with
      current := some (splitting.current.getD [])
      backslashes := splitting.backslashes + 1 }
  else if symbol = rule.quote then
    if splitting.backslashes % 2 = 0 then
      { splitting with
        current := some (rule.literal splitting (splitting.backslashes / 2))
        backslashes := 0
        quoted := !splitting.quoted }
    else
      { splitting with
        current := some (rule.literal splitting (splitting.backslashes / 2) ++ [symbol])
        backslashes := 0 }
  else if rule.isBlank symbol && !splitting.quoted then
    { arguments := rule.complete splitting }
  else
    { splitting with
      current := some (rule.literal splitting splitting.backslashes ++ [symbol])
      backslashes := 0 }

def read (splitting : Splitting Symbol) (text : List Symbol) : Splitting Symbol :=
  text.foldl rule.next splitting

/-- The arguments of a command line. -/
def split (line : List Symbol) : List (List Symbol) :=
  rule.complete (rule.read {} line)

theorem read_append (splitting : Splitting Symbol) (first second : List Symbol) :
    rule.read splitting (first ++ second) = rule.read (rule.read splitting first) second :=
  List.foldl_append

/-! ### Runs of backslashes -/

theorem read_backslashes (arguments : List (List Symbol)) (text : List Symbol)
    (count more : Nat) (quoted : Bool) :
    rule.read ⟨arguments, some text, count, quoted⟩ (List.replicate more rule.backslash) =
      ⟨arguments, some text, count + more, quoted⟩ := by
  induction more generalizing count with
  | zero => rfl
  | succ more inductionHypothesis =>
    rw [List.replicate_succ, read, List.foldl_cons, ← read]
    have one : rule.next ⟨arguments, some text, count, quoted⟩ rule.backslash =
        ⟨arguments, some text, count + 1, quoted⟩ := if_pos rfl
    rw [one, inductionHypothesis, Nat.add_right_comm, Nat.add_assoc]

/-- An even number of backslashes and a quote that opens or closes. -/
theorem read_delimiter (arguments : List (List Symbol)) (text : List Symbol) (count : Nat)
    (quoted : Bool) :
    rule.read ⟨arguments, some text, 0, quoted⟩
        (List.replicate (2 * count) rule.backslash ++ [rule.quote]) =
      ⟨arguments, some (text ++ List.replicate count rule.backslash), 0, !quoted⟩ := by
  rw [read_append, read_backslashes, Nat.zero_add]
  have even : 2 * count % 2 = 0 := Nat.mul_mod_right 2 count
  have half : 2 * count / 2 = count := Nat.mul_div_cancel_left count two_pos
  simp only [read, List.foldl_cons, List.foldl_nil, next, rule.quote_ne_backslash, even, half,
    literal, if_true, if_false, Option.getD_some]

theorem read_open (arguments : List (List Symbol)) :
    rule.read { arguments } [rule.quote] = ⟨arguments, some [], 0, true⟩ := by
  simp [read, next, rule.quote_ne_backslash, literal]

/-- An odd number of backslashes and a literal quote. -/
theorem read_quote (arguments : List (List Symbol)) (text : List Symbol) (count : Nat)
    (quoted : Bool) :
    rule.read ⟨arguments, some text, 0, quoted⟩
        (List.replicate (2 * count + 1) rule.backslash ++ [rule.quote]) =
      ⟨arguments, some (text ++ List.replicate count rule.backslash ++ [rule.quote]), 0,
        quoted⟩ := by
  rw [read_append, read_backslashes, Nat.zero_add]
  have odd : ¬(2 * count + 1) % 2 = 0 := by omega
  have half : (2 * count + 1) / 2 = count := by omega
  simp only [read, List.foldl_cons, List.foldl_nil, next, rule.quote_ne_backslash, odd, half,
    literal, if_true, if_false, Option.getD_some]

/-- Any number of backslashes and a character that is part of the argument. -/
theorem read_literal (arguments : List (List Symbol)) (text : List Symbol) (count : Nat)
    {quoted : Bool} {symbol : Symbol} (other : symbol ≠ rule.backslash)
    (unquote : symbol ≠ rule.quote) (inside : (rule.isBlank symbol && !quoted) = false) :
    rule.read ⟨arguments, some text, 0, quoted⟩
        (List.replicate count rule.backslash ++ [symbol]) =
      ⟨arguments, some (text ++ List.replicate count rule.backslash ++ [symbol]), 0, quoted⟩ := by
  rw [read_append, read_backslashes, Nat.zero_add]
  simp only [read, List.foldl_cons, List.foldl_nil, next, other, unquote, inside, literal,
    if_false, Bool.false_eq_true, Option.getD_some]

/-! ### Joined lines -/

/-- The text reads as an argument, wherever it stands between blanks. -/
def Reads (text argument : List Symbol) : Prop :=
  ∀ arguments, rule.read { arguments } text = ⟨arguments, some argument, 0, false⟩

/-- A character without a meaning of its own. -/
def Plain (symbol : Symbol) : Prop :=
  symbol ≠ rule.backslash ∧ symbol ≠ rule.quote ∧ rule.isBlank symbol = false

theorem read_plain (arguments : List (List Symbol)) {text : List Symbol}
    (plain : ∀ symbol ∈ text, rule.Plain symbol) (before : List Symbol) :
    rule.read ⟨arguments, some before, 0, false⟩ text =
      ⟨arguments, some (before ++ text), 0, false⟩ := by
  induction text generalizing before with
  | nil =>
    rw [List.append_nil]
    rfl
  | cons symbol rest inductionHypothesis =>
    obtain ⟨other, unquote, unblank⟩ := plain symbol List.mem_cons_self
    have inside : (rule.isBlank symbol && !false) = false := by rw [unblank, Bool.false_and]
    have one := rule.read_literal arguments before 0 other unquote inside
    rw [List.replicate_zero, List.nil_append, List.append_nil] at one
    rw [← List.singleton_append, read_append, one, ← List.append_assoc]
    exact inductionHypothesis (fun later member => plain later (List.mem_cons_of_mem _ member)) _

/-- A text of plain characters reads as itself. -/
theorem reads_plain {text : List Symbol} (nonempty : text ≠ [])
    (plain : ∀ symbol ∈ text, rule.Plain symbol) : rule.Reads text text := by
  intro arguments
  cases text with
  | nil => exact absurd rfl nonempty
  | cons first rest =>
    obtain ⟨other, unquote, unblank⟩ := plain first List.mem_cons_self
    have opened : rule.next { arguments } first = ⟨arguments, some [first], 0, false⟩ := by
      simp [next, other, unquote, unblank, literal]
    show rule.read (rule.next { arguments } first) rest = _
    rw [opened]
    exact rule.read_plain arguments
      (fun later member => plain later (List.mem_cons_of_mem _ member)) [first]

theorem next_blank {blank : Symbol} (isBlank : rule.isBlank blank = true)
    (arguments : List (List Symbol)) (argument : List Symbol) :
    rule.next ⟨arguments, some argument, 0, false⟩ blank =
      { arguments := arguments ++ [argument] } := by
  have other : blank ≠ rule.backslash := by
    rintro rfl
    exact absurd isBlank (by rw [rule.backslash_not_blank]; exact Bool.false_ne_true)
  have unquote : blank ≠ rule.quote := by
    rintro rfl
    exact absurd isBlank (by rw [rule.quote_not_blank]; exact Bool.false_ne_true)
  rw [next, if_neg other, if_neg unquote, isBlank, complete_argument]
  rfl

/-- A line joined with blanks is split into the arguments its texts read as. -/
theorem split_intercalate {blank : Symbol} (isBlank : rule.isBlank blank = true)
    {texts arguments : List (List Symbol)} (reads : List.Forall₂ rule.Reads texts arguments) :
    rule.split (List.intercalate [blank] texts) = arguments := by
  have onward : ∀ before, rule.complete (rule.read { arguments := before }
      (List.intercalate [blank] texts)) = before ++ arguments := by
    induction reads with
    | nil =>
      intro before
      rw [List.append_nil]
      rfl
    | @cons text argument texts arguments first rest inductionHypothesis =>
      intro before
      cases rest with
      | nil =>
        rw [List.intercalate_singleton, first, complete_argument]
      | @cons second secondArgument texts arguments _ _ =>
        rw [List.intercalate_cons_cons, List.append_assoc, read_append, first]
        show rule.complete (rule.read (rule.next _ blank)
          (List.intercalate [blank] (second :: texts))) = _
        rw [next_blank rule isBlank, inductionHypothesis, List.append_assoc]
        rfl
  exact onward []

end LineRule

end PairDriver
