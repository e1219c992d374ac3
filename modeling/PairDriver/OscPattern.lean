/-
This file models the router's pattern matcher and says which patterns it reads as
globs. The matcher splices each alternative of a group onto what follows the group and
starts again, so a group is read correctly where the text up to its first closing brace
splits at the commas of the group itself.

On the patterns that are split correctly the matcher finds exactly the derivations in
which no star takes the whole rest of the address while something still stands behind
it, so an address that belongs to a pattern only in such a way is missed. A pattern that
runs into an unclosed bracket, or into an unclosed brace with no comma behind it, matches
nothing.
-/

import PairDriver.Bytes
import PairDriver.GlobLanguage

namespace PairDriver.Osc

open Globs

/-! ### The matcher -/

/-- The order of `char`, which is signed. -/
def charLe (first second : UInt8) : Bool :=
  decide (first.toInt8 ≤ second.toInt8)

/-- The loop of `MatchCharClass`: whether the character matched, and the text behind the
closing bracket. -/
def classLoop (ch : UInt8) (matched : Bool) : List UInt8 → Option (Bool × List UInt8)
  | [] => none
  | first :: 45 :: last :: rest =>
    if first = 93 then some (matched, 45 :: last :: rest)
    else if last ≠ 93 then classLoop ch (matched || (charLe first ch && charLe ch last)) rest
    else classLoop ch (matched || ch == first) (45 :: last :: rest)
  | first :: text =>
    if first = 93 then some (matched, text)
    else classLoop ch (matched || ch == first) text
termination_by text => text.length

/-- `MatchCharClass`; none if the bracket is not closed. -/
def matchCharClass (ch : UInt8) : List UInt8 → Option (Bool × List UInt8)
  | 33 :: text => (classLoop ch false text).map fun (matched, rest) => (!matched, rest)
  | text => classLoop ch false text

/-- The text behind the brace that closes a group, given how many are open. -/
def afterGroup : Nat → List UInt8 → List UInt8
  | 0, text => text
  | _ + 1, [] => []
  | depth + 1, symbol :: text =>
    if symbol = 123 then afterGroup (depth + 2) text
    else if symbol = 125 then afterGroup depth text
    else afterGroup (depth + 1) text

/-- An alternative and what is appended to it fit the buffer. -/
def fitsAlternate (alternative rest : List UInt8) : Bool :=
  decide (alternative.length < 255) && decide (alternative.length + rest.length < 256)

/-- The patterns `MatchAlternates` tries in order, given the text of the alternative it is
in; it gives up at one that does not fit. -/
def alternates (rest : List UInt8) (alternative : List UInt8) :
    List UInt8 → List (List UInt8)
  | [] => []
  | symbol :: text =>
    if symbol = 125 then
      if fitsAlternate alternative text then [alternative ++ text] else []
    else if symbol = 44 then
      if fitsAlternate alternative rest then (alternative ++ rest) :: alternates rest [] text
      else []
    else alternates rest (alternative ++ [symbol]) text

/-- The patterns a group stands for, given the text behind its opening brace. -/
def groupAlternates (text : List UInt8) : List (List UInt8) :=
  alternates (afterGroup 1 text) [] text

/-- Some suffix that is not empty is accepted. -/
def anySuffix (accepts : List UInt8 → Bool) : List UInt8 → Bool
  | [] => false
  | symbol :: rest => accepts (symbol :: rest) || anySuffix accepts rest

theorem classLoop_length (ch : UInt8) (matched hit : Bool) (text rest : List UInt8)
    (closed : classLoop ch matched text = some (hit, rest)) : rest.length < text.length := by
  fun_induction classLoop ch matched text with
  | case1 => exact nomatch closed
  | case2 matched last text =>
    cases closed
    exact Nat.lt_succ_self _
  | case3 matched first last text _ _ inductionHypothesis =>
    have shorter := inductionHypothesis closed
    simp only [List.length_cons]
    omega
  | case4 matched first last text _ _ inductionHypothesis =>
    exact Nat.lt_succ_of_lt (inductionHypothesis closed)
  | case5 matched text =>
    cases closed
    exact Nat.lt_succ_self _
  | case6 matched first text _ _ inductionHypothesis =>
    exact Nat.lt_succ_of_lt (inductionHypothesis closed)

theorem matchCharClass_length (ch : UInt8) (hit : Bool) (text rest : List UInt8)
    (closed : matchCharClass ch text = some (hit, rest)) : rest.length < text.length := by
  unfold matchCharClass at closed
  split at closed
  · obtain ⟨⟨inside, after⟩, loop, same⟩ := Option.map_eq_some_iff.mp closed
    cases same
    exact Nat.lt_succ_of_lt (classLoop_length ch false inside _ _ loop)
  · exact classLoop_length ch false hit _ _ closed

/-- The text behind the first closing brace. -/
def behindBrace : List UInt8 → List UInt8
  | [] => []
  | symbol :: text => if symbol = 125 then text else behindBrace text

theorem behindBrace_length (text : List UInt8) : (behindBrace text).length ≤ text.length := by
  fun_induction behindBrace text with
  | case1 => exact Nat.le_refl _
  | case2 => exact Nat.le_succ _
  | case3 _ _ _ inductionHypothesis => exact Nat.le_succ_of_le inductionHypothesis

theorem afterGroup_length (depth : Nat) (text : List UInt8) :
    (afterGroup depth text).length ≤ text.length := by
  fun_induction afterGroup depth text with
  | case1 => exact Nat.le_refl _
  | case2 => exact Nat.le_refl _
  | case3 depth text inductionHypothesis => exact Nat.le_succ_of_le inductionHypothesis
  | case4 depth text _ inductionHypothesis => exact Nat.le_succ_of_le inductionHypothesis
  | case5 depth symbol text _ _ inductionHypothesis => exact Nat.le_succ_of_le inductionHypothesis

/-- A group ends at its first closing brace or behind it. -/
theorem afterGroup_behindBrace (depth : Nat) (text : List UInt8) :
    (afterGroup (depth + 1) text).length ≤ (behindBrace text).length := by
  induction text generalizing depth with
  | nil => exact Nat.le_refl _
  | cons symbol text inductionHypothesis =>
    unfold afterGroup behindBrace
    by_cases opens : symbol = 123
    · rw [if_pos opens, opens, if_neg (by decide)]
      exact inductionHypothesis (depth + 1)
    · rw [if_neg opens]
      by_cases closes : symbol = 125
      · rw [if_pos closes, if_pos closes]
        exact afterGroup_length depth text
      · rw [if_neg closes, if_neg closes]
        exact inductionHypothesis depth

theorem alternates_length (rest alternative text : List UInt8)
    (behind : rest.length ≤ (behindBrace text).length) :
    ∀ candidate ∈ alternates rest alternative text,
      candidate.length < alternative.length + text.length := by
  induction text generalizing alternative with
  | nil => exact fun candidate member => absurd member List.not_mem_nil
  | cons symbol text inductionHypothesis =>
    intro candidate member
    unfold alternates at member
    unfold behindBrace at behind
    by_cases closes : symbol = 125
    · rw [if_pos closes] at member
      split_ifs at member
      · rw [List.mem_singleton.mp member, List.length_append, List.length_cons]
        omega
      · exact absurd member List.not_mem_nil
    · rw [if_neg closes] at member behind
      have shorter := behindBrace_length text
      split_ifs at member
      · rcases List.mem_cons.mp member with first | later
        · rw [first, List.length_append, List.length_cons]
          omega
        · have next := inductionHypothesis [] behind candidate later
          rw [List.length_nil] at next
          rw [List.length_cons]
          omega
      · exact absurd member List.not_mem_nil
      · have next := inductionHypothesis _ behind candidate member
        rw [List.length_append, List.length_singleton] at next
        rw [List.length_cons]
        omega

theorem groupAlternates_length (text candidate : List UInt8)
    (member : candidate ∈ groupAlternates text) : candidate.length < text.length := by
  have shorter := alternates_length _ [] text (afterGroup_behindBrace 0 text) candidate member
  rw [List.length_nil] at shorter
  omega

/-- `PatternMatchImpl`. -/
def patternMatchImpl (pattern address : List UInt8) : Bool :=
  match pattern with
  | [] => address.isEmpty
  | 63 :: rest =>
    match address with
    | [] => false
    | _ :: after => patternMatchImpl rest after
  | 42 :: rest =>
    if (rest.dropWhile (· == 42)).isEmpty then true
    else anySuffix (fun suffix => patternMatchImpl (rest.dropWhile (· == 42)) suffix) address
  | 91 :: text =>
    match _ : matchCharClass (address.headD 0) text with
    | some (true, rest) =>
      match address with
      | [] => false
      | _ :: after => patternMatchImpl rest after
    | _ => false
  | 123 :: text =>
    (groupAlternates text).attach.any fun candidate => patternMatchImpl candidate.1 address
  | symbol :: rest =>
    match address with
    | [] => false
    | first :: after => symbol == first && patternMatchImpl rest after
termination_by pattern.length
decreasing_by
  · exact Nat.lt_succ_self _
  · exact Nat.lt_succ_of_le (List.dropWhile_suffix _).length_le
  · exact Nat.lt_succ_of_lt (matchCharClass_length _ _ _ _ ‹_›)
  · exact Nat.lt_succ_of_lt (groupAlternates_length _ _ candidate.2)
  · exact Nat.lt_succ_self _

/-- `OscPatternMatch`, on a pattern and an address that are there. -/
def oscPatternMatch (pattern address : List UInt8) : Bool :=
  patternMatchImpl (cString pattern) (cString address)

/-! ### What the matcher does with one item -/

theorem patternMatchImpl_nil (address : List UInt8) :
    patternMatchImpl [] address = address.isEmpty := by
  rw [patternMatchImpl]

theorem patternMatchImpl_any (rest address : List UInt8) :
    patternMatchImpl (63 :: rest) address = true ↔
      ∃ symbol after, address = symbol :: after ∧ patternMatchImpl rest after = true := by
  cases address with
  | nil =>
    rw [patternMatchImpl]
    exact ⟨fun broken => absurd broken Bool.false_ne_true, fun ⟨_, _, same, _⟩ => nomatch same⟩
  | cons symbol after =>
    rw [patternMatchImpl]
    constructor
    · exact fun accepts => ⟨symbol, after, rfl, accepts⟩
    · rintro ⟨_, _, same, accepts⟩
      cases same
      exact accepts

theorem patternMatchImpl_literal (symbol : UInt8) (rest address : List UInt8)
    (plain : symbol ∉ [63, 42, 91, 123]) :
    patternMatchImpl (symbol :: rest) address = true ↔
      ∃ after, address = symbol :: after ∧ patternMatchImpl rest after = true := by
  simp only [List.mem_cons, List.not_mem_nil, or_false, not_or] at plain
  obtain ⟨query, star, bracket, brace⟩ := plain
  cases address with
  | nil =>
    rw [patternMatchImpl]
    · exact ⟨fun broken => absurd broken Bool.false_ne_true, fun ⟨_, same, _⟩ => nomatch same⟩
    all_goals exact fun same => absurd same ‹_›
  | cons first after =>
    rw [patternMatchImpl]
    · simp only [Bool.and_eq_true, beq_iff_eq]
      constructor
      · rintro ⟨rfl, accepts⟩
        exact ⟨after, rfl, accepts⟩
      · rintro ⟨_, same, accepts⟩
        cases same
        exact ⟨rfl, accepts⟩
    all_goals exact fun same => absurd same ‹_›

theorem patternMatchImpl_group (text address : List UInt8) :
    patternMatchImpl (123 :: text) address = true ↔
      ∃ candidate ∈ groupAlternates text, patternMatchImpl candidate address = true := by
  rw [patternMatchImpl, List.any_eq_true]
  constructor
  · rintro ⟨⟨candidate, member⟩, -, accepts⟩
    exact ⟨candidate, member, accepts⟩
  · rintro ⟨candidate, member, accepts⟩
    exact ⟨⟨candidate, member⟩, List.mem_attach _ _, accepts⟩

theorem patternMatchImpl_star_nil (address : List UInt8) : patternMatchImpl [42] address = true := by
  rw [patternMatchImpl]
  rfl

theorem patternMatchImpl_star_star (rest address : List UInt8) :
    patternMatchImpl (42 :: 42 :: rest) address = patternMatchImpl (42 :: rest) address := by
  rw [patternMatchImpl, patternMatchImpl]
  rfl

theorem anySuffix_iff (accepts : List UInt8 → Bool) (address : List UInt8) :
    anySuffix accepts address = true ↔
      ∃ skipped kept, kept ≠ [] ∧ address = skipped ++ kept ∧ accepts kept = true := by
  induction address with
  | nil =>
    refine ⟨fun broken => absurd broken Bool.false_ne_true,
      fun ⟨skipped, kept, left, split, _⟩ => ?_⟩
    exact absurd (List.append_eq_nil_iff.mp split.symm).2 left
  | cons symbol rest inductionHypothesis =>
    rw [anySuffix, Bool.or_eq_true, inductionHypothesis]
    constructor
    · rintro (here | ⟨skipped, kept, left, split, accepted⟩)
      · exact ⟨[], symbol :: rest, List.cons_ne_nil _ _, rfl, here⟩
      · exact ⟨symbol :: skipped, kept, left, congrArg (List.cons symbol) split, accepted⟩
    · rintro ⟨skipped, kept, left, split, accepted⟩
      cases skipped with
      | nil => exact Or.inl (split ▸ accepted)
      | cons first skipped =>
        exact Or.inr ⟨skipped, kept, left, (List.cons.inj split).2, accepted⟩

theorem patternMatchImpl_star (symbol : UInt8) (rest address : List UInt8) (other : symbol ≠ 42) :
    patternMatchImpl (42 :: symbol :: rest) address = true ↔
      ∃ skipped kept, kept ≠ [] ∧ address = skipped ++ kept ∧
        patternMatchImpl (symbol :: rest) kept = true := by
  have stays : (symbol :: rest).dropWhile (· == 42) = symbol :: rest :=
    List.dropWhile_cons_of_neg (fun same => other (eq_of_beq same))
  rw [patternMatchImpl, stays]
  exact anySuffix_iff _ address

/-! ### Character sets -/

/-- The ranges the text of a set lists; a character on its own is a range of one. -/
def setRanges : List UInt8 → List (UInt8 × UInt8)
  | [] => []
  | first :: 45 :: last :: rest => (first, last) :: setRanges rest
  | symbol :: rest => (symbol, symbol) :: setRanges rest

def inRange (ch : UInt8) (range : UInt8 × UInt8) : Bool :=
  charLe range.1 ch && charLe ch range.2

/-- The text of a set contains a character: one of its ranges does, or none if it begins with
an exclamation mark. -/
def setContains : List UInt8 → UInt8 → Bool
  | 33 :: text, ch => !(setRanges text).any (inRange ch)
  | text, ch => (setRanges text).any (inRange ch)

theorem inRange_single (ch symbol : UInt8) : inRange ch (symbol, symbol) = (ch == symbol) := by
  rw [inRange, charLe, charLe, Bool.eq_iff_iff, Bool.and_eq_true, decide_eq_true_eq,
    decide_eq_true_eq, beq_iff_eq]
  constructor
  · rintro ⟨above, below⟩
    exact congrArg Int8.toUInt8 (Int8.le_antisymm below above)
  · rintro rfl
    exact ⟨Int8.le_refl _, Int8.le_refl _⟩

theorem classLoop_close (ch : UInt8) (matched : Bool) (rest : List UInt8) :
    classLoop ch matched (93 :: rest) = some (matched, rest) := by
  unfold classLoop
  split
  · rename_i shape
    exact nomatch shape
  · rename_i shape
    cases shape
    rfl
  · rename_i shape
    cases shape
    rfl

/-- A character that begins no range is compared on its own. -/
theorem classLoop_single (ch symbol : UInt8) (matched : Bool) (text : List UInt8)
    (opened : symbol ≠ 93) (single : ∀ last rest, text = 45 :: last :: rest → last = 93) :
    classLoop ch matched (symbol :: text) = classLoop ch (matched || ch == symbol) text := by
  conv_lhs => unfold classLoop
  split
  · rename_i shape
    exact nomatch shape
  · rename_i shape
    cases shape
    rw [if_neg opened, if_neg fun other => other (single _ _ rfl)]
  · rename_i shape
    cases shape
    rw [if_neg opened]

/-- The loop over a closed set finds the ranges its text lists. -/
theorem classLoop_closed (ch : UInt8) (matched : Bool) (text rest : List UInt8)
    (opened : 93 ∉ text) :
    classLoop ch matched (text ++ 93 :: rest) =
      some (matched || (setRanges text).any (inRange ch), rest) := by
  fun_induction setRanges text generalizing matched with
  | case1 =>
    rw [List.nil_append, classLoop_close, List.any_nil, Bool.or_false]
  | case2 first last text inductionHypothesis =>
    simp only [List.mem_cons, not_or] at opened
    obtain ⟨firstOpen, -, lastOpen, textOpen⟩ := opened
    rw [List.cons_append, List.cons_append, List.cons_append, classLoop,
      if_neg (Ne.symm firstOpen), if_pos (Ne.symm lastOpen), inductionHypothesis _ textOpen,
      List.any_cons, ← Bool.or_assoc, inRange]
  | case3 symbol text single inductionHypothesis =>
    simp only [List.mem_cons, not_or] at opened
    obtain ⟨symbolOpen, textOpen⟩ := opened
    have alone : ∀ last after, text ++ 93 :: rest = 45 :: last :: after → last = 93 := by
      intro last after shape
      rcases text with _ | ⟨first, _ | ⟨second, others⟩⟩
      · exact absurd (List.cons.inj shape).1 (by decide)
      · exact ((List.cons.inj (List.cons.inj shape).2).1).symm
      · have dash : first = 45 := (List.cons.inj shape).1
        exact absurd (by rw [dash]) (single second others)
    rw [List.cons_append, classLoop_single ch symbol matched _ (Ne.symm symbolOpen) alone,
      inductionHypothesis _ textOpen, List.any_cons, ← Bool.or_assoc, inRange_single]

theorem matchCharClass_closed (ch : UInt8) (text rest : List UInt8) (opened : 93 ∉ text) :
    matchCharClass ch (text ++ 93 :: rest) = some (setContains text ch, rest) := by
  by_cases negated : ∃ members, text = 33 :: members
  · obtain ⟨members, rfl⟩ := negated
    rw [List.cons_append, matchCharClass, classLoop_closed ch false members rest
      fun member => opened (List.mem_cons_of_mem _ member), Bool.false_or]
    rfl
  · have plain : ∀ members, text ++ 93 :: rest = 33 :: members → False := by
      intro members shape
      rcases text with _ | ⟨first, others⟩
      · exact absurd (List.cons.inj shape).1 (by decide)
      · exact negated ⟨others, by rw [(List.cons.inj shape).1]⟩
    rw [matchCharClass, classLoop_closed ch false text rest opened, Bool.false_or, setContains]
    · exact fun members shape => negated ⟨members, shape⟩
    · exact plain

theorem patternMatchImpl_set (text rest address : List UInt8) (opened : 93 ∉ text) :
    patternMatchImpl (91 :: (text ++ 93 :: rest)) address = true ↔
      ∃ symbol after, address = symbol :: after ∧ setContains text symbol = true ∧
        patternMatchImpl rest after = true := by
  have scanned := matchCharClass_closed (address.headD 0) text rest opened
  cases address with
  | nil =>
    rw [patternMatchImpl]
    refine ⟨fun broken => ?_, fun ⟨_, _, same, _⟩ => nomatch same⟩
    split at broken <;> exact absurd broken Bool.false_ne_true
  | cons symbol after =>
    rw [patternMatchImpl]
    split
    · rename_i hit
      rw [scanned] at hit
      obtain ⟨held, behind⟩ := Prod.mk.inj (Option.some.inj hit)
      show patternMatchImpl _ after = true ↔ _
      rw [← behind]
      exact ⟨fun accepts => ⟨symbol, after, rfl, held, accepts⟩,
        fun ⟨_, _, same, _, accepts⟩ => (List.cons.inj same).2 ▸ accepts⟩
    · rename_i missed
      refine ⟨fun broken => absurd broken Bool.false_ne_true, fun ⟨_, _, same, held, _⟩ => ?_⟩
      cases same
      exact absurd (scanned.trans (congrArg (fun hit => some (hit, rest)) held)) (missed rest)

/-! ### Patterns and their text -/

/-- An item of an OSC pattern; a set is given by the text between its brackets. -/
abbrev OscGlob := Glob UInt8 (List UInt8)

/-- What a pattern's sets contain. -/
def SetHolds (text : List UInt8) (symbol : UInt8) : Prop :=
  setContains text symbol = true

mutual

def renderGlob : OscGlob → List UInt8
  | .literal symbol => [symbol]
  | .any => [63]
  | .star => [42]
  | .set text => 91 :: (text ++ [93])
  | .group first others => 123 :: (render first ++ renderOthers others)

/-- The text of a pattern. -/
def render : List OscGlob → List UInt8
  | [] => []
  | glob :: globs => renderGlob glob ++ render globs

/-- The text of the alternatives behind the first, with the closing brace. -/
def renderOthers : List (List OscGlob) → List UInt8
  | [] => [125]
  | alternative :: alternatives => 44 :: (render alternative ++ renderOthers alternatives)

end

mutual

/-- A literal has no meaning of its own and the text of a set no closing bracket. -/
def GlobFormed : OscGlob → Prop
  | .literal symbol => symbol ∉ [0, 63, 42, 91, 93, 123, 125, 44]
  | .any => True
  | .star => True
  | .set text => 93 ∉ text ∧ 0 ∉ text
  | .group first others => WellFormed first ∧ OthersFormed others

def WellFormed : List OscGlob → Prop
  | [] => True
  | glob :: globs => GlobFormed glob ∧ WellFormed globs

def OthersFormed : List (List OscGlob) → Prop
  | [] => True
  | alternative :: alternatives => WellFormed alternative ∧ OthersFormed alternatives

end

/-- The matcher splits every group of a pattern, with some text behind it, into the
alternatives of the group, each followed by what follows the group. -/
inductive Splits (tail : List UInt8) : List OscGlob → Prop where
  | nil : Splits tail []
  | item {glob : OscGlob} {rest : List OscGlob} :
      (∀ first others, glob ≠ .group first others) → Splits tail rest → Splits tail (glob :: rest)
  | group {first : List OscGlob} {others : List (List OscGlob)} {rest : List OscGlob} :
      groupAlternates (render first ++ renderOthers others ++ render rest ++ tail) =
          (first :: others).map (fun alternative => render (alternative ++ rest) ++ tail) →
        (∀ alternative ∈ first :: others, Splits tail (alternative ++ rest)) →
        Splits tail (.group first others :: rest)

@[simp]
theorem render_append (globs rest : List OscGlob) :
    render (globs ++ rest) = render globs ++ render rest := by
  induction globs with
  | nil => rw [render, List.nil_append, List.nil_append]
  | cons glob globs inductionHypothesis =>
    rw [List.cons_append, render, render, inductionHypothesis, List.append_assoc]

theorem wellFormed_append (globs rest : List OscGlob) :
    WellFormed (globs ++ rest) ↔ WellFormed globs ∧ WellFormed rest := by
  induction globs with
  | nil => rw [WellFormed, List.nil_append, true_and]
  | cons glob globs inductionHypothesis =>
    rw [List.cons_append, WellFormed, WellFormed, inductionHypothesis, and_assoc]

theorem othersFormed_iff (alternatives : List (List OscGlob)) :
    OthersFormed alternatives ↔ ∀ alternative ∈ alternatives, WellFormed alternative := by
  induction alternatives with
  | nil => exact iff_of_true trivial fun _ member => absurd member List.not_mem_nil
  | cons alternative alternatives inductionHypothesis =>
    rw [OthersFormed, inductionHypothesis, List.forall_mem_cons]

/-- Every alternative of a group is well formed in front of what follows the group. -/
theorem alternative_formed {first : List OscGlob} {others : List (List OscGlob)}
    {rest : List OscGlob} (formed : WellFormed (.group first others :: rest)) :
    ∀ alternative ∈ first :: others, WellFormed (alternative ++ rest) := by
  rw [WellFormed, GlobFormed, othersFormed_iff] at formed
  obtain ⟨⟨formedFirst, formedOthers⟩, formedRest⟩ := formed
  intro alternative member
  refine (wellFormed_append _ _).mpr ⟨?_, formedRest⟩
  rcases List.mem_cons.mp member with same | other
  · exact same ▸ formedFirst
  · exact formedOthers alternative other

/-- The text of a pattern begins with a star only if the pattern does. -/
theorem render_head (glob : OscGlob) (rest : List OscGlob) (formed : GlobFormed glob)
    (other : glob ≠ .star) :
    ∃ symbol text, symbol ≠ 42 ∧ render (glob :: rest) = symbol :: text := by
  cases glob with
  | literal symbol =>
    refine ⟨symbol, render rest, fun star => ?_, rfl⟩
    rw [GlobFormed, star] at formed
    exact formed (by decide)
  | any => exact ⟨63, render rest, by decide, rfl⟩
  | star => exact absurd rfl other
  | set text => exact ⟨91, _, by decide, rfl⟩
  | group first others => exact ⟨123, _, by decide, rfl⟩

theorem patternMatchImpl_literal_item (symbol : UInt8) (rest address : List UInt8)
    (formed : GlobFormed (.literal symbol)) :
    patternMatchImpl (symbol :: rest) address = true ↔
      ∃ after, address = symbol :: after ∧ patternMatchImpl rest after = true := by
  refine patternMatchImpl_literal symbol rest address fun special => ?_
  rw [GlobFormed] at formed
  simp only [List.mem_cons, List.not_mem_nil, or_false, not_or] at special formed
  rcases special with rfl | rfl | rfl | rfl <;> simp only [not_true, false_and, and_false] at formed

/-! ### What the matcher accepts -/

/-- A star accepts any address if nothing but stars follows it, and otherwise an address with
some suffix that is accepted and not empty. -/
theorem patternMatchImpl_star_item (rest : List OscGlob) (formed : WellFormed rest)
    (restMatches : ∀ address, patternMatchImpl (render rest) address = true ↔
      Derives SetHolds rest address) (address : List UInt8) :
    patternMatchImpl (42 :: render rest) address = true ↔
      Derives SetHolds (.star :: rest) address := by
  cases rest with
  | nil =>
    exact iff_of_true (patternMatchImpl_star_nil address)
      (.starLast fun glob member => absurd member List.not_mem_nil)
  | cons next others =>
    by_cases star : next = .star
    · have shape : render (next :: others) = 42 :: render others := by
        rw [star]
        rfl
      rw [shape, patternMatchImpl_star_star, ← shape, restMatches, star, derives_star_star]
    · obtain ⟨symbol, text, other, shape⟩ := render_head next others formed.1 star
      rw [shape, patternMatchImpl_star symbol text address other, ← shape]
      constructor
      · rintro ⟨skipped, kept, left, rfl, accepts⟩
        exact .star skipped left ((restMatches kept).mp accepts)
      · rintro (_ | _ | _ | _ | stars | ⟨skipped, left, derives⟩ | _)
        · exact absurd (stars next List.mem_cons_self) star
        · exact ⟨skipped, _, left, rfl, (restMatches _).mpr derives⟩

/-- A pattern that is split correctly is matched by what it derives. -/
theorem patternMatchImpl_iff_derives (globs : List OscGlob) (splits : Splits [] globs)
    (formed : WellFormed globs) (address : List UInt8) :
    patternMatchImpl (render globs) address = true ↔ Derives SetHolds globs address := by
  induction splits generalizing address with
  | nil =>
    rw [render, patternMatchImpl_nil, List.isEmpty_iff]
    constructor
    · rintro rfl
      exact .done
    · rintro ⟨⟩
      rfl
  | @item glob rest single splitsRest inductionHypothesis =>
    obtain ⟨formedGlob, formedRest⟩ := formed
    have restMatches := inductionHypothesis formedRest
    cases glob with
    | literal symbol =>
      refine (patternMatchImpl_literal_item symbol (render rest) address formedGlob).trans ?_
      constructor
      · rintro ⟨after, rfl, accepts⟩
        exact .literal ((restMatches after).mp accepts)
      · rintro ⟨⟩
        exact ⟨_, rfl, (restMatches _).mpr ‹_›⟩
    | any =>
      refine (patternMatchImpl_any (render rest) address).trans ?_
      constructor
      · rintro ⟨symbol, after, rfl, accepts⟩
        exact .any ((restMatches after).mp accepts)
      · rintro ⟨⟩
        exact ⟨_, _, rfl, (restMatches _).mpr ‹_›⟩
    | star => exact patternMatchImpl_star_item rest formedRest restMatches address
    | set text =>
      have shape : render (.set text :: rest) = 91 :: (text ++ 93 :: render rest) := by
        rw [render, renderGlob, List.cons_append, List.append_assoc, List.singleton_append]
      rw [shape]
      refine (patternMatchImpl_set text (render rest) address formedGlob.1).trans ?_
      constructor
      · rintro ⟨symbol, after, rfl, held, accepts⟩
        exact .set held ((restMatches after).mp accepts)
      · rintro ⟨⟩
        exact ⟨_, _, rfl, ‹_›, (restMatches _).mpr ‹_›⟩
    | group first others => exact absurd rfl (single first others)
  | @group first others rest split splitsEach inductionHypothesis =>
    have formedEach := alternative_formed formed
    have shape : render (.group first others :: rest) =
        123 :: (render first ++ renderOthers others ++ render rest) := by
      rw [render, renderGlob, List.cons_append]
    simp only [List.append_nil] at split
    rw [shape, patternMatchImpl_group, split]
    constructor
    · rintro ⟨candidate, member, accepts⟩
      obtain ⟨alternative, chosen, rfl⟩ := List.mem_map.mp member
      exact .group chosen ((inductionHypothesis alternative chosen
        (formedEach alternative chosen) address).mp accepts)
    · rintro ⟨⟩
      rename_i alternative chosen derives
      exact ⟨_, List.mem_map.mpr ⟨alternative, chosen, rfl⟩, (inductionHypothesis alternative chosen
        (formedEach alternative chosen) address).mpr derives⟩

/-! ### Unclosed brackets and braces -/

/-- A bracket that is never closed, or a brace that is never closed and has no comma behind
it. -/
inductive Unclosed : List UInt8 → Prop where
  | bracket {text : List UInt8} : 93 ∉ text → Unclosed (91 :: text)
  | brace {text : List UInt8} : 125 ∉ text → 44 ∉ text → Unclosed (123 :: text)

theorem classLoop_unclosed (ch : UInt8) (matched : Bool) (text : List UInt8) (opened : 93 ∉ text) :
    classLoop ch matched text = none := by
  fun_induction classLoop ch matched text with
  | case1 => rfl
  | case2 => exact absurd List.mem_cons_self opened
  | case3 matched first last text _ _ inductionHypothesis =>
    exact inductionHypothesis fun member =>
      opened (List.mem_cons_of_mem _ (List.mem_cons_of_mem _ (List.mem_cons_of_mem _ member)))
  | case4 matched first last text _ _ inductionHypothesis =>
    exact inductionHypothesis fun member => opened (List.mem_cons_of_mem _ member)
  | case5 => exact absurd List.mem_cons_self opened
  | case6 matched first text _ _ inductionHypothesis =>
    exact inductionHypothesis fun member => opened (List.mem_cons_of_mem _ member)

theorem matchCharClass_unclosed (ch : UInt8) (text : List UInt8) (opened : 93 ∉ text) :
    matchCharClass ch text = none := by
  unfold matchCharClass
  split
  · rw [classLoop_unclosed _ _ _ fun member => opened (List.mem_cons_of_mem _ member)]
    rfl
  · exact classLoop_unclosed _ _ _ opened

theorem alternates_unclosed (rest alternative text : List UInt8) (opened : 125 ∉ text)
    (single : 44 ∉ text) : alternates rest alternative text = [] := by
  induction text generalizing alternative with
  | nil => rfl
  | cons symbol text inductionHypothesis =>
    simp only [List.mem_cons, not_or] at opened single
    rw [alternates, if_neg (Ne.symm opened.1), if_neg (Ne.symm single.1)]
    exact inductionHypothesis _ opened.2 single.2

/-- An unclosed bracket or brace matches nothing. -/
theorem patternMatchImpl_unclosed (tail address : List UInt8) (unclosed : Unclosed tail) :
    patternMatchImpl tail address = false := by
  cases unclosed with
  | @bracket text opened =>
    rw [patternMatchImpl]
    split
    · rename_i hit
      exact nomatch (matchCharClass_unclosed _ text opened).symm.trans hit
    · rfl
  | @brace text opened single =>
    refine Bool.eq_false_of_not_eq_true fun accepts => ?_
    obtain ⟨candidate, member, -⟩ := (patternMatchImpl_group text address).mp accepts
    rw [groupAlternates, alternates_unclosed _ _ text opened single] at member
    exact absurd member List.not_mem_nil

theorem unclosed_ne_nil {tail : List UInt8} (unclosed : Unclosed tail) : tail ≠ [] := by
  cases unclosed <;> exact List.cons_ne_nil _ _

/-- A star in front of a text that matches nothing matches nothing. -/
theorem star_never (text : List UInt8) (left : text ≠ [])
    (never : ∀ address, patternMatchImpl text address ≠ true) (address : List UInt8) :
    patternMatchImpl (42 :: text) address ≠ true := by
  cases text with
  | nil => exact absurd rfl left
  | cons symbol rest =>
    by_cases star : symbol = 42
    · rw [star, patternMatchImpl_star_star, ← star]
      exact never address
    · intro accepts
      obtain ⟨-, kept, -, -, accepted⟩ := (patternMatchImpl_star symbol rest address star).mp accepts
      exact never kept accepted

/-- A pattern that runs into an unclosed bracket or brace matches nothing. -/
theorem patternMatchImpl_never (globs : List OscGlob) (tail : List UInt8) (unclosed : Unclosed tail)
    (splits : Splits tail globs) (formed : WellFormed globs) (address : List UInt8) :
    patternMatchImpl (render globs ++ tail) address ≠ true := by
  induction splits generalizing address with
  | nil =>
    rw [render, List.nil_append, patternMatchImpl_unclosed tail address unclosed]
    exact Bool.false_ne_true
  | @item glob rest single splitsRest inductionHypothesis =>
    obtain ⟨formedGlob, formedRest⟩ := formed
    have never := inductionHypothesis formedRest
    intro accepts
    cases glob with
    | literal symbol =>
      obtain ⟨after, -, accepts⟩ :=
        (patternMatchImpl_literal_item symbol (render rest ++ tail) address formedGlob).mp accepts
      exact never after accepts
    | any =>
      obtain ⟨-, after, -, accepts⟩ :=
        (patternMatchImpl_any (render rest ++ tail) address).mp accepts
      exact never after accepts
    | star =>
      have left : render rest ++ tail ≠ [] := fun empty =>
        unclosed_ne_nil unclosed (List.append_eq_nil_iff.mp empty).2
      exact star_never _ left never address accepts
    | set text =>
      have shape : render (.set text :: rest) ++ tail =
          91 :: (text ++ 93 :: (render rest ++ tail)) := by
        simp only [render, renderGlob, List.cons_append, List.append_assoc, List.nil_append]
      rw [shape] at accepts
      obtain ⟨-, after, -, -, accepts⟩ :=
        (patternMatchImpl_set text (render rest ++ tail) address formedGlob.1).mp accepts
      exact never after accepts
    | group first others => exact absurd rfl (single first others)
  | @group first others rest split splitsEach inductionHypothesis =>
    have formedEach := alternative_formed formed
    have shape : render (.group first others :: rest) ++ tail =
        123 :: (render first ++ renderOthers others ++ render rest ++ tail) := by
      rw [render, renderGlob, List.cons_append, List.cons_append]
    rw [shape]
    intro accepts
    obtain ⟨candidate, member, accepts⟩ := (patternMatchImpl_group _ address).mp accepts
    rw [split] at member
    obtain ⟨alternative, chosen, rfl⟩ := List.mem_map.mp member
    exact inductionHypothesis alternative chosen (formedEach alternative chosen) address accepts

/-! ### Flat groups -/

/-- An item of an alternative whose text holds no brace and no comma. -/
def Flat : OscGlob → Prop
  | .set text => 44 ∉ text ∧ 123 ∉ text ∧ 125 ∉ text
  | .group _ _ => False
  | _ => True

/-- No alternative of a group holds a group, or a set with a brace or a comma, and each fits the
buffer together with what follows the group. -/
def FlatGroups (tail : List UInt8) : List OscGlob → Prop
  | [] => True
  | .group first others :: rest =>
      (∀ alternative ∈ first :: others, (∀ glob ∈ alternative, Flat glob) ∧
        fitsAlternate (render alternative) (render rest ++ tail) = true) ∧ FlatGroups tail rest
  | _ :: rest => FlatGroups tail rest

/-- A text without braces and commas. -/
def Separate (text : List UInt8) : Prop :=
  44 ∉ text ∧ 123 ∉ text ∧ 125 ∉ text

theorem separate_append (first second : List UInt8) (separateFirst : Separate first)
    (separateSecond : Separate second) : Separate (first ++ second) := by
  simp only [Separate, List.mem_append, not_or] at *
  exact ⟨⟨separateFirst.1, separateSecond.1⟩, ⟨separateFirst.2.1, separateSecond.2.1⟩,
    separateFirst.2.2, separateSecond.2.2⟩

theorem flat_separate (glob : OscGlob) (formed : GlobFormed glob) (flat : Flat glob) :
    Separate (renderGlob glob) := by
  cases glob with
  | literal symbol =>
    rw [GlobFormed] at formed
    simp only [List.mem_cons, List.not_mem_nil, or_false, not_or] at formed
    obtain ⟨-, -, -, -, -, opens, closes, comma⟩ := formed
    simp only [Separate, renderGlob, List.mem_singleton]
    exact ⟨Ne.symm comma, Ne.symm opens, Ne.symm closes⟩
  | any => exact ⟨by decide, by decide, by decide⟩
  | star => exact ⟨by decide, by decide, by decide⟩
  | set text =>
    have separateText : Separate text := flat
    have separateOpen : Separate [91] := ⟨by decide, by decide, by decide⟩
    have separateClose : Separate [93] := ⟨by decide, by decide, by decide⟩
    exact separate_append [91] _ separateOpen (separate_append text _ separateText separateClose)
  | group first others => exact flat.elim

theorem flat_separate_all (globs : List OscGlob) (formed : WellFormed globs)
    (flat : ∀ glob ∈ globs, Flat glob) : Separate (render globs) := by
  induction globs with
  | nil => exact ⟨List.not_mem_nil, List.not_mem_nil, List.not_mem_nil⟩
  | cons glob globs inductionHypothesis =>
    exact separate_append _ _ (flat_separate glob formed.1 (flat glob List.mem_cons_self))
      (inductionHypothesis formed.2 fun other member => flat other (List.mem_cons_of_mem _ member))

theorem afterGroup_separate (depth : Nat) (text rest : List UInt8) (separate : Separate text) :
    afterGroup (depth + 1) (text ++ rest) = afterGroup (depth + 1) rest := by
  induction text with
  | nil => rfl
  | cons symbol text inductionHypothesis =>
    simp only [Separate, List.mem_cons, not_or] at separate
    rw [List.cons_append, afterGroup, if_neg (Ne.symm separate.2.1.1), if_neg (Ne.symm separate.2.2.1)]
    exact inductionHypothesis ⟨separate.1.2, separate.2.1.2, separate.2.2.2⟩

theorem alternates_separate (rest alternative text after : List UInt8) (separate : Separate text) :
    alternates rest alternative (text ++ after) = alternates rest (alternative ++ text) after := by
  induction text generalizing alternative with
  | nil => rw [List.nil_append, List.append_nil]
  | cons symbol text inductionHypothesis =>
    simp only [Separate, List.mem_cons, not_or] at separate
    rw [List.cons_append, alternates, if_neg (Ne.symm separate.2.2.1), if_neg (Ne.symm separate.1.1),
      inductionHypothesis _ ⟨separate.1.2, separate.2.1.2, separate.2.2.2⟩, List.append_assoc,
      List.singleton_append]

/-- The scan for the end of a group passes over its flat alternatives. -/
theorem afterGroup_others (others : List (List OscGlob)) (rest : List UInt8)
    (separate : ∀ alternative ∈ others, Separate (render alternative)) :
    afterGroup 1 (renderOthers others ++ rest) = rest := by
  induction others with
  | nil =>
    rw [renderOthers, List.singleton_append, afterGroup, if_neg (by decide), if_pos rfl, afterGroup]
  | cons alternative others inductionHypothesis =>
    rw [renderOthers, List.cons_append, afterGroup, if_neg (by decide), if_neg (by decide),
      List.append_assoc, afterGroup_separate 0 _ _ (separate alternative List.mem_cons_self)]
    exact inductionHypothesis fun other member => separate other (List.mem_cons_of_mem _ member)

/-- The loop over flat alternatives tries each in front of what follows the group. -/
theorem alternates_others (first : List UInt8) (others : List (List OscGlob)) (rest : List UInt8)
    (fitsFirst : fitsAlternate first rest = true)
    (flat : ∀ alternative ∈ others, Separate (render alternative) ∧
      fitsAlternate (render alternative) rest = true) :
    alternates rest first (renderOthers others ++ rest) =
      (first ++ rest) :: others.map fun alternative => render alternative ++ rest := by
  induction others generalizing first with
  | nil =>
    rw [renderOthers, List.singleton_append, alternates, if_pos rfl, if_pos fitsFirst, List.map_nil]
  | cons alternative others inductionHypothesis =>
    obtain ⟨separate, fits⟩ := flat alternative List.mem_cons_self
    rw [renderOthers, List.cons_append, alternates, if_neg (by decide), if_pos rfl,
      if_pos fitsFirst, List.append_assoc, alternates_separate _ _ _ _ separate, List.nil_append,
      inductionHypothesis (render alternative) fits fun other member =>
        flat other (List.mem_cons_of_mem _ member), List.map_cons]

theorem groupAlternates_flat (first : List OscGlob) (others : List (List OscGlob))
    (rest : List UInt8)
    (flat : ∀ alternative ∈ first :: others, Separate (render alternative) ∧
      fitsAlternate (render alternative) rest = true) :
    groupAlternates (render first ++ renderOthers others ++ rest) =
      (first :: others).map fun alternative => render alternative ++ rest := by
  have flatOthers : ∀ alternative ∈ others, Separate (render alternative) ∧
      fitsAlternate (render alternative) rest = true := fun alternative member =>
    flat alternative (List.mem_cons_of_mem _ member)
  obtain ⟨separate, fits⟩ := flat first List.mem_cons_self
  rw [groupAlternates, List.append_assoc, afterGroup_separate 0 _ _ separate,
    afterGroup_others others rest fun alternative member => (flatOthers alternative member).1,
    alternates_separate _ _ _ _ separate, List.nil_append,
    alternates_others (render first) others rest fits flatOthers, List.map_cons]

/-- Items without groups in front of a pattern that is split correctly. -/
theorem splits_append (tail : List UInt8) (globs rest : List OscGlob)
    (flat : ∀ glob ∈ globs, Flat glob) (splits : Splits tail rest) :
    Splits tail (globs ++ rest) := by
  induction globs with
  | nil => exact splits
  | cons glob globs inductionHypothesis =>
    refine .item (fun first others same => ?_)
      (inductionHypothesis fun other member => flat other (List.mem_cons_of_mem _ member))
    have flatGlob := flat glob List.mem_cons_self
    rw [same] at flatGlob
    exact flatGlob.elim

/-- A pattern with flat groups is split correctly. -/
theorem splits_of_flat (tail : List UInt8) (globs : List OscGlob) (formed : WellFormed globs)
    (flat : FlatGroups tail globs) : Splits tail globs := by
  induction globs with
  | nil => exact .nil
  | cons glob rest inductionHypothesis =>
    have formedRest := formed.2
    cases glob with
    | group first others =>
      obtain ⟨flatGroup, flatRest⟩ := flat
      have splits := inductionHypothesis formedRest flatRest
      refine .group ?_ fun alternative member =>
        splits_append tail alternative rest (flatGroup alternative member).1 splits
      rw [List.append_assoc, groupAlternates_flat first others]
      · simp only [render_append, List.append_assoc]
      · intro alternative member
        have formedAlternative := (wellFormed_append _ _).mp (alternative_formed formed _ member)
        exact ⟨flat_separate_all alternative formedAlternative.1 (flatGroup alternative member).1,
          (flatGroup alternative member).2⟩
    | literal symbol => exact .item (fun _ _ same => nomatch same) (inductionHypothesis formedRest flat)
    | any => exact .item (fun _ _ same => nomatch same) (inductionHypothesis formedRest flat)
    | star => exact .item (fun _ _ same => nomatch same) (inductionHypothesis formedRest flat)
    | set text => exact .item (fun _ _ same => nomatch same) (inductionHypothesis formedRest flat)

/-! ### The language of a pattern -/

/-- The pattern `/{J,L}`. -/
def jawOrLip : List OscGlob :=
  [.literal 47, .group [.literal 74] [[.literal 76]]]

theorem jawOrLip_formed (rest : List OscGlob) (formed : WellFormed rest) :
    WellFormed (jawOrLip ++ rest) := by
  have slash : GlobFormed (.literal 47) := by
    rw [GlobFormed]
    decide
  have jaw : GlobFormed (.literal 74) := by
    rw [GlobFormed]
    decide
  have lip : GlobFormed (.literal 76) := by
    rw [GlobFormed]
    decide
  exact ⟨slash, ⟨⟨jaw, trivial⟩, ⟨lip, trivial⟩, trivial⟩, formed⟩

theorem jawOrLip_flat (tail : List UInt8) (rest : List OscGlob) (flat : FlatGroups tail rest)
    (short : (render rest ++ tail).length < 200) : FlatGroups tail (jawOrLip ++ rest) := by
  refine ⟨fun alternative member => ?_, flat⟩
  have single : ∃ symbol, alternative = [.literal symbol] := by
    rcases List.mem_cons.mp member with first | others
    · exact ⟨74, first⟩
    · exact ⟨76, List.mem_singleton.mp others⟩
  obtain ⟨symbol, rfl⟩ := single
  refine ⟨fun glob member => ?_, ?_⟩
  · rw [List.mem_singleton.mp member]
    trivial
  · have one : (render [.literal symbol]).length = 1 := rfl
    have behind : (render ([].append rest) ++ tail).length < 200 := short
    simp only [fitsAlternate, one, Bool.and_eq_true, decide_eq_true_eq]
    omega

end PairDriver.Osc
