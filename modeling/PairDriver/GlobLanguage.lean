/-
This file gives glob patterns their meaning: a pattern is a sequence of literals,
wildcards, character sets and groups of alternatives, possibly nested, and denotes a
language. Nothing here is about one matcher.

A backtracking matcher builds a derivation, item by item. One that never lets a star
take the whole word while other items still wait for the rest builds the derivations
`Derives`; they are sound, and they are all there is except where what waits behind a
star can do without a rest.
-/

import Mathlib

namespace PairDriver.Globs

/-- An item of a pattern over an alphabet, with sets given by some notation for them. A group
has at least one alternative. -/
inductive Glob (Symbol Notation : Type) where
  | literal (symbol : Symbol)
  | any
  | star
  | set (members : Notation)
  | group (first : List (Glob Symbol Notation)) (others : List (List (Glob Symbol Notation)))

section Meaning

variable {Symbol Notation : Type} (contains : Notation → Symbol → Prop)

mutual

/-- The words an item stands for. -/
def Glob.language : Glob Symbol Notation → Language Symbol
  | .literal symbol => {[symbol]}
  | .any => {word | ∃ symbol, word = [symbol]}
  | .star => ⊤
  | .set members => {word | ∃ symbol, contains members symbol ∧ word = [symbol]}
  | .group first others => sequenceLanguage first + alternativesLanguage others

/-- The words a sequence stands for: its items one after the other. -/
def sequenceLanguage : List (Glob Symbol Notation) → Language Symbol
  | [] => 1
  | glob :: globs => glob.language * sequenceLanguage globs

/-- The words some alternatives stand for: those of any of them. -/
def alternativesLanguage : List (List (Glob Symbol Notation)) → Language Symbol
  | [] => 0
  | alternative :: alternatives =>
      sequenceLanguage alternative + alternativesLanguage alternatives

end

/-- A derivation of a word in which every star either ends the pattern or leaves part of the
word to what stands behind it. -/
inductive Derives : List (Glob Symbol Notation) → List Symbol → Prop where
  | done : Derives [] []
  | literal {symbol : Symbol} {rest : List (Glob Symbol Notation)} {word : List Symbol} :
      Derives rest word → Derives (.literal symbol :: rest) (symbol :: word)
  | any {symbol : Symbol} {rest : List (Glob Symbol Notation)} {word : List Symbol} :
      Derives rest word → Derives (.any :: rest) (symbol :: word)
  | set {members : Notation} {symbol : Symbol} {rest : List (Glob Symbol Notation)}
      {word : List Symbol} :
      contains members symbol → Derives rest word → Derives (.set members :: rest) (symbol :: word)
  | starLast {rest : List (Glob Symbol Notation)} {word : List Symbol} :
      (∀ glob ∈ rest, glob = .star) → Derives (.star :: rest) word
  | star {rest : List (Glob Symbol Notation)} {kept : List Symbol} (skipped : List Symbol) :
      kept ≠ [] → Derives rest kept → Derives (.star :: rest) (skipped ++ kept)
  | group {first alternative : List (Glob Symbol Notation)}
      {others : List (List (Glob Symbol Notation))} {rest : List (Glob Symbol Notation)}
      {word : List Symbol} :
      alternative ∈ first :: others → Derives (alternative ++ rest) word →
        Derives (.group first others :: rest) word

variable {contains}

/-! ### Membership -/

theorem mem_sequenceLanguage_nil (word : List Symbol) :
    word ∈ sequenceLanguage contains ([] : List (Glob Symbol Notation)) ↔ word = [] := by
  rw [sequenceLanguage]
  exact Language.mem_one word

theorem mem_sequenceLanguage_cons (glob : Glob Symbol Notation)
    (globs : List (Glob Symbol Notation)) (word : List Symbol) :
    word ∈ sequenceLanguage contains (glob :: globs) ↔
      ∃ front ∈ glob.language contains, ∃ back ∈ sequenceLanguage contains globs,
        front ++ back = word := by
  rw [sequenceLanguage]
  exact Language.mem_mul

theorem mem_sequenceLanguage_append (globs rest : List (Glob Symbol Notation))
    (word : List Symbol) :
    word ∈ sequenceLanguage contains (globs ++ rest) ↔
      ∃ front ∈ sequenceLanguage contains globs, ∃ back ∈ sequenceLanguage contains rest,
        front ++ back = word := by
  have product : sequenceLanguage contains (globs ++ rest) =
      sequenceLanguage contains globs * sequenceLanguage contains rest := by
    induction globs with
    | nil => rw [sequenceLanguage, one_mul, List.nil_append]
    | cons glob globs inductionHypothesis =>
      rw [List.cons_append, sequenceLanguage, sequenceLanguage, inductionHypothesis, mul_assoc]
  rw [product]
  exact Language.mem_mul

theorem mem_alternativesLanguage (alternatives : List (List (Glob Symbol Notation)))
    (word : List Symbol) :
    word ∈ alternativesLanguage contains alternatives ↔
      ∃ alternative ∈ alternatives, word ∈ sequenceLanguage contains alternative := by
  induction alternatives with
  | nil =>
    rw [alternativesLanguage]
    exact ⟨fun member => absurd member (Language.notMem_zero word),
      fun ⟨_, member, _⟩ => absurd member List.not_mem_nil⟩
  | cons alternative alternatives inductionHypothesis =>
    rw [alternativesLanguage, Language.mem_add, inductionHypothesis, List.exists_mem_cons_iff]

theorem mem_group (first : List (Glob Symbol Notation))
    (others : List (List (Glob Symbol Notation))) (word : List Symbol) :
    word ∈ (Glob.group first others).language contains ↔
      ∃ alternative ∈ first :: others, word ∈ sequenceLanguage contains alternative := by
  rw [Glob.language, Language.mem_add, mem_alternativesLanguage, List.exists_mem_cons_iff]

/-- A sequence of stars stands for every word. -/
theorem mem_stars (globs : List (Glob Symbol Notation)) (stars : ∀ glob ∈ globs, glob = .star)
    (word : List Symbol) : word ∈ sequenceLanguage contains (.star :: globs) := by
  have empty : ([] : List Symbol) ∈ sequenceLanguage contains globs := by
    induction globs with
    | nil => exact (mem_sequenceLanguage_nil []).mpr rfl
    | cons glob globs inductionHypothesis =>
      have head := stars glob List.mem_cons_self
      have rest := inductionHypothesis fun other member =>
        stars other (List.mem_cons_of_mem _ member)
      refine (mem_sequenceLanguage_cons glob globs []).mpr ⟨[], ?_, [], rest, rfl⟩
      rw [head, Glob.language]
      exact Set.mem_univ _
  refine (mem_sequenceLanguage_cons .star globs word).mpr
    ⟨word, ?_, [], empty, List.append_nil word⟩
  rw [Glob.language]
  exact Set.mem_univ _

/-! ### Derivations -/

/-- What is derived belongs to the language. -/
theorem Derives.mem_language {globs : List (Glob Symbol Notation)} {word : List Symbol}
    (derives : Derives contains globs word) : word ∈ sequenceLanguage contains globs := by
  induction derives with
  | done => exact (mem_sequenceLanguage_nil []).mpr rfl
  | literal _ member =>
    refine (mem_sequenceLanguage_cons _ _ _).mpr ⟨[_], ?_, _, member, rfl⟩
    rw [Glob.language]
    rfl
  | any _ member =>
    refine (mem_sequenceLanguage_cons _ _ _).mpr ⟨[_], ?_, _, member, rfl⟩
    rw [Glob.language]
    exact ⟨_, rfl⟩
  | set held _ member =>
    refine (mem_sequenceLanguage_cons _ _ _).mpr ⟨[_], ?_, _, member, rfl⟩
    rw [Glob.language]
    exact ⟨_, held, rfl⟩
  | starLast stars => exact mem_stars _ stars _
  | star _ _ _ member =>
    refine (mem_sequenceLanguage_cons _ _ _).mpr ⟨_, ?_, _, member, rfl⟩
    rw [Glob.language]
    exact Set.mem_univ _
  | group chosen _ member =>
    obtain ⟨front, inAlternative, back, inRest, word⟩ :=
      (mem_sequenceLanguage_append _ _ _).mp member
    exact (mem_sequenceLanguage_cons _ _ _).mpr
      ⟨front, (mem_group _ _ _).mpr ⟨_, chosen, inAlternative⟩, back, inRest, word⟩

/-- Two stars in a row derive what one derives. -/
theorem derives_star_star (rest : List (Glob Symbol Notation)) (word : List Symbol) :
    Derives contains (.star :: .star :: rest) word ↔ Derives contains (.star :: rest) word := by
  constructor
  · rintro (_ | _ | _ | _ | stars | ⟨_, left, inner⟩ | _)
    · exact .starLast fun glob member => stars glob (List.mem_cons_of_mem _ member)
    · cases inner with
      | starLast stars => exact .starLast stars
      | star _ kept derives =>
        rw [← List.append_assoc]
        exact .star _ kept derives
  · rintro (_ | _ | _ | _ | stars | ⟨_, left, derives⟩ | _)
    · exact .starLast fun glob member => (List.mem_cons.mp member).elim id (stars glob)
    · exact .star _ left (.star [] left derives)

end Meaning

end PairDriver.Globs
