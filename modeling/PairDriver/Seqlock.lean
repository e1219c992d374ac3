/-
This file is the argument behind a sequence lock, for one slot of words and any
property of its content. A writer makes the generation odd, writes the words one
after the other and makes the generation even again; a reader copies the words
between two reads of the generation. `Stable` is what a copy in progress knows:
as long as the generation is the one it saw, it has copied from a body with the
property. The lemmas say how the steps of both sides keep it, and
`Stable.result` what a copy has when it finds the generation unchanged.
-/

import Mathlib

namespace PairDriver.Seqlock

variable {n : Nat} {Word : Type}

/-! ### Word by word -/

/-- One word is copied. -/
def copyWord (source target : Fin n → Word) (position : Nat) : Fin n → Word :=
  fun word => if word.val = position then source word else target word

/-- The words before a position are those of the source. -/
def AgreesUpTo (position : Nat) (source target : Fin n → Word) : Prop :=
  ∀ word : Fin n, word.val < position → target word = source word

theorem agreesUpTo_zero (source target : Fin n → Word) : AgreesUpTo 0 source target :=
  fun word before => absurd before (Nat.not_lt_zero word.val)

theorem AgreesUpTo.copyWord {position : Nat} {source target : Fin n → Word}
    (agrees : AgreesUpTo position source target) :
    AgreesUpTo (position + 1) source (copyWord source target position) := by
  intro word before
  unfold Seqlock.copyWord
  by_cases here : word.val = position
  · rw [if_pos here]
  · rw [if_neg here]
    exact agrees word (Nat.lt_of_le_of_ne (Nat.le_of_lt_succ before) here)

theorem AgreesUpTo.eq {source target : Fin n → Word} (agrees : AgreesUpTo n source target) :
    target = source := by
  funext word
  exact agrees word word.isLt

/-! ### A copy in progress -/

/-- A copy that saw the generation `seen` and has got `done` words: as long as that is the
generation, the body has the property and the words are its. -/
structure Stable (good : (Fin n → Word) → Prop) (generation seen : Nat) (body out : Fin n → Word)
    (done : Nat) : Prop where
  even : Even seen
  seen_le : seen ≤ generation
  intact : generation = seen → good body ∧ AgreesUpTo done body out

variable {good : (Fin n → Word) → Prop} {generation seen done : Nat} {body out : Fin n → Word}

theorem stable_begin (even : Even generation) (isGood : good body) (out : Fin n → Word) :
    Stable good generation generation body out 0 :=
  ⟨even, Nat.le_refl _, fun _ => ⟨isGood, agreesUpTo_zero body out⟩⟩

theorem Stable.copyWord (stable : Stable good generation seen body out done) :
    Stable good generation seen body (copyWord body out done) (done + 1) := by
  refine ⟨stable.even, stable.seen_le, ?_⟩
  intro same
  obtain ⟨isGood, agrees⟩ := stable.intact same
  exact ⟨isGood, agrees.copyWord⟩

/-- The generation is increased; the body no longer matters. -/
theorem Stable.increase (stable : Stable good generation seen body out done) {later : Nat}
    (increased : generation < later) (written : Fin n → Word) :
    Stable good later seen written out done :=
  ⟨stable.even, stable.seen_le.trans increased.le,
    fun same => absurd same (stable.seen_le.trans_lt increased).ne'⟩

/-- A word is written while the generation is odd. -/
theorem Stable.write (stable : Stable good generation seen body out done) (odd : Odd generation)
    (written : Fin n → Word) : Stable good generation seen written out done := by
  refine ⟨stable.even, stable.seen_le, ?_⟩
  intro same
  exact absurd stable.even (Nat.not_even_iff_odd.mpr (same ▸ odd))

theorem Stable.weaken {better : (Fin n → Word) → Prop}
    (stable : Stable good generation seen body out done)
    (weaker : ∀ content, good content → better content) :
    Stable better generation seen body out done := by
  refine ⟨stable.even, stable.seen_le, ?_⟩
  intro same
  obtain ⟨isGood, agrees⟩ := stable.intact same
  exact ⟨weaker body isGood, agrees⟩

/-- A complete copy that finds the generation it saw has the property. -/
theorem Stable.result (stable : Stable good generation seen body out n)
    (same : generation = seen) : good out := by
  obtain ⟨isGood, agrees⟩ := stable.intact same
  rw [agrees.eq]
  exact isGood

end PairDriver.Seqlock
