/-
This file models the router's pattern matcher on the memory it runs on: pointers
into the pattern and the address, and for every group a buffer of 256 bytes on the
stack, in which an alternative is copied in front of what follows the group. Reads
behind a terminator and writes behind a buffer fault, and so does a run that takes
too long.

The content here is that no run faults: with enough fuel the matcher returns what
the matcher on texts returns. The spliced patterns are shorter than the group they
come from, so the length of the pattern is what decreases.
-/

import PairDriver.OscPattern
import PairDriver.TerminatedStrings

namespace PairDriver.Osc

/-! ### The matcher on memory -/

/-- A string of the matcher. -/
abbrev Place := Pointer UInt8

/-- `char alt[256]`. -/
abbrev AltBuffer := SizedBuffer UInt8 256

/-- The loop of `MatchCharClass`. -/
def classLoopAt : Nat → UInt8 → Bool → Place → Except Fault (Bool × Place)
  | 0, _, _, _ => .error .outOfFuel
  | fuel + 1, ch, matched, p => do
    let c1 ← p.read
    if c1 = 0 ∨ c1 = 93 then pure (matched, p)
    else
      let dash ← p.next.read
      if dash ≠ 45 then classLoopAt fuel ch (matched || ch == c1) p.next
      else
        let c2 ← p.next.next.read
        if c2 = 0 ∨ c2 = 93 then classLoopAt fuel ch (matched || ch == c1) p.next
        else classLoopAt fuel ch (matched || (charLe c1 ch && charLe ch c2)) p.next.next.next

/-- `MatchCharClass`; none if the bracket is not closed. -/
def matchCharClassAt (fuel : Nat) (ch : UInt8) (p : Place) :
    Except Fault (Option (Bool × Place)) := do
  let first ← p.read
  let (matched, p) ← classLoopAt fuel ch false (if first = 33 then p.next else p)
  let last ← p.read
  pure (if last ≠ 93 then none else some (if first = 33 then !matched else matched, p.next))

/-- The loop that looks for the brace that closes a group. -/
def afterGroupAt : Nat → Nat → Place → Except Fault Place
  | 0, _, _ => .error .outOfFuel
  | fuel + 1, depth, rest => do
    let symbol ← rest.read
    if symbol = 0 ∨ depth = 0 then pure rest
    else if symbol = 123 then afterGroupAt fuel (depth + 1) rest.next
    else if symbol = 125 then afterGroupAt fuel (depth - 1) rest.next
    else afterGroupAt fuel depth rest.next

/-- Copies the alternative between `start` and `p`, and what is appended to it, into the buffer;
none where the matcher gives up. -/
def spliceAt (fuel : Nat) (alt : AltBuffer) (start p rest : Place) :
    Except Fault (Option AltBuffer) := do
  let len := p.offset - start.offset
  if 255 ≤ len then pure none
  else
    let alt ← alt.memcpy 0 start len
    let rlen ← rest.strlen fuel
    if 256 ≤ len + rlen then pure none
    else
      let alt ← alt.memcpy len rest (rlen + 1)
      pure (some alt)

/-- The loop over consecutive stars. -/
def skipStarsAt : Nat → Place → Except Fault Place
  | 0, _ => .error .outOfFuel
  | fuel + 1, p => do
    let symbol ← p.read
    if symbol = 42 then skipStarsAt fuel p.next else pure p

mutual

/-- `PatternMatchImpl`; `stack` is what the buffer of a group holds before it is written. -/
def patternMatchAt (stack : Place → AltBuffer) : Nat → Place → Place → Except Fault Bool
  | 0, _, _ => .error .outOfFuel
  | fuel + 1, p, a => do
    let symbol ← p.read
    if symbol = 0 then do
      let first ← a.read
      pure (first == 0)
    else if symbol = 63 then do
      let first ← a.read
      if first = 0 then pure false else patternMatchAt stack fuel p.next a.next
    else if symbol = 42 then do
      let p ← skipStarsAt fuel p
      let behind ← p.read
      if behind = 0 then pure true else starLoopAt stack fuel p a
    else if symbol = 91 then do
      let first ← a.read
      let result ← matchCharClassAt fuel first p.next
      match result with
      | some (true, p) => if first = 0 then pure false else patternMatchAt stack fuel p a.next
      | _ => pure false
    else if symbol = 123 then do
      let rest ← afterGroupAt fuel 1 p.next
      matchAlternatesAt stack fuel (stack p) p.next p.next a rest
    else do
      let first ← a.read
      if symbol ≠ first then pure false else patternMatchAt stack fuel p.next a.next

/-- The loop over the positions at which the pattern behind a star can begin. -/
def starLoopAt (stack : Place → AltBuffer) : Nat → Place → Place → Except Fault Bool
  | 0, _, _ => .error .outOfFuel
  | fuel + 1, p, a => do
    let first ← a.read
    if first = 0 then pure false
    else
      let here ← patternMatchAt stack fuel p a
      if here then pure true else starLoopAt stack fuel p a.next

/-- `MatchAlternates`, from the character `p` of the alternative that begins at `start`. -/
def matchAlternatesAt (stack : Place → AltBuffer) :
    Nat → AltBuffer → Place → Place → Place → Place → Except Fault Bool
  | 0, _, _, _, _, _ => .error .outOfFuel
  | fuel + 1, alt, start, p, a, rest => do
    let symbol ← p.read
    if symbol = 0 then pure false
    else if symbol = 125 then do
      let spliced ← spliceAt fuel alt start p p.next
      match spliced with
      | none => pure false
      | some alt => patternMatchAt stack fuel alt.start a
    else if symbol = 44 then do
      let spliced ← spliceAt fuel alt start p rest
      match spliced with
      | none => pure false
      | some alt => do
        let here ← patternMatchAt stack fuel alt.start a
        if here then pure true else matchAlternatesAt stack fuel alt p.next p.next a rest
    else matchAlternatesAt stack fuel alt start p.next a rest

end

/-! ### Loops over one string -/

theorem exists_less {count fuel : Nat} (enough : count < fuel) : ∃ less, fuel = less + 1 :=
  ⟨fuel - 1, by omega⟩

/-- The loop stops at the closing bracket if there is one, and else at the terminator. -/
theorem classLoopAt_eq (ch : UInt8) (matched : Bool) {text : List UInt8} {p : Place} {fuel : Nat}
    (points : p.Points text) (enough : text.length < fuel) :
    ∃ hit q, classLoopAt fuel ch matched p = .ok (hit, q) ∧
      match classLoop ch matched text with
      | some (found, rest) => hit = found ∧ q.Points (93 :: rest)
      | none => q.Points [] := by
  obtain ⟨fuel, rfl⟩ := exists_less enough
  fun_induction classLoop ch matched text generalizing p fuel with
  | case1 matched =>
    refine ⟨matched, p, ?_, points⟩
    rw [classLoopAt, points.read, ok_bind]
    exact if_pos (Or.inl rfl)
  | case2 matched last rest =>
    refine ⟨matched, p, ?_, rfl, points⟩
    rw [classLoopAt, points.read, ok_bind]
    exact if_pos (Or.inr rfl)
  | case3 matched first last rest other inner inductionHypothesis =>
    obtain ⟨less, rfl⟩ := exists_less (Nat.lt_of_succ_lt_succ enough)
    simp only [List.length_cons] at enough
    obtain ⟨hit, q, run, stop⟩ := inductionHypothesis points.next.next.next less (by omega)
    refine ⟨hit, q, ?_, stop⟩
    rw [classLoopAt, points.read, ok_bind, points.next.read, ok_bind, points.next.next.read,
      ok_bind, ← run]
    have lastPlain : ¬(last = 0 ∨ last = 93) := not_or.mpr ⟨points.next.next.ne_zero, inner⟩
    have firstPlain : ¬(first = 0 ∨ first = 93) := not_or.mpr ⟨points.ne_zero, other⟩
    simp only [List.headD_cons, firstPlain, lastPlain, if_false, ne_eq, not_true_eq_false]
  | case4 matched first last rest other closes inductionHypothesis =>
    obtain ⟨less, rfl⟩ := exists_less (Nat.lt_of_succ_lt_succ enough)
    simp only [List.length_cons] at enough
    obtain ⟨hit, q, run, stop⟩ := inductionHypothesis points.next less (by simp; omega)
    refine ⟨hit, q, ?_, stop⟩
    rw [classLoopAt, points.read, ok_bind, points.next.read, ok_bind, points.next.next.read,
      ok_bind, ← run]
    have firstPlain : ¬(first = 0 ∨ first = 93) := not_or.mpr ⟨points.ne_zero, other⟩
    have lastCloses : last = 0 ∨ last = 93 := Or.inr (not_not.mp closes)
    simp only [List.headD_cons, firstPlain, lastCloses, if_false, if_true, ne_eq,
      not_true_eq_false]
  | case5 matched rest =>
    refine ⟨matched, p, ?_, rfl, points⟩
    rw [classLoopAt, points.read, ok_bind]
    exact if_pos (Or.inr rfl)
  | case6 matched first rest shape other inductionHypothesis =>
    obtain ⟨less, rfl⟩ := exists_less (Nat.lt_of_succ_lt_succ enough)
    obtain ⟨hit, q, run, stop⟩ := inductionHypothesis points.next less
      (Nat.lt_of_succ_lt_succ enough)
    refine ⟨hit, q, ?_, stop⟩
    have firstPlain : ¬(first = 0 ∨ first = 93) := not_or.mpr ⟨points.ne_zero, other⟩
    rw [classLoopAt, points.read, ok_bind, points.next.read, ok_bind, ← run, List.headD_cons,
      if_neg firstPlain]
    split
    · rfl
    · next dash =>
      rcases rest with _ | ⟨second, _ | ⟨last, text⟩⟩
      · exact absurd dash (by decide)
      · rw [points.next.next.read]
        rfl
      · have same : second = 45 := not_not.mp dash
        exact absurd (congrArg (· :: last :: text) same) (shape last text)

/-- The character class is read as in the text, and left behind its closing bracket. -/
theorem matchCharClassAt_eq (ch : UInt8) {text : List UInt8} {p : Place} {fuel : Nat}
    (points : p.Points text) (enough : text.length < fuel) :
    ∃ result, matchCharClassAt fuel ch p = .ok result ∧
      match matchCharClass ch text with
      | some (hit, rest) => ∃ q, result = some (hit, q) ∧ q.Points rest
      | none => result = none := by
  rw [matchCharClassAt, points.read, ok_bind]
  by_cases negated : text.headD 0 = 33
  · obtain ⟨rest, rfl⟩ : ∃ rest, text = 33 :: rest := by
      cases text with
      | nil => exact absurd negated (by decide)
      | cons first rest => exact ⟨rest, by rw [← negated]; rfl⟩
    obtain ⟨matched, q, run, stop⟩ := classLoopAt_eq ch false points.next
      (Nat.lt_of_succ_lt enough)
    have inverted : matchCharClass ch (33 :: rest) =
        (classLoop ch false rest).map fun closed => (!closed.1, closed.2) := rfl
    rw [if_pos negated, run, ok_bind, inverted]
    dsimp only
    cases loop : classLoop ch false rest with
    | none =>
      rw [loop] at stop
      rw [stop.read]
      exact ⟨none, rfl, rfl⟩
    | some closed =>
      obtain ⟨found, behind⟩ := closed
      rw [loop] at stop
      obtain ⟨rfl, after⟩ := stop
      rw [after.read]
      exact ⟨some (!matched, q.next), rfl, q.next, rfl, after.next⟩
  · obtain ⟨matched, q, run, stop⟩ := classLoopAt_eq ch false points enough
    have plain : matchCharClass ch text = classLoop ch false text := by
      unfold matchCharClass
      split
      · exact absurd rfl negated
      · rfl
    rw [if_neg negated, run, ok_bind, plain]
    dsimp only
    cases loop : classLoop ch false text with
    | none =>
      rw [loop] at stop
      rw [stop.read]
      exact ⟨none, rfl, rfl⟩
    | some closed =>
      obtain ⟨found, behind⟩ := closed
      rw [loop] at stop
      obtain ⟨rfl, after⟩ := stop
      rw [after.read]
      refine ⟨some (matched, q.next), ?_, q.next, rfl, after.next⟩
      rw [ok_bind, if_neg negated]
      rfl

theorem afterGroupAt_eq (depth : Nat) {text : List UInt8} {rest : Place} {fuel : Nat}
    (points : rest.Points text) (enough : text.length < fuel) :
    ∃ q, afterGroupAt fuel depth rest = .ok q ∧ q.Points (afterGroup depth text) := by
  obtain ⟨fuel, rfl⟩ := exists_less enough
  fun_induction afterGroup depth text generalizing rest fuel with
  | case1 text =>
    refine ⟨rest, ?_, points⟩
    rw [afterGroupAt, points.read, ok_bind]
    exact if_pos (Or.inr rfl)
  | case2 depth =>
    refine ⟨rest, ?_, points⟩
    rw [afterGroupAt, points.read, ok_bind]
    exact if_pos (Or.inl rfl)
  | case3 depth text inductionHypothesis =>
    obtain ⟨less, rfl⟩ := exists_less (Nat.lt_of_succ_lt_succ enough)
    obtain ⟨q, run, stop⟩ := inductionHypothesis points.next less (Nat.lt_of_succ_lt_succ enough)
    refine ⟨q, ?_, stop⟩
    rw [afterGroupAt, points.read, ok_bind, ← run]
    rfl
  | case4 depth text other inductionHypothesis =>
    obtain ⟨less, rfl⟩ := exists_less (Nat.lt_of_succ_lt_succ enough)
    obtain ⟨q, run, stop⟩ := inductionHypothesis points.next less (Nat.lt_of_succ_lt_succ enough)
    refine ⟨q, ?_, stop⟩
    rw [afterGroupAt, points.read, ok_bind, ← run]
    rfl
  | case5 depth symbol text unopened unclosed inductionHypothesis =>
    obtain ⟨less, rfl⟩ := exists_less (Nat.lt_of_succ_lt_succ enough)
    obtain ⟨q, run, stop⟩ := inductionHypothesis points.next less (Nat.lt_of_succ_lt_succ enough)
    refine ⟨q, ?_, stop⟩
    have goes : ¬(symbol = 0 ∨ depth + 1 = 0) := not_or.mpr ⟨points.ne_zero, Nat.succ_ne_zero _⟩
    rw [afterGroupAt, points.read, ok_bind, ← run, List.headD_cons, if_neg goes, if_neg unopened,
      if_neg unclosed]

theorem skipStarsAt_eq {text : List UInt8} {p : Place} {fuel : Nat}
    (points : p.Points text) (enough : text.length < fuel) :
    ∃ q, skipStarsAt fuel p = .ok q ∧ q.Points (text.dropWhile (· == 42)) := by
  induction text generalizing p fuel with
  | nil =>
    obtain ⟨less, rfl⟩ := exists_less enough
    refine ⟨p, ?_, points⟩
    rw [skipStarsAt, points.read]
    rfl
  | cons symbol text inductionHypothesis =>
    obtain ⟨less, rfl⟩ := exists_less enough
    rw [skipStarsAt, points.read, ok_bind, List.headD_cons, List.dropWhile_cons]
    by_cases star : symbol = 42
    · rw [if_pos star, if_pos (beq_iff_eq.mpr star)]
      exact inductionHypothesis points.next (Nat.lt_of_succ_lt_succ enough)
    · rw [if_neg star, if_neg (fun same => star (beq_iff_eq.mp same))]
      exact ⟨p, rfl, points⟩

/-! ### The buffer of a group -/

/-- An alternative and what is appended to it are copied if they fit the buffer, and then they
are the string it holds. -/
theorem spliceAt_eq {alternative text appended : List UInt8} {start p rest : Place} {fuel : Nat}
    (alt : AltBuffer) (begins : start.Points (alternative ++ text))
    (distance : p.offset = start.offset + alternative.length) (points : rest.Points appended)
    (enough : appended.length < fuel) :
    if fitsAlternate alternative appended then
      ∃ filled : AltBuffer, spliceAt fuel alt start p rest = .ok (some filled) ∧
        filled.start.Points (alternative ++ appended)
    else spliceAt fuel alt start p rest = .ok none := by
  have len : p.offset - start.offset = alternative.length := by omega
  unfold spliceAt fitsAlternate
  rw [len]
  dsimp only
  by_cases long : 255 ≤ alternative.length
  · have unfit : ¬alternative.length < 255 := not_lt.mpr long
    simp only [unfit, long, decide_false, Bool.false_and, Bool.false_eq_true, if_false, if_true]
    rfl
  · rw [if_neg long, points.strlen enough]
    have short : alternative.length < 255 := not_le.mp long
    by_cases wide : 256 ≤ alternative.length + appended.length
    · have unfit : ¬alternative.length + appended.length < 256 := not_lt.mpr wide
      have headFits : 0 + alternative.length ≤ 256 := by omega
      obtain ⟨begun, first, -⟩ := alt.memcpy_text begins headFits
      rw [first, ok_bind, ok_bind, if_pos wide]
      simp only [unfit, decide_false, Bool.and_false, Bool.false_eq_true, if_false]
      rfl
    · have fits : alternative.length + appended.length < 256 := not_le.mp wide
      obtain ⟨begun, filled, first, second, string⟩ := alt.memcpy_string begins points fits
      rw [first, ok_bind, ok_bind, if_neg wide, second]
      simp only [short, fits, decide_true, Bool.and_self, if_true]
      exact ⟨filled, rfl, string⟩

/-! ### Runs -/

/-- Fuel for a pattern and an address of these lengths. -/
def fuelFor (pattern address : Nat) : Nat := (pattern + 1) * (pattern + address + 3)

theorem fuelFor_succ (pattern address : Nat) :
    fuelFor (pattern + 1) address = fuelFor pattern address + (2 * pattern + address + 5) := by
  unfold fuelFor
  ring

theorem fuelFor_mono {pattern pattern' address address' : Nat} (patternLe : pattern ≤ pattern')
    (addressLe : address ≤ address') : fuelFor pattern address ≤ fuelFor pattern' address' := by
  unfold fuelFor
  exact Nat.mul_le_mul (by omega) (by omega)

theorem lt_fuelFor (pattern address : Nat) : pattern < fuelFor pattern address := by
  unfold fuelFor
  nlinarith

theorem patternMatchImpl_group_eq (text address : List UInt8) :
    patternMatchImpl (123 :: text) address =
      (groupAlternates text).any fun candidate => patternMatchImpl candidate address := by
  rw [Bool.eq_iff_iff, patternMatchImpl_group, List.any_eq_true]

theorem patternMatchImpl_literal_eq {symbol : UInt8} {rest address : List UInt8}
    (plain : symbol ∉ [63, 42, 91, 123]) :
    patternMatchImpl (symbol :: rest) address =
      match address with
      | [] => false
      | first :: after => symbol == first && patternMatchImpl rest after := by
  rw [Bool.eq_iff_iff, patternMatchImpl_literal symbol rest address plain]
  cases address with
  | nil => simp
  | cons first after =>
    simp only [List.cons.injEq, Bool.and_eq_true, beq_iff_eq]
    constructor
    · rintro ⟨_, ⟨rfl, rfl⟩, accepts⟩
      exact ⟨rfl, accepts⟩
    · rintro ⟨rfl, accepts⟩
      exact ⟨after, ⟨rfl, rfl⟩, accepts⟩

theorem patternMatchImpl_class {text behind address : List UInt8}
    (scanned : matchCharClass (address.headD 0) text = some (true, behind)) :
    patternMatchImpl (91 :: text) address =
      match address with
      | [] => false
      | _ :: after => patternMatchImpl behind after := by
  rw [patternMatchImpl]
  split
  · next closed =>
    rw [scanned] at closed
    cases closed
    rfl
  · next missed => exact absurd scanned (missed behind)

theorem patternMatchImpl_unread {text address : List UInt8}
    (unread : ∀ behind, matchCharClass (address.headD 0) text ≠ some (true, behind)) :
    patternMatchImpl (91 :: text) address = false := by
  rw [patternMatchImpl]
  split
  · next closed => exact absurd closed (unread _)
  · rfl

/-- The loop behind a star tries the positions in turn. -/
theorem starLoopAt_eq (stack : Place → AltBuffer) {accepts : List UInt8 → Bool}
    {address : List UInt8} {p a : Place} {needed fuel : Nat}
    (tried : ∀ {a : Place} {rest : List UInt8} {fuel : Nat}, a.Points rest →
      rest.length ≤ address.length → needed ≤ fuel →
      patternMatchAt stack fuel p a = .ok (accepts rest))
    (points : a.Points address) (enough : needed + address.length < fuel) :
    starLoopAt stack fuel p a = .ok (anySuffix accepts address) := by
  induction address generalizing a fuel with
  | nil =>
    obtain ⟨less, rfl⟩ := exists_less enough
    rw [starLoopAt, points.read]
    rfl
  | cons symbol rest inductionHypothesis =>
    obtain ⟨less, rfl⟩ := exists_less enough
    rw [List.length_cons] at enough
    have here := tried points le_rfl (show needed ≤ less by omega)
    have later := inductionHypothesis
      (fun points shorter => tried points (shorter.trans (Nat.le_succ _))) points.next
      (show needed + rest.length < less by omega)
    rw [starLoopAt, points.read, ok_bind, List.headD_cons, if_neg points.ne_zero, here, ok_bind,
      later, anySuffix]
    cases accepts (symbol :: rest) with
    | true => rfl
    | false => rfl

/-- The alternatives of a group are tried in turn, each with what it is spliced onto. -/
theorem matchAlternatesAt_eq (stack : Place → AltBuffer) {address appended : List UInt8}
    {a rest : Place} {longest needed : Nat}
    (tried : ∀ {p : Place} {candidate : List UInt8} {fuel : Nat}, p.Points candidate →
      candidate.length ≤ longest → needed ≤ fuel →
      patternMatchAt stack fuel p a = .ok (patternMatchImpl candidate address))
    (restPoints : rest.Points appended) (room : appended.length < needed)
    {text alternative : List UInt8} {start p : Place} {fuel : Nat} (alt : AltBuffer)
    (begins : start.Points (alternative ++ text))
    (distance : p.offset = start.offset + alternative.length) (points : p.Points text)
    (short : ∀ candidate ∈ alternates appended alternative text, candidate.length ≤ longest)
    (enough : needed + text.length < fuel) :
    matchAlternatesAt stack fuel alt start p a rest =
      .ok ((alternates appended alternative text).any fun candidate =>
        patternMatchImpl candidate address) := by
  induction text generalizing alternative start p fuel alt with
  | nil =>
    obtain ⟨less, rfl⟩ := exists_less enough
    rw [matchAlternatesAt, points.read]
    rfl
  | cons symbol text inductionHypothesis =>
    obtain ⟨less, rfl⟩ := exists_less enough
    rw [List.length_cons] at enough
    rw [matchAlternatesAt, points.read, ok_bind, List.headD_cons, if_neg points.ne_zero]
    unfold alternates at short ⊢
    by_cases closes : symbol = 125
    · rw [if_pos closes] at short ⊢
      rw [if_pos closes]
      have spliced := spliceAt_eq alt begins distance points.next
        (show text.length < less by omega)
      cases fit : fitsAlternate alternative text with
      | true =>
        rw [fit, if_pos rfl] at spliced short
        obtain ⟨filled, run, string⟩ := spliced
        rw [run, ok_bind, if_pos rfl, List.any_cons, List.any_nil, Bool.or_false]
        exact tried string (short _ (List.mem_singleton_self _)) (by omega)
      | false =>
        rw [fit, if_neg Bool.false_ne_true] at spliced
        rw [spliced, if_neg Bool.false_ne_true]
        rfl
    · rw [if_neg closes] at short ⊢
      rw [if_neg closes]
      by_cases comma : symbol = 44
      · rw [if_pos comma] at short ⊢
        rw [if_pos comma]
        have spliced := spliceAt_eq alt begins distance restPoints
          (show appended.length < less by omega)
        cases fit : fitsAlternate alternative appended with
        | true =>
          rw [fit, if_pos rfl] at spliced short
          obtain ⟨filled, run, string⟩ := spliced
          have here := tried string (short _ List.mem_cons_self)
            (show needed ≤ less by omega)
          have others : ∀ candidate ∈ alternates appended [] text, candidate.length ≤ longest :=
            fun candidate member => short candidate (List.mem_cons_of_mem _ member)
          have later := inductionHypothesis filled
            (show p.next.Points ([] ++ text) from points.next) rfl points.next others
            (show needed + text.length < less by omega)
          rw [run, ok_bind, if_pos rfl, List.any_cons]
          dsimp only
          rw [here, ok_bind, later]
          cases patternMatchImpl (alternative ++ appended) address with
          | true => rfl
          | false => rfl
        | false =>
          rw [fit, if_neg Bool.false_ne_true] at spliced
          rw [spliced, if_neg Bool.false_ne_true]
          rfl
      · rw [if_neg comma] at short ⊢
        rw [if_neg comma]
        refine inductionHypothesis alt ?_ ?_ points.next short (by omega)
        · rw [← List.append_cons]
          exact begins
        · rw [Pointer.next, distance, List.length_append, List.length_singleton, Nat.add_assoc]

/-- Runs on patterns and addresses up to these lengths return what the matcher on texts does. -/
def Agrees (stack : Place → AltBuffer) (longest widest needed : Nat) : Prop :=
  ∀ {pattern address : List UInt8} {p a : Place} {fuel : Nat}, p.Points pattern →
    a.Points address → pattern.length ≤ longest → address.length ≤ widest → needed ≤ fuel →
    patternMatchAt stack fuel p a = .ok (patternMatchImpl pattern address)

section Items

variable {stack : Place → AltBuffer} {rest address : List UInt8} {p a : Place} {needed less : Nat}

theorem anyAt_eq (agrees : Agrees stack rest.length address.length needed)
    (points : p.Points (63 :: rest)) (addressPoints : a.Points address) (enough : needed ≤ less) :
    patternMatchAt stack (less + 1) p a = .ok (patternMatchImpl (63 :: rest) address) := by
  rw [patternMatchAt, points.read, ok_bind]
  show (a.read >>= _) = _
  rw [addressPoints.read, ok_bind]
  cases address with
  | nil =>
    rw [patternMatchImpl]
    rfl
  | cons first after =>
    rw [patternMatchImpl, List.headD_cons, if_neg addressPoints.ne_zero]
    exact agrees points.next addressPoints.next le_rfl (Nat.le_succ _) enough

theorem starAt_eq (agrees : Agrees stack rest.length address.length needed)
    (points : p.Points (42 :: rest)) (addressPoints : a.Points address)
    (room : rest.length < needed) (enough : needed + address.length + 1 < less) :
    patternMatchAt stack (less + 1) p a = .ok (patternMatchImpl (42 :: rest) address) := by
  obtain ⟨q, skipped, behind⟩ := skipStarsAt_eq points
    (show (42 :: rest).length < less by rw [List.length_cons]; omega)
  have same : (42 :: rest).dropWhile (· == 42) = rest.dropWhile (· == 42) := rfl
  rw [same] at behind
  have shorter : (rest.dropWhile (· == 42)).length ≤ rest.length :=
    (List.dropWhile_suffix _).length_le
  have looped := starLoopAt_eq stack
    (fun points addressLe enough => agrees behind points shorter addressLe enough) addressPoints
    (show needed + address.length < less by omega)
  rw [patternMatchAt, points.read, ok_bind, patternMatchImpl]
  show (skipStarsAt less p >>= _) = _
  rw [skipped, ok_bind, behind.read, ok_bind]
  cases after : rest.dropWhile (· == 42) with
  | nil => rfl
  | cons symbol text =>
    rw [after] at behind looped
    rw [List.headD_cons, if_neg behind.ne_zero, looped]
    rfl

theorem classAt_eq (agrees : Agrees stack rest.length address.length needed)
    (points : p.Points (91 :: rest)) (addressPoints : a.Points address)
    (room : rest.length < needed) (enough : needed ≤ less) :
    patternMatchAt stack (less + 1) p a = .ok (patternMatchImpl (91 :: rest) address) := by
  obtain ⟨result, run, read⟩ := matchCharClassAt_eq (address.headD 0) points.next
    (show rest.length < less by omega)
  rw [patternMatchAt, points.read, ok_bind]
  show (a.read >>= _) = _
  rw [addressPoints.read, ok_bind, run, ok_bind]
  cases scanned : matchCharClass (address.headD 0) rest with
  | none =>
    rw [scanned] at read
    rw [read, patternMatchImpl_unread (by simp only [scanned]; simp)]
    rfl
  | some closed =>
    obtain ⟨hit, behind⟩ := closed
    rw [scanned] at read
    obtain ⟨q, rfl, after⟩ := read
    have shorter := matchCharClass_length _ _ _ _ scanned
    cases hit with
    | false =>
      rw [patternMatchImpl_unread (by simp only [scanned]; simp)]
      rfl
    | true =>
      rw [patternMatchImpl_class scanned]
      cases address with
      | nil => rfl
      | cons first later =>
        dsimp only
        rw [List.headD_cons, if_neg addressPoints.ne_zero]
        exact agrees after addressPoints.next shorter.le (Nat.le_succ _) enough

theorem groupAt_eq (agrees : Agrees stack rest.length address.length needed)
    (points : p.Points (123 :: rest)) (addressPoints : a.Points address)
    (room : rest.length < needed) (enough : needed + rest.length < less) :
    patternMatchAt stack (less + 1) p a = .ok (patternMatchImpl (123 :: rest) address) := by
  obtain ⟨behind, found, behindPoints⟩ := afterGroupAt_eq 1 points.next
    (show rest.length < less by omega)
  have shorter := afterGroup_length 1 rest
  rw [patternMatchAt, points.read, ok_bind, patternMatchImpl_group_eq, groupAlternates]
  show (afterGroupAt less 1 p.next >>= _) = _
  rw [found, ok_bind]
  refine matchAlternatesAt_eq stack
    (fun points candidateLe enough => agrees points addressPoints candidateLe le_rfl enough)
    behindPoints (by omega) (stack p) points.next rfl points.next ?_ enough
  intro candidate member
  exact (groupAlternates_length rest candidate member).le

theorem literalAt_eq {symbol : UInt8} (agrees : Agrees stack rest.length address.length needed)
    (points : p.Points (symbol :: rest)) (addressPoints : a.Points address)
    (plain : symbol ∉ [63, 42, 91, 123]) (enough : needed ≤ less) :
    patternMatchAt stack (less + 1) p a = .ok (patternMatchImpl (symbol :: rest) address) := by
  have special := plain
  simp only [List.mem_cons, List.not_mem_nil, or_false, not_or] at special
  obtain ⟨query, star, bracket, brace⟩ := special
  rw [patternMatchAt, points.read, ok_bind, List.headD_cons, if_neg points.ne_zero, if_neg query,
    if_neg star, if_neg bracket, if_neg brace, addressPoints.read, ok_bind,
    patternMatchImpl_literal_eq plain]
  cases address with
  | nil => exact if_pos points.ne_zero
  | cons first after =>
    by_cases same : symbol = first
    · dsimp only
      rw [List.headD_cons, if_neg (not_not.mpr same), same, beq_self_eq_true, Bool.true_and]
      exact agrees points.next addressPoints.next le_rfl (Nat.le_succ _) enough
    · dsimp only
      rw [List.headD_cons, if_pos same, beq_false_of_ne same, Bool.false_and]
      rfl

end Items

/-- With enough fuel the matcher on memory returns what the matcher on texts returns. -/
theorem patternMatchAt_eq (stack : Place → AltBuffer) {pattern address : List UInt8} {p a : Place}
    {fuel : Nat} (points : p.Points pattern) (addressPoints : a.Points address)
    (enough : fuelFor pattern.length address.length ≤ fuel) :
    patternMatchAt stack fuel p a = .ok (patternMatchImpl pattern address) := by
  induction size : pattern.length using Nat.strong_induction_on
    generalizing pattern address p a fuel with
  | _ size inductionHypothesis =>
  subst size
  obtain ⟨less, rfl⟩ := exists_less ((lt_fuelFor _ _).trans_le enough)
  cases pattern with
  | nil =>
    rw [patternMatchAt, points.read, ok_bind, List.headD_nil, if_pos rfl, addressPoints.read,
      patternMatchImpl_nil]
    cases address with
    | nil => rfl
    | cons first after =>
      have nonzero : (first == 0) = false := beq_false_of_ne addressPoints.ne_zero
      rw [ok_bind, List.headD_cons, nonzero]
      rfl
  | cons symbol rest =>
    rw [List.length_cons, fuelFor_succ] at enough
    have room := lt_fuelFor rest.length address.length
    have agrees : Agrees stack rest.length address.length
        (fuelFor rest.length address.length) := by
      intro text address' q b fuel textPoints addressPoints' textLe addressLe enough'
      exact inductionHypothesis text.length (Nat.lt_succ_of_le textLe) textPoints addressPoints'
        ((fuelFor_mono textLe addressLe).trans enough') rfl
    by_cases special : symbol ∈ [63, 42, 91, 123]
    · simp only [List.mem_cons, List.not_mem_nil, or_false] at special
      rcases special with rfl | rfl | rfl | rfl
      · exact anyAt_eq agrees points addressPoints (by omega)
      · exact starAt_eq agrees points addressPoints room (by omega)
      · exact classAt_eq agrees points addressPoints room (by omega)
      · exact groupAt_eq agrees points addressPoints room (by omega)
    · exact literalAt_eq agrees points addressPoints special (by omega)

/-! ### Strings of the caller -/

/-- A buffer that holds a C string; behind the terminator it may hold anything. -/
structure CString where
  buffer : List UInt8
  terminated : 0 ∈ buffer

def CString.start (string : CString) : Place := ⟨string.buffer, 0⟩

theorem CString.points (string : CString) : string.start.Points (cString string.buffer) := by
  obtain ⟨before, after, content, plain⟩ := List.eq_append_cons_of_mem string.terminated
  have text : cString string.buffer = before := by rw [content, cString_append before after plain]
  rw [text]
  exact ⟨[], after, content, rfl, List.not_mem_nil, plain⟩

/-- `OscPatternMatch`, on pointers that may be null. -/
def oscPatternMatchAt (stack : Place → AltBuffer) (fuel : Nat) (pattern address : Option CString) :
    Except Fault Bool :=
  match pattern, address with
  | some pattern, some address => patternMatchAt stack fuel pattern.start address.start
  | _, _ => pure false

/-- Whatever the strings, and whatever the stack holds, the matcher ends, reads neither string
behind its terminator and writes nothing behind the buffer; it returns what the matcher on texts
returns, and false for a null pointer. -/
theorem oscPatternMatchAt_safe (stack : Place → AltBuffer) (pattern address : Option CString) :
    ∃ enough, ∀ more, oscPatternMatchAt stack (enough + more) pattern address =
      .ok (match pattern, address with
        | some pattern, some address => oscPatternMatch pattern.buffer address.buffer
        | _, _ => false) := by
  cases pattern with
  | none => exact ⟨0, fun _ => rfl⟩
  | some pattern =>
    cases address with
    | none => exact ⟨0, fun _ => rfl⟩
    | some address =>
      exact ⟨fuelFor (cString pattern.buffer).length (cString address.buffer).length,
        fun more => patternMatchAt_eq stack pattern.points address.points (Nat.le_add_right _ more)⟩

end PairDriver.Osc
