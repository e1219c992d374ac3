/-
This file is about messages that travel as numbered fragments. The fragments of several
messages may arrive in any order, mixed with one another, and some may never arrive. As
long as none arrives twice and no two messages share a key, the fragments that arrived
under a key are complete exactly when the last one among them tells their number, and
then their payloads in the order of the parts are the message.
-/

import Mathlib

namespace PairDriver.FragmentReassembly

section FragmentReassembly

variable {Key Item : Type}

/-- One fragment: the key of its message, its place, whether it is the last, and its payload. -/
structure Fragment (Key Item : Type) where
  key : Key
  part : Nat
  last : Bool
  payload : List Item

/-- A message cut into pieces, under its key. -/
structure Message (Key Item : Type) where
  key : Key
  pieces : List (List Item)

def Message.content (message : Message Key Item) : List Item :=
  message.pieces.flatten

def Message.fragments (message : Message Key Item) : List (Fragment Key Item) :=
  message.pieces.mapIdx fun part piece =>
    ⟨message.key, part, part + 1 == message.pieces.length, piece⟩

/-! ### The fragments of one message -/

theorem length_fragments (message : Message Key Item) :
    message.fragments.length = message.pieces.length :=
  List.length_mapIdx

theorem mem_fragments {message : Message Key Item} {fragment : Fragment Key Item} :
    fragment ∈ message.fragments ↔ ∃ place : fragment.part < message.pieces.length,
      fragment.key = message.key ∧
      fragment.last = (fragment.part + 1 == message.pieces.length) ∧
      fragment.payload = message.pieces[fragment.part] := by
  rw [Message.fragments, List.mem_mapIdx]
  constructor
  · rintro ⟨part, place, rfl⟩
    exact ⟨place, rfl, rfl, rfl⟩
  · rintro ⟨place, key, last, payload⟩
    refine ⟨fragment.part, place, ?_⟩
    rw [← key, ← last, ← payload]

theorem parts_fragments (message : Message Key Item) :
    message.fragments.map Fragment.part = List.range message.pieces.length := by
  refine List.ext_getElem ?_ fun index first second => ?_
  · rw [List.length_map, length_fragments, List.length_range]
  · rw [List.getElem_map, List.getElem_range]
    simp only [Message.fragments, List.getElem_mapIdx]

theorem nodup_fragments (message : Message Key Item) : message.fragments.Nodup := by
  refine List.Nodup.of_map Fragment.part ?_
  rw [parts_fragments]
  exact List.nodup_range

/-- A place has one fragment. -/
theorem eq_of_part {message : Message Key Item} {first second : Fragment Key Item}
    (firstOwn : first ∈ message.fragments) (secondOwn : second ∈ message.fragments)
    (same : first.part = second.part) : first = second :=
  List.inj_on_of_nodup_map (parts_fragments message ▸ List.nodup_range) firstOwn secondOwn same

/-! ### The number of fragments -/

/-- The number of fragments as the fragments that arrived tell it: the last one says it. -/
def known (arrived : List (Fragment Key Item)) : Option Nat :=
  arrived.foldl (fun count fragment => if fragment.last then some (fragment.part + 1) else count)
    none

theorem known_append (arrived : List (Fragment Key Item)) (fragment : Fragment Key Item) :
    known (arrived ++ [fragment]) =
      if fragment.last then some (fragment.part + 1) else known arrived :=
  List.foldl_concat _ _ _ _

theorem last_tells {message : Message Key Item} {fragment : Fragment Key Item}
    (own : fragment ∈ message.fragments) (last : fragment.last = true) :
    fragment.part + 1 = message.pieces.length := by
  obtain ⟨place, key, told, payload⟩ := mem_fragments.mp own
  exact beq_iff_eq.mp (told.symm.trans last)

/-- What the fragments of one message tell is its number of pieces. -/
theorem known_eq {message : Message Key Item} (arrived : List (Fragment Key Item))
    (own : ∀ fragment ∈ arrived, fragment ∈ message.fragments) :
    known arrived =
      if arrived.any Fragment.last then some message.pieces.length else none := by
  induction arrived using List.reverseRecOn with
  | nil => rfl
  | append_singleton arrived fragment inductionHypothesis =>
    rw [known_append, List.any_append]
    cases last : fragment.last with
    | false =>
      rw [inductionHypothesis fun other member => own other (List.mem_append_left _ member)]
      simp only [Bool.false_eq_true, if_false, List.any_cons, List.any_nil, last, Bool.or_false]
    | true =>
      have tells := last_tells (own fragment (by simp)) last
      simp only [if_true, List.any_cons, last, Bool.true_or, Bool.or_true, tells]

/-! ### Completeness -/

/-- The payloads in the order of the parts; of two fragments with one part, the first. -/
def inOrder (arrived : List (Fragment Key Item)) : List Item :=
  (List.range arrived.length).flatMap fun part =>
    ((arrived.find? fun fragment => fragment.part == part).map Fragment.payload).getD []

variable {message : Message Key Item} {mine : List (Fragment Key Item)}

theorem perm_of_complete (own : mine.Subperm message.fragments)
    (complete : message.fragments ⊆ mine) : mine.Perm message.fragments :=
  own.antisymm ((nodup_fragments message).subperm complete)

/-- The fragments that arrived are all there are exactly when the last one is among them and
tells their number. -/
theorem known_length_iff (own : mine.Subperm message.fragments) (some : mine ≠ []) :
    known mine = Option.some mine.length ↔ message.fragments ⊆ mine := by
  rw [known_eq mine fun fragment member => own.subset member]
  constructor
  · intro tells
    split at tells
    · have long : message.fragments.length ≤ mine.length := by
        rw [length_fragments, Option.some.inj tells]
      exact (own.perm_of_length_le long).symm.subset
    · exact absurd tells (Option.some_ne_none _).symm
  · intro complete
    have perm := perm_of_complete own complete
    have count : mine.length = message.pieces.length := by
      rw [perm.length_eq, length_fragments]
    have positive : 0 < message.pieces.length := count ▸ List.length_pos_iff.mpr some
    have final : (⟨message.key, message.pieces.length - 1, true,
        message.pieces[message.pieces.length - 1]⟩ : Fragment Key Item) ∈ message.fragments :=
      mem_fragments.mpr ⟨Nat.sub_lt positive Nat.one_pos, rfl,
        (beq_iff_eq.mpr (Nat.sub_add_cancel positive)).symm, rfl⟩
    rw [if_pos (List.any_eq_true.mpr ⟨_, complete final, rfl⟩), count]

theorem find_part (perm : mine.Perm message.fragments) {part : Nat}
    (place : part < message.pieces.length) :
    (mine.find? fun fragment => fragment.part == part).map Fragment.payload =
      some message.pieces[part] := by
  have there : (⟨message.key, part, part + 1 == message.pieces.length,
      message.pieces[part]⟩ : Fragment Key Item) ∈ message.fragments :=
    mem_fragments.mpr ⟨place, rfl, rfl, rfl⟩
  cases found : mine.find? fun fragment => fragment.part == part with
  | none =>
    have missed := List.find?_eq_none.mp found _ (perm.symm.subset there)
    exact absurd (beq_self_eq_true part) missed
  | some fragment =>
    have held := List.find?_some found
    have same : fragment.part = part := beq_iff_eq.mp held
    have one := eq_of_part (perm.subset (List.mem_of_find?_eq_some found)) there same
    rw [one, Option.map_some]

/-- All fragments of a message, in whatever order they arrived, give the message. -/
theorem inOrder_of_complete (own : mine.Subperm message.fragments)
    (complete : message.fragments ⊆ mine) : inOrder mine = message.content := by
  have perm := perm_of_complete own complete
  have pieces : message.pieces =
      (List.range mine.length).map fun part => message.pieces.getD part [] := by
    refine List.ext_getElem ?_ fun index first second => ?_
    · rw [List.length_map, List.length_range, perm.length_eq, length_fragments]
    · rw [List.getElem_map, List.getElem_range, List.getD_eq_getElem _ _ first]
  rw [Message.content, pieces, ← List.flatMap_def, inOrder]
  refine List.flatMap_congr fun part member => ?_
  have place : part < message.pieces.length := by
    rw [← length_fragments, ← perm.length_eq]
    exact List.mem_range.mp member
  rw [find_part perm place, List.getD_eq_getElem _ _ place, Option.getD_some]

/-! ### Several messages at once -/

/-- What may arrive of some messages: their fragments in any order, each at most once. -/
def Arrives (messages : List (Message Key Item)) (arrived : List (Fragment Key Item)) : Prop :=
  arrived.Subperm (messages.flatMap Message.fragments)

/-- What arrived is a fragment of one of the messages. -/
theorem Arrives.sender {messages : List (Message Key Item)} {arrived : List (Fragment Key Item)}
    (arrives : Arrives messages arrived) {fragment : Fragment Key Item}
    (member : fragment ∈ arrived) : ∃ message ∈ messages, fragment ∈ message.fragments :=
  List.mem_flatMap.mp (arrives.subset member)

variable [DecidableEq Key]

/-- The fragments under a key. -/
def under (key : Key) (arrived : List (Fragment Key Item)) : List (Fragment Key Item) :=
  arrived.filter fun fragment => fragment.key = key

theorem under_fragments (message : Message Key Item) :
    under message.key message.fragments = message.fragments := by
  refine List.filter_eq_self.mpr fun fragment member => ?_
  exact decide_eq_true (mem_fragments.mp member).choose_spec.1

theorem under_other {message : Message Key Item} {key : Key} (other : message.key ≠ key) :
    under key message.fragments = [] := by
  refine List.filter_eq_nil_iff.mpr fun fragment member same => ?_
  exact other ((mem_fragments.mp member).choose_spec.1.symm.trans (of_decide_eq_true same))

theorem under_none {messages : List (Message Key Item)} {key : Key}
    (absent : key ∉ messages.map Message.key) :
    under key (messages.flatMap Message.fragments) = [] := by
  rw [under, List.filter_flatMap]
  refine List.flatMap_eq_nil_iff.mpr fun message member => ?_
  exact under_other fun same => absent (List.mem_map.mpr ⟨message, member, same⟩)

theorem under_messages {messages : List (Message Key Item)}
    (distinct : (messages.map Message.key).Nodup) {message : Message Key Item}
    (sent : message ∈ messages) :
    under message.key (messages.flatMap Message.fragments) = message.fragments := by
  induction messages with
  | nil => exact absurd sent List.not_mem_nil
  | cons head rest inductionHypothesis =>
    rw [List.map_cons, List.nodup_cons] at distinct
    rw [List.flatMap_cons, under, List.filter_append]
    rcases List.mem_cons.mp sent with rfl | later
    · have tail := under_none distinct.1
      rw [under] at tail
      rw [tail, List.append_nil]
      exact under_fragments message
    · have other : head.key ≠ message.key := fun same =>
        distinct.1 (same ▸ List.mem_map.mpr ⟨message, later, rfl⟩)
      have first := under_other other
      rw [under] at first
      rw [first, List.nil_append]
      exact inductionHypothesis distinct.2 later

/-- What arrived under the key of a message are fragments of that message, none twice. -/
theorem Arrives.own {messages : List (Message Key Item)} {arrived : List (Fragment Key Item)}
    (arrives : Arrives messages arrived) (distinct : (messages.map Message.key).Nodup)
    {message : Message Key Item} (sent : message ∈ messages) :
    (under message.key arrived).Subperm message.fragments := by
  have kept := List.Subperm.filter (fun fragment => decide (fragment.key = message.key)) arrives
  exact under_messages distinct sent ▸ kept

/-! ### What comes out -/

/-- All fragments of a message are there. -/
def complete (arrived : List (Fragment Key Item)) (message : Message Key Item) : Bool :=
  message.pieces.length != 0 && (under message.key arrived).length == message.pieces.length

/-- What a fragment that arrives after others lets out: the payloads under its key, if the number
is known and there are as many. -/
def release (before : List (Fragment Key Item)) (fragment : Fragment Key Item) :
    List (List Item) :=
  let mine := under fragment.key (before ++ [fragment])
  if known mine = some mine.length then [inOrder mine] else []

/-- What the fragments let out one after the other. -/
def emitted (before : List (Fragment Key Item)) : List (Fragment Key Item) → List (List Item)
  | [] => []
  | fragment :: rest => release before fragment ++ emitted (before ++ [fragment]) rest

theorem emitted_append (before first second : List (Fragment Key Item)) :
    emitted before (first ++ second) =
      emitted before first ++ emitted (before ++ first) second := by
  induction first generalizing before with
  | nil => rw [List.append_nil]; rfl
  | cons fragment rest inductionHypothesis =>
    rw [List.cons_append, emitted, emitted, inductionHypothesis, List.append_assoc,
      List.append_assoc, List.singleton_append]

variable {messages : List (Message Key Item)} {before : List (Fragment Key Item)}
  {fragment : Fragment Key Item}

theorem under_append (key : Key) (first second : List (Fragment Key Item)) :
    under key (first ++ second) = under key first ++ under key second :=
  List.filter_append _ _

theorem under_self (fragment : Fragment Key Item) : under fragment.key [fragment] = [fragment] :=
  List.filter_cons_of_pos (decide_eq_true rfl)

theorem complete_other {message : Message Key Item} (other : message.key ≠ fragment.key) :
    complete (before ++ [fragment]) message = complete before message := by
  have none : under message.key [fragment] = [] :=
    List.filter_cons_of_neg fun same => other (of_decide_eq_true same).symm
  rw [complete, complete, under_append, none, List.append_nil]

/-- A fragment lets its message out exactly if it is the one that completes it. -/
theorem release_eq (arrives : Arrives messages (before ++ [fragment]))
    (distinct : (messages.map Message.key).Nodup) {message : Message Key Item}
    (sent : message ∈ messages) (own : fragment ∈ message.fragments) :
    release before fragment =
        (if complete (before ++ [fragment]) message then [message.content] else []) ∧
      complete before message = false := by
  have key : fragment.key = message.key := (mem_fragments.mp own).choose_spec.1
  have mine := arrives.own distinct sent
  have grown : under message.key (before ++ [fragment]) =
      under message.key before ++ [fragment] := by
    rw [under_append, ← key, under_self]
  have some : under message.key (before ++ [fragment]) ≠ [] := by
    rw [grown]
    exact List.append_ne_nil_of_right_ne_nil _ (List.cons_ne_nil _ _)
  have short : (under message.key before).length + 1 ≤ message.pieces.length := by
    rw [← length_fragments, ← List.length_singleton (a := fragment), ← List.length_append, ← grown]
    exact mine.length_le
  constructor
  · rw [release, key]
    by_cases ready : known (under message.key (before ++ [fragment])) =
        Option.some (under message.key (before ++ [fragment])).length
    · have all := (known_length_iff mine some).mp ready
      have count : (under message.key (before ++ [fragment])).length = message.pieces.length := by
        rw [(perm_of_complete mine all).length_eq, length_fragments]
      have done : complete (before ++ [fragment]) message = true := by
        rw [complete, count, beq_self_eq_true, Bool.and_true, bne_iff_ne]
        omega
      simp only [if_pos ready, done, if_true, inOrder_of_complete mine all]
    · have missing : complete (before ++ [fragment]) message = false := by
        by_contra done
        rw [Bool.not_eq_false, complete, Bool.and_eq_true, beq_iff_eq] at done
        refine ready ((known_length_iff mine some).mpr ?_)
        exact (mine.perm_of_length_le (by rw [length_fragments, done.2])).symm.subset
      simp only [if_neg ready, missing, Bool.false_eq_true, if_false]
  · by_contra done
    rw [Bool.not_eq_false, complete, Bool.and_eq_true, beq_iff_eq] at done
    omega

/-- The messages whose fragments all arrived come out, each once, and nothing else does. -/
theorem emitted_perm {arrived : List (Fragment Key Item)} (arrives : Arrives messages arrived)
    (distinct : (messages.map Message.key).Nodup) :
    (emitted [] arrived).Perm ((messages.filter (complete arrived)).map Message.content) := by
  induction arrived using List.reverseRecOn with
  | nil =>
    have nothing : messages.filter (complete []) = [] := by
      refine List.filter_eq_nil_iff.mpr fun message _ done => ?_
      rw [complete, Bool.and_eq_true, bne_iff_ne, beq_iff_eq] at done
      exact done.1 done.2.symm
    rw [nothing]
    exact List.Perm.refl []
  | append_singleton before fragment inductionHypothesis =>
    have earlier : Arrives messages before :=
      (List.sublist_append_left before [fragment]).subperm.trans arrives
    obtain ⟨message, sent, own⟩ := arrives.sender
      (List.mem_append_right before (List.mem_singleton_self fragment))
    have key : fragment.key = message.key := (mem_fragments.mp own).choose_spec.1
    obtain ⟨released, open'⟩ := release_eq arrives distinct sent own
    obtain ⟨first, second, rfl⟩ := List.append_of_mem sent
    have others : ∀ other ∈ first ++ second,
        complete (before ++ [fragment]) other = complete before other := by
      intro other member
      refine complete_other fun same => ?_
      have apart : (message.key :: (first ++ second).map Message.key).Nodup := by
        refine (List.Perm.nodup_iff ?_).mp distinct
        rw [List.map_append, List.map_append, List.map_cons]
        exact List.perm_middle
      exact (List.nodup_cons.mp apart).1 (key ▸ same ▸ List.mem_map_of_mem member)
    have kept : ∀ part, part ⊆ first ++ second →
        part.filter (complete (before ++ [fragment])) = part.filter (complete before) :=
      fun part inside => List.filter_congr fun other member => others other (inside member)
    have split : emitted [] (before ++ [fragment]) =
        emitted [] before ++ release before fragment := by
      rw [emitted_append, List.nil_append, emitted, emitted, List.append_nil]
    have hypothesis := inductionHypothesis earlier
    rw [List.filter_append, List.filter_cons, if_neg (ne_true_of_eq_false open'), ← kept first
      (List.subset_append_left _ _), ← kept second (List.subset_append_right _ _)] at hypothesis
    rw [split, released, List.filter_append, List.filter_cons]
    by_cases done : complete (before ++ [fragment]) message = true
    · rw [if_pos done, if_pos done]
      refine (hypothesis.append_right _).trans ?_
      rw [← List.map_singleton, ← List.map_append, List.append_assoc]
      refine List.Perm.map _ ((List.perm_append_comm).append_left _)
    · rw [if_neg done, if_neg done, List.append_nil]
      exact hypothesis

/-- Nothing is lost on the way: every message that has pieces comes out. -/
theorem complete_of_perm {arrived : List (Fragment Key Item)}
    (all : arrived.Perm (messages.flatMap Message.fragments))
    (distinct : (messages.map Message.key).Nodup) {message : Message Key Item}
    (sent : message ∈ messages) (pieces : message.pieces ≠ []) :
    complete arrived message = true := by
  have mine : (under message.key arrived).Perm message.fragments :=
    under_messages distinct sent ▸ all.filter _
  rw [complete, mine.length_eq, length_fragments, beq_self_eq_true, Bool.and_true, bne_iff_ne]
  exact fun none => pieces (List.length_eq_zero_iff.mp none)

/-! ### Cutting -/

/-- So many pieces of a size, the last of which may be shorter. -/
def cut (room : Nat) : Nat → List Item → List (List Item)
  | 0, _ => []
  | count + 1, items => items.take room :: cut room count (items.drop room)

theorem length_cut (room count : Nat) (items : List Item) :
    (cut room count items).length = count := by
  induction count generalizing items with
  | zero => rfl
  | succ count inductionHypothesis => rw [cut, List.length_cons, inductionHypothesis]

theorem flatten_cut (room count : Nat) (items : List Item) (enough : items.length ≤ count * room) :
    (cut room count items).flatten = items := by
  induction count generalizing items with
  | zero =>
    rw [Nat.zero_mul, Nat.le_zero, List.length_eq_zero_iff] at enough
    rw [enough]
    rfl
  | succ count inductionHypothesis =>
    have rest : (items.drop room).length ≤ count * room := by
      rw [List.length_drop]
      rw [Nat.succ_mul] at enough
      omega
    rw [cut, List.flatten_cons, inductionHypothesis _ rest, List.take_append_drop]

theorem length_le_of_mem_cut {room count : Nat} {items piece : List Item}
    (member : piece ∈ cut room count items) : piece.length ≤ room := by
  induction count generalizing items with
  | zero => exact absurd member List.not_mem_nil
  | succ count inductionHypothesis =>
    rcases List.mem_cons.mp member with rfl | later
    · exact List.length_take_le room items
    · exact inductionHypothesis later

end FragmentReassembly

end PairDriver.FragmentReassembly
