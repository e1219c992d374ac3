/-
This file compares the two ways the driver tells from a path that a component is an axis
of a stick. The axis role looks at the last two characters alone. The classification of
the path, which decides what is learned and corrected, also wants a stick or a pad in the
name, because not every path with such an ending is a stick, and passes over sensors and
triggers first. So the sticks of the classification all have a role, and the paths with a
role that are no sticks are those whose names say otherwise.
-/

import PairDriver.InputComponents

namespace PairDriver.InputHealth

/-! ### Endings -/

/-- The last two characters of a text, after its front. -/
theorem eq_append_pair {path : Text} (long : 2 ≤ path.length) :
    ∃ front slash axis, path = front ++ [slash, axis] := by
  rcases List.eq_nil_or_concat path with rfl | ⟨most, axis, rfl⟩
  · exact absurd long (by decide)
  · rcases List.eq_nil_or_concat most with rfl | ⟨front, slash, rfl⟩
    · exact absurd long (by simp)
    · exact ⟨front, slash, axis, by simp⟩

theorem suffix_append_pair (front pair : Text) (slash axis : UInt8) (two : pair.length = 2) :
    pair <:+ front ++ [slash, axis] ↔ [slash, axis] = pair := by
  constructor
  · rintro ⟨before, same⟩
    exact (List.append_inj_right' same two).symm
  · rintro rfl
    exact List.suffix_append front _

theorem classifyAxisRole_append_pair (front : Text) (slash axis : UInt8) :
    classifyAxisRole (front ++ [slash, axis]) =
      if [slash, axis] = ascii "/x" ∨ [slash, axis] = ascii "/X" then (.stickX, front)
      else if [slash, axis] = ascii "/y" ∨ [slash, axis] = ascii "/Y" then (.stickY, front)
      else (.unpaired, front ++ [slash, axis]) := by
  have slashAt : (front ++ [slash, axis]).getD ((front ++ [slash, axis]).length - 2) 0 = slash := by
    simp
  have axisAt : (front ++ [slash, axis]).getD ((front ++ [slash, axis]).length - 1) 0 = axis := by
    simp
  have stem : (front ++ [slash, axis]).take ((front ++ [slash, axis]).length - 2) = front := by
    simp
  have long : ¬(front ++ [slash, axis]).length < 2 := by simp
  unfold classifyAxisRole
  simp only [slashAt, axisAt, stem, if_neg long]

/-- A path has the role of an axis exactly if it ends in one of the four axis names. -/
theorem pathRole_ne_unpaired_iff (path : Text) :
    pathRole path ≠ .unpaired ↔
      (endsWith path "/x" || endsWith path "/X" || endsWith path "/y" || endsWith path "/Y") =
        true := by
  unfold pathRole endsWith
  simp only [Bool.or_eq_true, decide_eq_true_eq]
  by_cases long : 2 ≤ path.length
  · obtain ⟨front, slash, axis, rfl⟩ := eq_append_pair long
    rw [classifyAxisRole_append_pair, suffix_append_pair _ _ _ _ rfl,
      suffix_append_pair _ _ _ _ rfl, suffix_append_pair _ _ _ _ rfl,
      suffix_append_pair _ _ _ _ rfl]
    split_ifs with first second
    · exact iff_of_true (fun broken => nomatch broken) (Or.inl (Or.inl first))
    · exact iff_of_true (fun broken => nomatch broken) (or_assoc.mpr (Or.inr second))
    · refine iff_of_false (fun broken => broken rfl) ?_
      rw [or_assoc]
      exact not_or.mpr ⟨first, second⟩
  · have short : path.length < 2 := Nat.lt_of_not_le long
    have none : ∀ pair : Text, pair.length = 2 → ¬pair <:+ path := by
      intro pair two suffix
      exact long (two ▸ suffix.length_le)
    unfold classifyAxisRole
    simp only [if_pos short]
    refine iff_of_false (fun broken => broken rfl) ?_
    rintro (((suffix | suffix) | suffix) | suffix) <;> exact none _ rfl suffix

/-- A path with the role of an axis ends in no name that is without one. -/
theorem endsWith_of_axis {path : Text} {name : String} (role : pathRole path ≠ .unpaired)
    (long : 2 ≤ (ascii name).length) (differs : pathRole (ascii name) = .unpaired) :
    endsWith path name = false := by
  refine decide_eq_false fun suffix => ?_
  have inherited : ∀ ending, (ascii ending).length = 2 → endsWith path ending = true →
      endsWith (ascii name) ending = true := by
    intro ending two ends
    exact decide_eq_true (List.suffix_of_suffix_length_le (of_decide_eq_true ends) suffix
      (two ▸ long))
  rw [pathRole_ne_unpaired_iff] at role
  refine (pathRole_ne_unpaired_iff (ascii name)).mpr ?_ differs
  simp only [Bool.or_eq_true] at role ⊢
  exact role.imp (Or.imp (Or.imp (inherited _ rfl) (inherited _ rfl)) (inherited _ rfl))
    (inherited _ rfl)

/-! ### Parts -/

/-- The name of a path speaks of a stick or of a pad. -/
def namesStick (path : Text) : Bool :=
  contains path "stick" || contains path "trackpad" || contains path "touchpad"

/-- The name of a path speaks of a sensor, or of the face. -/
def namesSensor (path : Text) : Bool :=
  contains path "/eye" || contains path "/face" || contains path "/pupil" ||
    contains path "proximity" || contains path "/imu"

/-- The name of a path speaks of a trigger or a squeeze that is not a click or a touch. -/
def namesTrigger (path : Text) : Bool :=
  !(contains path "/click" || contains path "/touch") &&
    (contains path "trigger" || contains path "Trigger" || contains path "/grip/value" ||
      contains path "/squeeze/value")

theorem contains_of_infix {path : Text} {part whole : String} (inside : ascii part <:+: ascii whole)
    (named : contains path whole = true) : contains path part = true :=
  decide_eq_true (inside.trans (of_decide_eq_true named))

/-- Joysticks and thumbsticks are sticks, so they need not be asked for. -/
theorem isStickAxisPath_eq (path : Text) :
    isStickAxisPath path = true ↔ pathRole path ≠ .unpaired ∧ namesStick path = true := by
  have joystick : contains path "joystick" = true → contains path "stick" = true :=
    contains_of_infix (by decide)
  have thumbstick : contains path "thumbstick" = true → contains path "stick" = true :=
    contains_of_infix (by decide)
  unfold isStickAxisPath namesStick
  rw [pathRole_ne_unpaired_iff, Bool.and_eq_true]
  refine and_congr_right fun _ => ?_
  simp only [Bool.or_eq_true]
  constructor
  · rintro ((((stick | joy) | trackpad) | thumb) | touchpad)
    · exact Or.inl (Or.inl stick)
    · exact Or.inl (Or.inl (joystick joy))
    · exact Or.inl (Or.inr trackpad)
    · exact Or.inl (Or.inl (thumbstick thumb))
    · exact Or.inr touchpad
  · rintro ((stick | trackpad) | touchpad)
    · exact Or.inl (Or.inl (Or.inl (Or.inl stick)))
    · exact Or.inl (Or.inl (Or.inr trackpad))
    · exact Or.inr touchpad

/-- The endings a trigger is also known by are not those of an axis. -/
theorem isTriggerLikePath_of_axis {path : Text} (role : pathRole path ≠ .unpaired) :
    isTriggerLikePath path = namesTrigger path := by
  have force : endsWith path "/force" = false := endsWith_of_axis role (by decide) (by decide)
  have pressure : endsWith path "/pressure" = false := endsWith_of_axis role (by decide) (by decide)
  unfold isTriggerLikePath namesTrigger
  rw [force, pressure, Bool.or_false, Bool.or_false]
  cases contains path "/click" || contains path "/touch" <;> rfl

/-- A path is classified as the axis of a stick exactly if none of the earlier classes applies. -/
theorem classifyInputPath_eq_stickAxis (path : Text) :
    classifyInputPath path = .stickAxis ↔
      path ≠ [] ∧ namesSensor path = false ∧ isTriggerLikePath path = false ∧
        isStickAxisPath path = true := by
  have sensor : namesSensor path = ((contains path "/eye" || contains path "/face") ||
      (contains path "/pupil" || contains path "proximity" || contains path "/imu")) := by
    simp only [namesSensor, Bool.or_assoc]
  unfold classifyInputPath
  rw [sensor]
  generalize (contains path "/eye" || contains path "/face") = face
  generalize (contains path "/pupil" || contains path "proximity" || contains path "/imu") = other
  cases face <;> cases other <;> split_ifs <;> simp_all

/-- A path is classified as the axis of a stick exactly if it has the role of an axis and a name
that speaks of a stick or a pad, of no sensor and of no trigger. -/
theorem stickAxis_iff_role (path : Text) :
    classifyInputPath path = .stickAxis ↔
      pathRole path ≠ .unpaired ∧ namesStick path = true ∧ namesSensor path = false ∧
        namesTrigger path = false := by
  rw [classifyInputPath_eq_stickAxis]
  constructor
  · rintro ⟨-, sensor, trigger, stick⟩
    obtain ⟨role, named⟩ := (isStickAxisPath_eq path).mp stick
    exact ⟨role, named, sensor, (isTriggerLikePath_of_axis role).symm.trans trigger⟩
  · rintro ⟨role, named, sensor, trigger⟩
    exact ⟨fun empty => role (empty ▸ rfl), sensor, (isTriggerLikePath_of_axis role).trans trigger,
      (isStickAxisPath_eq path).mpr ⟨role, named⟩⟩

/-- A dial with an axis has the role of a stick and is classified as a button. -/
theorem dial_is_no_stick :
    ¬(pathRole (ascii "/input/dial/x") ≠ .unpaired ↔
      classifyInputPath (ascii "/input/dial/x") = .stickAxis) := by
  decide +kernel

end PairDriver.InputHealth
