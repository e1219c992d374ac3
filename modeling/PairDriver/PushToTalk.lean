/-
This file follows the samples through the main loop of the captions host. Every sample is tagged
when its frame is drained: with the hold of the talk button, if the iteration runs in push-to-talk
and found the button held, and as other sound otherwise.

An utterance transcribed in push-to-talk comes from one hold exactly as long as nothing else is
collected while `ptt_was_held` is set. Only a frame looked at in push-to-talk with the button
released clears that flag: the always-on mode leaves it set and collects into the same buffer, and
a release between two frames is not seen at all.
-/

import PairDriver.CaptionsHost

namespace PairDriver.Captions

variable {Sample : Type}

/-! ### Origins -/

/-- Where a sample comes from: a hold of the talk button, numbered by the releases before it, or
anything else. -/
inductive Origin where
  | hold (number : Nat)
  | other
deriving DecidableEq

/-- All samples come from one and the same hold. -/
def FromOneHold (samples : List (Sample × Origin)) : Prop :=
  ∃ number, ∀ sample ∈ samples, sample.2 = .hold number

instance : (samples : List (Sample × Origin)) → Decidable (FromOneHold samples)
  | [] => isTrue ⟨0, List.forall_mem_nil _⟩
  | (sample, .other) :: rest =>
    isFalse fun ⟨_, all⟩ => nomatch all (sample, .other) List.mem_cons_self
  | (sample, .hold number) :: rest =>
    decidable_of_iff (∀ later ∈ rest, later.2 = .hold number)
      ⟨fun all => ⟨number, List.forall_mem_cons.mpr ⟨rfl, all⟩⟩, fun ⟨other, all⟩ => by
        obtain ⟨first, later⟩ := List.forall_mem_cons.mp all
        rwa [← show Origin.hold number = .hold other from first] at later⟩

/-- The host over tagged samples. `releases` counts the polls that found the talk button released,
and `spoken` lists the utterances transcribed in push-to-talk. -/
structure TalkHost (Sample : Type) where
  host : Host (Sample × Origin) := {}
  releases : Nat := 0
  spoken : List (List (Sample × Origin)) := []

/-- The origin of what an iteration drains. -/
def TalkHost.origin (talk : TalkHost Sample) (pttHeld : Bool) : Origin :=
  if talk.host.config.mode = 1 ∨ pttHeld = false then .other else .hold talk.releases

def Pc.tag (origin : Origin) : Pc (Sample × Origin) → Pc (Sample × Origin)
  | .sleeping => .sleeping
  | .running cfg pttHeld frames =>
    .running cfg pttHeld (frames.map fun frame => frame.map fun sample => (sample.1, origin))

/-- What the next frame has transcribed in push-to-talk. -/
def Host.speaks (vadLoaded : Bool) (probability : Rat) (host : Host Sample) :
    List (List Sample) :=
  match host.pc with
  | .running cfg pttHeld (frame :: _) =>
    let gated := host.gate vadLoaded cfg pttHeld probability frame
    if cfg.mode ≠ 1 ∧ gated.1 = true ∧ shortestUtterance ≤ gated.2.speechBuf.length then
      [gated.2.speechBuf]
    else []
  | _ => []

/-- The steps of the host; the tags are given out by the poll. -/
def talkStep (vadLoaded : Bool) (talk : TalkHost Sample) :
    HostEvent Sample → Option (TalkHost Sample)
  | .deliver push =>
    (hostStep vadLoaded talk.host (.deliver push)).map fun host => { talk with host := host }
  | .capture frame =>
    (hostStep vadLoaded talk.host (.capture (frame.map fun sample => (sample, .other)))).map
      fun host => { talk with host := host }
  | .poll pttHeld =>
    (hostStep vadLoaded talk.host (.poll pttHeld)).map fun host =>
      { talk with
        host := { host with pc := host.pc.tag (talk.origin pttHeld) }
        releases := if pttHeld then talk.releases else talk.releases + 1 }
  | .frame probability recognized =>
    (hostStep vadLoaded talk.host (.frame probability recognized)).map fun host =>
      { talk with
        host := host
        spoken := talk.spoken ++ talk.host.speaks vadLoaded probability }
  | .drain now =>
    (hostStep vadLoaded talk.host (.drain now)).map fun host => { talk with host := host }

/-! ### The condition -/

/-- The next frame is appended to the buffer. -/
def Host.Collects (vadLoaded : Bool) (cfg : HostConfig) (pttHeld : Bool) (probability : Rat)
    (host : Host Sample) : Prop :=
  if cfg.mode = 1 then
    vadLoaded = true ∧ (kSpeechThreshold ≤ probability ∨
      host.inSpeech = true ∧ host.silenceCount + 1 < kSilenceFrames)
  else pttHeld = true

instance (vadLoaded : Bool) (cfg : HostConfig) (pttHeld : Bool) (probability : Rat)
    (host : Host Sample) : Decidable (host.Collects vadLoaded cfg pttHeld probability) :=
  inferInstanceAs (Decidable (ite (cfg.mode = 1) (_ ∧ (_ ∨ _ ∧ _)) (_ = _)))

/-- While `ptt_was_held` is set, a frame is collected only if it comes from the hold the buffer
comes from. -/
def KeepsHold (vadLoaded : Bool) (talk : TalkHost Sample) : HostEvent Sample → Prop
  | .frame probability _ =>
    match talk.host.pc with
    | .running cfg pttHeld (frame :: _) => talk.host.pttWasHeld = true →
      talk.host.Collects vadLoaded cfg pttHeld probability →
        FromOneHold (talk.host.speechBuf ++ frame)
    | _ => True
  | .deliver _ | .capture _ | .poll _ | .drain _ => True

instance (vadLoaded : Bool) (talk : TalkHost Sample) (event : HostEvent Sample) :
    Decidable (KeepsHold vadLoaded talk event) :=
  match talk, event with
  | { host := { pc := .running _ _ (_ :: _), .. }, .. }, .frame _ _ =>
    inferInstanceAs (Decidable (_ → _ → _))
  | { host := { pc := .running _ _ [], .. }, .. }, .frame _ _
  | { host := { pc := .sleeping, .. }, .. }, .frame _ _
  | _, .deliver _ | _, .capture _ | _, .poll _ | _, .drain _ => inferInstanceAs (Decidable True)

/-- What is collected while the flag is set comes from one hold. -/
def Host.OneHold (host : Host (Sample × Origin)) : Prop :=
  host.pttWasHeld = true → FromOneHold host.speechBuf

/-- The frames of an iteration have one origin, which is a hold exactly in push-to-talk with the
button held. -/
def Pc.Drained : Pc (Sample × Origin) → Prop
  | .sleeping => True
  | .running cfg pttHeld frames =>
    ∃ origin : Origin, (origin = .other ↔ cfg.mode = 1 ∨ pttHeld = false) ∧
      ∀ frame ∈ frames, ∀ sample ∈ frame, sample.2 = origin

/-! ### A frame -/

/-- What the loop keeps of the buffer when it collects a frame. -/
def Host.kept (cfg : HostConfig) (host : Host Sample) : List Sample :=
  if (if cfg.mode = 1 then host.inSpeech else host.pttWasHeld) then host.speechBuf else []

/-- The gate follows the button in push-to-talk only. It collects a frame, or leaves the buffer. -/
theorem gate_collects (vadLoaded : Bool) (cfg : HostConfig) (pttHeld : Bool) (probability : Rat)
    (frame : List Sample) (host : Host Sample) :
    let gated := host.gate vadLoaded cfg pttHeld probability frame
    gated.2.pttWasHeld = (if cfg.mode = 1 then host.pttWasHeld else pttHeld) ∧
      (host.Collects vadLoaded cfg pttHeld probability →
        gated.1 = false ∧ gated.2.speechBuf = host.kept cfg ++ frame) ∧
      (¬host.Collects vadLoaded cfg pttHeld probability → gated.2.speechBuf = host.speechBuf) := by
  unfold Host.gate Host.Collects Host.kept
  by_cases alwaysOn : cfg.mode = 1
  · simp only [if_pos alwaysOn]
    cases vadLoaded with
    | false => exact ⟨rfl, nofun, fun _ => rfl⟩
    | true =>
      by_cases likely : kSpeechThreshold ≤ probability
      · rw [if_neg (by decide), if_pos likely]
        exact ⟨rfl, fun _ => ⟨rfl, rfl⟩, fun not => absurd ⟨rfl, Or.inl likely⟩ not⟩
      · rw [if_neg (by decide), if_neg likely]
        split
        · rename_i speaking
          split
          · rename_i enough
            refine ⟨rfl, ?_, fun _ => rfl⟩
            rintro ⟨_, onset | ⟨_, few⟩⟩
            · exact absurd onset likely
            · exact absurd few (not_lt.mpr enough)
          · rename_i few
            exact ⟨rfl, fun _ => ⟨rfl, rfl⟩,
              fun not => absurd ⟨rfl, Or.inr ⟨speaking, not_le.mp few⟩⟩ not⟩
        · rename_i quiet
          refine ⟨rfl, ?_, fun _ => rfl⟩
          rintro ⟨_, onset | ⟨speaking, _⟩⟩
          · exact absurd onset likely
          · exact absurd speaking quiet
  · simp only [if_neg alwaysOn]
    cases pttHeld with
    | true => exact ⟨rfl, fun _ => ⟨rfl, rfl⟩, fun not => absurd rfl not⟩
    | false =>
      split
      · rename_i released
        cases released
      · split
        · exact ⟨rfl, nofun, fun _ => rfl⟩
        · rename_i notHeld
          exact ⟨Bool.eq_false_iff.mpr notHeld, nofun, fun _ => rfl⟩

theorem transcribe_clears (cfg : HostConfig) (recognized : Recognized) (host : Host Sample) :
    (host.transcribe cfg recognized).speechBuf = [] ∧
      (host.transcribe cfg recognized).pttWasHeld = host.pttWasHeld := by
  unfold Host.transcribe Host.emit
  split
  · exact ⟨rfl, rfl⟩
  · split
    · exact ⟨rfl, rfl⟩
    · exact ⟨rfl, rfl⟩

theorem FromOneHold.mono {samples fewer : List (Sample × Origin)} (one : FromOneHold samples)
    (part : fewer ⊆ samples) : FromOneHold fewer :=
  one.imp fun _ all sample member => all sample (part member)

/-- Other sound is not from a hold. -/
theorem nil_of_other {samples : List (Sample × Origin)} (one : FromOneHold samples)
    (other : ∀ sample ∈ samples, sample.2 = .other) : samples = [] := by
  obtain ⟨number, all⟩ := one
  refine List.eq_nil_iff_forall_not_mem.mpr fun sample member => ?_
  have same := (all sample member).symm.trans (other sample member)
  cases same

section Frame

variable {vadLoaded : Bool} {cfg : HostConfig} {pttHeld : Bool} {probability : Rat}
variable {frame : List (Sample × Origin)} {rest : List (List (Sample × Origin))}
variable {host : Host (Sample × Origin)}

/-- A frame that is collected keeps the buffer to one hold exactly under the condition. -/
theorem collected_oneHold_iff (before : host.OneHold)
    (drained : Pc.Drained (.running cfg pttHeld (frame :: rest)))
    (collects : host.Collects vadLoaded cfg pttHeld probability) :
    ((if cfg.mode = 1 then host.pttWasHeld else pttHeld) = true →
        FromOneHold (host.kept cfg ++ frame)) ↔
      (host.pttWasHeld = true → FromOneHold (host.speechBuf ++ frame)) := by
  obtain ⟨origin, other, all⟩ := drained
  have tagged := all frame List.mem_cons_self
  by_cases alwaysOn : cfg.mode = 1
  · rw [if_pos alwaysOn]
    obtain rfl : origin = .other := other.mpr (Or.inl alwaysOn)
    refine forall_congr' fun held => ⟨fun one => ?_, fun one => one.mono ?_⟩
    · rw [nil_of_other (one.mono (List.subset_append_right _ _)) tagged, List.append_nil]
      exact before held
    · refine List.append_subset.mpr ⟨?_, List.subset_append_right _ _⟩
      unfold Host.kept
      rw [if_pos alwaysOn]
      split
      · exact List.subset_append_left _ _
      · exact List.nil_subset _
  · unfold Host.Collects at collects
    rw [if_neg alwaysOn] at collects
    unfold Host.kept
    rw [if_neg alwaysOn, if_neg alwaysOn, collects]
    cases host.pttWasHeld with
    | true => exact forall_congr' fun _ => Iff.rfl
    | false =>
      refine iff_of_true (fun _ => ?_) nofun
      cases origin with
      | hold number => exact ⟨number, tagged⟩
      | other =>
        rcases other.mp rfl with on | released
        · exact absurd on alwaysOn
        · exact absurd (released.symm.trans collects) Bool.false_ne_true

/-- A frame keeps the buffer to one hold exactly under the condition. -/
theorem frame_oneHold_iff (before : host.OneHold)
    (drained : Pc.Drained (.running cfg pttHeld (frame :: rest))) (recognized : Recognized) :
    (host.frame vadLoaded cfg pttHeld probability recognized frame).OneHold ↔
      (host.pttWasHeld = true → host.Collects vadLoaded cfg pttHeld probability →
        FromOneHold (host.speechBuf ++ frame)) := by
  obtain ⟨flag, collected, left⟩ :=
    gate_collects vadLoaded cfg pttHeld probability frame host
  unfold Host.frame Host.OneHold
  by_cases collects : host.Collects vadLoaded cfg pttHeld probability
  · obtain ⟨goesOn, buffer⟩ := collected collects
    dsimp only
    rw [goesOn, if_neg Bool.false_ne_true, flag, buffer,
      collected_oneHold_iff before drained collects]
    exact forall_congr' fun _ => ⟨fun one _ => one, fun one => one collects⟩
  · refine iff_of_true (fun held => ?_) fun _ collect => absurd collect collects
    dsimp only at held ⊢
    split at held
    · rename_i ends
      rw [if_pos ends, (transcribe_clears _ _ _).1]
      exact ⟨0, List.forall_mem_nil _⟩
    · rename_i goesOn
      rw [if_neg goesOn, left collects]
      rw [flag] at held
      split at held
      · exact before held
      · rename_i pushToTalk
        exact absurd ((if_neg pushToTalk).mpr held) collects

/-- What a frame has transcribed in push-to-talk is the buffer while the flag is set. -/
theorem speaks_oneHold (before : host.OneHold) {speech : List (Sample × Origin)}
    (spoken : speech ∈ host.speaks vadLoaded probability) : FromOneHold speech := by
  unfold Host.speaks at spoken
  split at spoken
  · rename_i cfg pttHeld frame rest running
    dsimp only at spoken
    split at spoken
    · rename_i conditions
      obtain ⟨pushToTalk, ends, _⟩ := conditions
      have released := gate_ends ends
      unfold Host.EndsUtterance at released
      rw [if_neg pushToTalk] at released
      rw [List.mem_singleton.mp spoken,
        (gate_frame vadLoaded cfg pttHeld probability frame host).2.2.2 ends]
      exact before released.2
    · cases spoken
  · cases spoken

end Frame

/-! ### Runs -/

theorem tag_drained (talk : TalkHost Sample) (pttHeld : Bool)
    (frames : List (List (Sample × Origin))) :
    Pc.Drained ((Pc.running talk.host.config pttHeld frames).tag (talk.origin pttHeld)) := by
  refine ⟨talk.origin pttHeld, ?_, fun frame member sample inside => ?_⟩
  · unfold TalkHost.origin
    split
    · rename_i otherwise
      exact iff_of_true rfl otherwise
    · rename_i held
      exact iff_of_false nofun held
  · obtain ⟨_, _, rfl⟩ := List.mem_map.mp member
    obtain ⟨_, _, rfl⟩ := List.mem_map.mp inside
    rfl

/-- One step keeps the origins of the drained frames, keeps the buffer to one hold exactly under the
condition, and transcribes one hold. -/
theorem talkStep_spec {vadLoaded : Bool} {before after : TalkHost Sample}
    {event : HostEvent Sample} (drained : before.host.pc.Drained) (one : before.host.OneHold)
    (stepped : talkStep vadLoaded before event = some after) :
    after.host.pc.Drained ∧ (after.host.OneHold ↔ KeepsHold vadLoaded before event) ∧
      ∀ speech ∈ after.spoken, speech ∈ before.spoken ∨ FromOneHold speech := by
  cases event with
  | deliver push =>
    obtain ⟨host, delivered, rfl⟩ := Option.map_eq_some_iff.mp stepped
    dsimp only [hostStep] at delivered
    split at delivered
    · obtain rfl := Option.some.inj delivered
      exact ⟨drained, iff_of_true one trivial, fun _ => Or.inl⟩
    · cases delivered
  | capture frame =>
    obtain rfl := Option.some.inj stepped
    exact ⟨drained, iff_of_true one trivial, fun _ => Or.inl⟩
  | poll pttHeld =>
    obtain ⟨host, polled, rfl⟩ := Option.map_eq_some_iff.mp stepped
    dsimp only [hostStep] at polled
    split at polled
    · obtain rfl := Option.some.inj polled
      exact ⟨tag_drained before pttHeld _, iff_of_true one trivial, fun _ => Or.inl⟩
    · cases polled
  | frame probability recognized =>
    obtain ⟨host, looked, rfl⟩ := Option.map_eq_some_iff.mp stepped
    dsimp only [hostStep] at looked
    split at looked
    · rename_i cfg pttHeld frame rest running
      obtain rfl := Option.some.inj looked
      rw [running] at drained
      refine ⟨?_, ?_, fun speech member => ?_⟩
      · obtain ⟨origin, other, all⟩ := drained
        exact ⟨origin, other, fun later member => all later (List.mem_cons_of_mem frame member)⟩
      · unfold KeepsHold
        rw [running]
        exact frame_oneHold_iff one drained recognized
      · exact (List.mem_append.mp member).imp_right (speaks_oneHold one)
    · cases looked
  | drain now =>
    obtain ⟨host, tried, rfl⟩ := Option.map_eq_some_iff.mp stepped
    dsimp only [hostStep] at tried
    split at tried
    · split at tried
      · rename_i entry pacer _
        obtain rfl := Option.some.inj tried
        rw [emit_eq]
        exact ⟨drained, iff_of_true one trivial, fun _ => Or.inl⟩
      · obtain rfl := Option.some.inj tried
        exact ⟨trivial, iff_of_true one trivial, fun _ => Or.inl⟩
    · cases tried

/-- Along every run in which nothing else is collected while `ptt_was_held` is set, every utterance
transcribed in push-to-talk comes from one hold of the button; a step that collects something else
leaves it in the buffer with the flag set. -/
theorem spoken_from_one_hold {vadLoaded : Bool} {talk : TalkHost Sample}
    (reached : Reaches (talkStep vadLoaded) (KeepsHold vadLoaded) {} talk) :
    (∀ speech ∈ talk.spoken, FromOneHold speech) ∧
      ∀ event after, talkStep vadLoaded talk event = some after →
        (after.host.OneHold ↔ KeepsHold vadLoaded talk event) := by
  have kept : talk.host.pc.Drained ∧ talk.host.OneHold ∧
      ∀ speech ∈ talk.spoken, FromOneHold speech := by
    induction reached with
    | start => exact ⟨trivial, nofun, List.forall_mem_nil _⟩
    | next event _ keeps stepped inductionHypothesis =>
      obtain ⟨drained, one, spoken⟩ := inductionHypothesis
      obtain ⟨drainedAfter, oneAfter, spokenAfter⟩ := talkStep_spec drained one stepped
      exact ⟨drainedAfter, oneAfter.mpr keeps, fun speech member =>
        (spokenAfter speech member).elim (spoken speech) id⟩
  exact ⟨kept.2.2, fun event after stepped => (talkStep_spec kept.1 kept.2.1 stepped).2.1⟩

/-- Four frames are captured, and looked at with the button held or not. -/
def fourFrames (pttHeld : Bool) (probability : Rat) : List (HostEvent Rat) :=
  List.replicate 4 (.capture soundFrame) ++ [.poll pttHeld] ++
    List.replicate 4 (.frame probability ⟨[], none⟩) ++ [.drain 0]

/-- One frame is captured, and looked at with the button held or not. -/
def oneFrame (pttHeld : Bool) : List (HostEvent Rat) :=
  [.capture soundFrame, .poll pttHeld, .frame 0 ⟨[], none⟩, .drain 0]

theorem spoken_from_one_hold_once : ∃ talk : TalkHost Rat,
    Reaches (talkStep true) (KeepsHold true) {} talk ∧
    talk.spoken.map List.length = [1920] ∧ ∀ speech ∈ talk.spoken, FromOneHold speech := by
  obtain ⟨talk, reached, spoken⟩ : ∃ talk : TalkHost Rat,
      Reaches (talkStep true) (KeepsHold true) {} talk ∧ talk.spoken.map List.length = [1920] :=
    reaches_evaluates (fourFrames true 0 ++ oneFrame false) (by decide +kernel)
  exact ⟨talk, reached, spoken, (spoken_from_one_hold reached).1⟩

/-- The button is held in push-to-talk, the mode goes to always-on, the button is released, the
detector hears four frames, and the mode goes back: the four frames are transcribed in
push-to-talk. -/
theorem always_on_sound_spoken : ∃ talk : TalkHost Rat,
    run (talkStep true) {} (oneFrame true ++ [.deliver { talkPush 1 with
      config := { (talkPush 1).config with mode := 1 } }] ++ fourFrames false 1 ++
      [.deliver (talkPush 1)] ++ oneFrame false) = some talk ∧
    ∃ speech ∈ talk.spoken, speech.length = 1920 ∧ ∀ sample ∈ speech, sample.2 = Origin.other :=
  run_evaluates (by decide +kernel)

end PairDriver.Captions
