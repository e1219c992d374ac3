/-
This file composes the capture thread, the queue between the threads, the main loop and the voice
detector of the captions host. Two of them disagree on the size of a chunk: the accumulator
hands on 480 samples at a time, and the detector answers -1 to anything below 512.

So in the always-on mode no chunk is ever evaluated, whatever the packets and their rate, and the
host never hears speech. Push-to-talk does not ask the detector.
-/

import PairDriver.CaptionsHost
import PairDriver.Resampling

namespace PairDriver.Captions

open WasapiCapture (Capture resample kFrameSamples)

variable {Recurrent : Type}

/-! ### The detector -/

/-- The samples of the model's input. -/
def vadFrameSamples : Nat := 512

section Detector

variable (infer : Recurrent → List Rat → Rat × Recurrent)

/-- `SileroVad::Feed`: the probability of speech and the recurrent state after it, where the runtime
evaluates the model `infer` and does not fail. -/
def feed (recurrent : Recurrent) (samples : List Rat) : Rat × Recurrent :=
  if samples.length < vadFrameSamples then (-1, recurrent)
  else infer recurrent (samples.take vadFrameSamples)

/-- The model reports speech on some chunk, each given to it after those before. -/
def reports : Recurrent → List (List Rat) → Bool
  | _, [] => false
  | recurrent, chunk :: later =>
    let answer := infer recurrent chunk
    decide (kSpeechThreshold ≤ answer.1) || reports answer.2 later

end Detector

/-! ### The pipeline -/

/-- The threads of the host. `pending` is what is left of the packet the capture thread resamples.
`packets` lists the packets with their rates, `evaluated` the chunks the model was asked about, and
`entered` tells whether the loop was ever in speech; these are recorded for the specification
only. -/
structure Pipeline (Recurrent : Type) where
  pending : List Rat := []
  capture : Capture := {}
  host : Host Rat := {}
  recurrent : Recurrent
  packets : List (Nat × List Rat) := []
  evaluated : List (List Rat) := []
  entered : Bool := false

/-- The detector right after `Load`. -/
def Pipeline.start (fresh : Recurrent) : Pipeline Recurrent where
  recurrent := fresh

/-- The capture thread takes a packet, or accumulates its next sample; the other events are those of
the host, which asks the detector by itself. -/
inductive PipelineEvent where
  | packet (inRate : Nat) (data : List Rat)
  | sample
  | deliver (push : Push)
  | poll (pttHeld : Bool)
  | frame (recognized : Recognized)
  | drain (now : Rat)

section Pipeline

variable (infer : Recurrent → List Rat → Rat × Recurrent) (fresh : Recurrent)

/-- The capture thread accumulates a sample, and queues the chunk it completes. -/
def Pipeline.accumulate (pipeline : Pipeline Recurrent) (sample : Rat) (rest : List Rat) :
    Pipeline Recurrent :=
  let capture := pipeline.capture.push sample
  let chunks := capture.delivered.drop pipeline.capture.delivered.length
  { pipeline with
    pending := rest
    capture := capture
    host := { pipeline.host with audioQueue := pipeline.host.audioQueue ++ chunks } }

/-- The detector's answer to a frame; push-to-talk skips it. -/
def Pipeline.answer (pipeline : Pipeline Recurrent) (cfg : HostConfig) (frame : List Rat) :
    Rat × Recurrent :=
  if cfg.mode = 1 then feed infer pipeline.recurrent frame else (0, pipeline.recurrent)

/-- The detector after a frame: the start of speech resets it. -/
def Pipeline.recurrentAfter (pipeline : Pipeline Recurrent) (cfg : HostConfig)
    (frame : List Rat) : Recurrent :=
  let answer := pipeline.answer infer cfg frame
  if cfg.mode = 1 ∧ kSpeechThreshold ≤ answer.1 ∧ pipeline.host.inSpeech = false then fresh
  else answer.2

def pipelineStep (pipeline : Pipeline Recurrent) : PipelineEvent → Option (Pipeline Recurrent)
  | .packet inRate data =>
    if pipeline.pending = [] then
      some { pipeline with
        pending := resample inRate data
        packets := pipeline.packets ++ [(inRate, data)] }
    else none
  | .sample =>
    match pipeline.pending with
    | [] => none
    | sample :: rest => some (pipeline.accumulate sample rest)
  | .deliver push =>
    (hostStep true pipeline.host (.deliver push)).map fun host => { pipeline with host := host }
  | .poll pttHeld =>
    (hostStep true pipeline.host (.poll pttHeld)).map fun host => { pipeline with host := host }
  | .frame recognized =>
    match pipeline.host.pc with
    | .running cfg _ (frame :: _) =>
      let event := HostEvent.frame (pipeline.answer infer cfg frame).1 recognized
      (hostStep true pipeline.host event).map fun host =>
        { pipeline with
          host := host
          recurrent := pipeline.recurrentAfter infer fresh cfg frame
          evaluated := if cfg.mode = 1 ∧ vadFrameSamples ≤ frame.length then
            pipeline.evaluated ++ [frame] else pipeline.evaluated
          entered := pipeline.entered || host.inSpeech }
    | _ => none
  | .drain now =>
    (hostStep true pipeline.host (.drain now)).map fun host => { pipeline with host := host }

/-! ### What is to be detected -/

/-- The frames an iteration of the loop has still to look at. -/
def Pc.frames {Sample : Type} : Pc Sample → List (List Sample)
  | .sleeping => []
  | .running _ _ frames => frames

/-- The loop looks at frames in the always-on mode only. -/
def AlwaysOn (pipeline : Pipeline Recurrent) : PipelineEvent → Prop
  | .frame _ =>
    match pipeline.host.pc with
    | .running cfg _ _ => cfg.mode = 1
    | .sleeping => True
  | .packet _ _ | .sample | .deliver _ | .poll _ | .drain _ => True

instance (pipeline : Pipeline Recurrent) (event : PipelineEvent) :
    Decidable (AlwaysOn pipeline event) :=
  match pipeline, event with
  | { host := { pc := .running _ _ _, .. }, .. }, .frame _ => inferInstanceAs (Decidable (_ = _))
  | { host := { pc := .sleeping, .. }, .. }, .frame _ => inferInstanceAs (Decidable True)
  | _, .packet _ _ | _, .sample | _, .deliver _ | _, .poll _ | _, .drain _ =>
    inferInstanceAs (Decidable True)

/-- Everything captured was looked at. -/
structure Pipeline.Idle (pipeline : Pipeline Recurrent) : Prop where
  resampled : pipeline.pending = []
  taken : pipeline.host.audioQueue = []
  seen : pipeline.host.pc.frames = []

instance (pipeline : Pipeline Recurrent) : Decidable pipeline.Idle :=
  decidable_of_iff (pipeline.pending = [] ∧ pipeline.host.audioQueue = [] ∧
      pipeline.host.pc.frames = [])
    ⟨fun ⟨resampled, taken, seen⟩ => ⟨resampled, taken, seen⟩,
      fun idle => ⟨idle.resampled, idle.taken, idle.seen⟩⟩

/-- The output samples of the packets. -/
def Pipeline.samples (pipeline : Pipeline Recurrent) : List Rat :=
  pipeline.packets.flatMap fun packet => resample packet.1 packet.2

/-- Every chunk handed on was evaluated, and if the model reports speech the loop was in speech. -/
structure Pipeline.Detects (pipeline : Pipeline Recurrent) : Prop where
  evaluated : pipeline.evaluated = pipeline.capture.delivered
  entered : reports infer fresh pipeline.capture.delivered = true → pipeline.entered = true

/-! ### A deaf host -/

variable {infer} {fresh}

/-- The pushed samples are in the accumulator and the chunks, what waits for the loop is in whole
chunks, and nothing was evaluated or heard. -/
structure Pipeline.Deaf (pipeline : Pipeline Recurrent) : Prop where
  stream : ∃ pushed, pipeline.capture.Holds pushed ∧ pushed ++ pipeline.pending = pipeline.samples
  waiting : ∀ chunk ∈ pipeline.host.pc.frames ++ pipeline.host.audioQueue,
    chunk.length = kFrameSamples
  evaluated : pipeline.evaluated = []
  silent : pipeline.host.inSpeech = false
  entered : pipeline.entered = false

/-- The answer of a rejection is no speech. -/
theorem rejection_unlikely : ¬kSpeechThreshold ≤ -1 := by decide +kernel

theorem feed_short {recurrent : Recurrent} {samples : List Rat}
    (short : samples.length < vadFrameSamples) :
    feed infer recurrent samples = (-1, recurrent) :=
  if_pos short

/-- Without speech, and with no probability of it, a frame does nothing. -/
theorem frame_unheard {cfg : HostConfig} {pttHeld : Bool} {probability : Rat}
    {recognized : Recognized} {frame : List Rat} {host : Host Rat} (alwaysOn : cfg.mode = 1)
    (unlikely : ¬kSpeechThreshold ≤ probability) (silent : host.inSpeech = false) :
    host.frame true cfg pttHeld probability recognized frame = host := by
  have gated : host.gate true cfg pttHeld probability frame = (false, host) := by
    unfold Host.gate
    rw [if_pos alwaysOn, if_neg (by decide), if_neg unlikely, silent]
    rfl
  unfold Host.frame
  rw [gated]
  rfl

/-- A step of the host that only takes from what waits for the loop, and hears nothing, keeps the
host deaf. -/
theorem Pipeline.Deaf.host {pipeline : Pipeline Recurrent} (deaf : pipeline.Deaf) {host : Host Rat}
    (waiting : host.pc.frames ++ host.audioQueue ⊆
      pipeline.host.pc.frames ++ pipeline.host.audioQueue)
    (silent : host.inSpeech = pipeline.host.inSpeech) :
    Pipeline.Deaf { pipeline with host := host } where
  stream := deaf.stream
  waiting := fun chunk member => deaf.waiting chunk (waiting member)
  evaluated := deaf.evaluated
  silent := silent.trans deaf.silent
  entered := deaf.entered

/-- A configuration, a poll and a try to send only take from what waits for the loop. -/
theorem hostStep_waiting {host after : Host Rat} {event : HostEvent Rat}
    (stepped : hostStep true host event = some after)
    (noCapture : ∀ frame, event ≠ .capture frame)
    (noFrame : ∀ probability recognized, event ≠ .frame probability recognized) :
    after.pc.frames ++ after.audioQueue ⊆ host.pc.frames ++ host.audioQueue ∧
      after.inSpeech = host.inSpeech := by
  cases event with
  | capture frame => exact absurd rfl (noCapture frame)
  | frame probability recognized => exact absurd rfl (noFrame probability recognized)
  | deliver push =>
    dsimp only [hostStep] at stepped
    split at stepped
    · obtain rfl := Option.some.inj stepped
      exact ⟨List.Subset.refl _, rfl⟩
    · cases stepped
  | poll pttHeld =>
    dsimp only [hostStep] at stepped
    split at stepped
    · rename_i sleeping
      obtain rfl := Option.some.inj stepped
      refine ⟨?_, rfl⟩
      rw [sleeping]
      show host.audioQueue ++ [] ⊆ host.audioQueue
      rw [List.append_nil]
      exact List.Subset.refl _
    · cases stepped
  | drain now =>
    dsimp only [hostStep] at stepped
    split at stepped
    · rename_i running
      split at stepped
      · obtain rfl := Option.some.inj stepped
        rw [emit_eq]
        exact ⟨List.Subset.refl _, rfl⟩
      · obtain rfl := Option.some.inj stepped
        refine ⟨?_, rfl⟩
        rw [running]
        exact List.Subset.refl _
    · cases stepped

/-- A frame is rejected by the detector, and does nothing. -/
theorem Pipeline.Deaf.frame {pipeline : Pipeline Recurrent} (deaf : pipeline.Deaf)
    {cfg : HostConfig} {pttHeld : Bool} {frame : List Rat} {rest : List (List Rat)}
    (running : pipeline.host.pc = .running cfg pttHeld (frame :: rest)) (alwaysOn : cfg.mode = 1)
    (recognized : Recognized) :
    pipelineStep infer fresh pipeline (.frame recognized) = some
      { pipeline with host := { pipeline.host with pc := .running cfg pttHeld rest } } := by
  have short : frame.length < vadFrameSamples := by
    rw [deaf.waiting frame (by rw [running]; exact List.mem_append_left _ List.mem_cons_self)]
    decide
  have answer : pipeline.answer infer cfg frame = (-1, pipeline.recurrent) :=
    (if_pos alwaysOn).trans (feed_short short)
  have recurrent : pipeline.recurrentAfter infer fresh cfg frame = pipeline.recurrent := by
    unfold Pipeline.recurrentAfter
    rw [answer]
    exact if_neg fun onset => rejection_unlikely onset.2.1
  have evaluated : ¬(cfg.mode = 1 ∧ vadFrameSamples ≤ frame.length) := fun enough =>
    Nat.not_le_of_lt short enough.2
  have entered : (pipeline.entered || pipeline.host.inSpeech) = pipeline.entered := by
    rw [deaf.silent, Bool.or_false]
  dsimp only [pipelineStep, hostStep]
  rw [running]
  dsimp only
  rw [answer, recurrent, if_neg evaluated]
  dsimp only
  rw [frame_unheard alwaysOn rejection_unlikely deaf.silent, Option.map_some]
  dsimp only
  rw [entered]

/-- A sample completes a chunk of the accumulator's size, or none. -/
theorem Pipeline.Deaf.accumulate {pipeline : Pipeline Recurrent} (deaf : pipeline.Deaf)
    {sample : Rat} {rest : List Rat} (next : pipeline.pending = sample :: rest) :
    (pipeline.accumulate sample rest).Deaf := by
  obtain ⟨pushed, holds, whole⟩ := deaf.stream
  have after := holds.push sample
  refine ⟨⟨pushed ++ [sample], after, ?_⟩, fun chunk member => ?_, deaf.evaluated, deaf.silent,
    deaf.entered⟩
  · rw [List.append_assoc, List.singleton_append]
    exact next ▸ whole
  · unfold Pipeline.accumulate at member
    dsimp only at member
    rw [← List.append_assoc] at member
    rcases List.mem_append.mp member with earlier | completed
    · exact deaf.waiting chunk earlier
    · exact after.chunks chunk (List.mem_of_mem_drop completed)

/-- One step keeps the host deaf while it is always on. -/
theorem pipelineStep_deaf {before after : Pipeline Recurrent} {event : PipelineEvent}
    (deaf : before.Deaf) (alwaysOn : AlwaysOn before event)
    (stepped : pipelineStep infer fresh before event = some after) : after.Deaf := by
  cases event with
  | packet inRate data =>
    dsimp only [pipelineStep] at stepped
    split at stepped
    · rename_i drained
      obtain rfl := Option.some.inj stepped
      obtain ⟨pushed, holds, whole⟩ := deaf.stream
      refine ⟨⟨pushed, holds, ?_⟩, deaf.waiting, deaf.evaluated, deaf.silent, deaf.entered⟩
      rw [drained, List.append_nil] at whole
      unfold Pipeline.samples at whole ⊢
      rw [List.flatMap_append, List.flatMap_singleton, ← whole]
    · cases stepped
  | sample =>
    dsimp only [pipelineStep] at stepped
    split at stepped
    · cases stepped
    · rename_i sample rest next
      obtain rfl := Option.some.inj stepped
      exact deaf.accumulate next
  | deliver push =>
    obtain ⟨host, delivered, rfl⟩ := Option.map_eq_some_iff.mp stepped
    obtain ⟨waiting, silent⟩ := hostStep_waiting delivered (fun _ => nofun) (fun _ _ => nofun)
    exact deaf.host waiting silent
  | poll pttHeld =>
    obtain ⟨host, polled, rfl⟩ := Option.map_eq_some_iff.mp stepped
    obtain ⟨waiting, silent⟩ := hostStep_waiting polled (fun _ => nofun) (fun _ _ => nofun)
    exact deaf.host waiting silent
  | frame recognized =>
    cases running : before.host.pc with
    | sleeping =>
      dsimp only [pipelineStep] at stepped
      rw [running] at stepped
      cases stepped
    | running cfg pttHeld frames =>
      cases frames with
      | nil =>
        dsimp only [pipelineStep] at stepped
        rw [running] at stepped
        cases stepped
      | cons frame rest =>
        have mode : cfg.mode = 1 := by
          unfold AlwaysOn at alwaysOn
          rw [running] at alwaysOn
          exact alwaysOn
        obtain rfl := Option.some.inj ((deaf.frame running mode recognized).symm.trans stepped)
        refine deaf.host ?_ rfl
        rw [running]
        exact List.subset_cons_self _ _
  | drain now =>
    obtain ⟨host, drained, rfl⟩ := Option.map_eq_some_iff.mp stepped
    obtain ⟨waiting, silent⟩ := hostStep_waiting drained (fun _ => nofun) (fun _ _ => nofun)
    exact deaf.host waiting silent

/-- A host that is always on stays deaf. -/
theorem always_on_deaf {pipeline : Pipeline Recurrent}
    (reached : Reaches (pipelineStep infer fresh) AlwaysOn (.start fresh) pipeline) :
    pipeline.Deaf :=
  reached.invariant
    ⟨⟨[], ⟨rfl, List.forall_mem_nil _, Nat.zero_lt_succ _⟩, rfl⟩, List.forall_mem_nil _,
      rfl, rfl, rfl⟩
    fun _ _ _ deaf alwaysOn stepped => pipelineStep_deaf deaf alwaysOn stepped

/-- The chunks are those of the samples: there is none exactly if there are too few samples. -/
theorem delivered_nil_iff {capture : Capture} {samples : List Rat} (holds : capture.Holds samples) :
    capture.delivered = [] ↔ samples.length < kFrameSamples := by
  have total := congrArg List.length holds.whole
  rw [List.length_append] at total
  constructor
  · intro none
    rw [none, List.flatten_nil, List.length_nil, Nat.zero_add] at total
    exact total ▸ holds.rest
  · intro few
    by_contra some
    obtain ⟨chunk, member⟩ := List.exists_mem_of_ne_nil _ some
    have part := (List.sublist_flatten_of_mem member).length_le
    rw [holds.chunks chunk member] at part
    omega

/-- In the always-on mode, whatever the packets, once the loop has looked at everything captured:
every chunk was evaluated and reported speech was entered exactly if the samples never filled a
chunk. -/
theorem detects_iff {pipeline : Pipeline Recurrent}
    (reached : Reaches (pipelineStep infer fresh) AlwaysOn (.start fresh) pipeline)
    (idle : pipeline.Idle) :
    pipeline.Detects infer fresh ↔ pipeline.samples.length < kFrameSamples := by
  have deaf := always_on_deaf reached
  obtain ⟨pushed, holds, whole⟩ := deaf.stream
  rw [idle.resampled, List.append_nil] at whole
  subst whole
  rw [← delivered_nil_iff holds]
  constructor
  · intro detects
    exact detects.evaluated.symm.trans deaf.evaluated
  · intro none
    refine ⟨deaf.evaluated.trans none.symm, fun reported => ?_⟩
    rw [none] at reported
    cases reported

end Pipeline

/-! ### Runs -/

/-- A model that hears speech in everything. -/
def hearsSpeech (_ : Unit) (_ : List Rat) : Rat × Unit := (1, ())

/-- The overlay asks for the always-on mode. -/
def alwaysOnPush : Push :=
  { talkPush 1 with config := { (talkPush 1).config with mode := 1 } }

/-- A packet at 16 kHz is captured and looked at. -/
def heardPacket (frames : Nat) : List PipelineEvent :=
  [.deliver alwaysOnPush, .packet 16000 (List.replicate frames (1 / 2))] ++
    List.replicate frames .sample ++ [.poll false]

theorem detects_short : ∃ pipeline : Pipeline Unit,
    Reaches (pipelineStep hearsSpeech ()) AlwaysOn (.start ()) pipeline ∧
    pipeline.samples.length = 3 ∧ pipeline.Detects hearsSpeech () := by
  obtain ⟨pipeline, reached, idle, few⟩ : ∃ pipeline : Pipeline Unit,
      Reaches (pipelineStep hearsSpeech ()) AlwaysOn (.start ()) pipeline ∧
      pipeline.Idle ∧ pipeline.samples.length = 3 :=
    reaches_evaluates (heardPacket 3 ++ [.drain 0]) (by decide +kernel)
  exact ⟨pipeline, reached, few, (detects_iff reached idle).mpr (by rw [few]; decide)⟩

/-- Thirty milliseconds in which the model hears speech make one chunk, which the detector rejects;
the loop does not enter speech. -/
theorem speech_not_detected : ∃ pipeline : Pipeline Unit,
    Reaches (pipelineStep hearsSpeech ()) AlwaysOn (.start ()) pipeline ∧
    pipeline.Idle ∧ pipeline.capture.delivered = [soundFrame] ∧
    reports hearsSpeech () pipeline.capture.delivered = true ∧
    pipeline.evaluated = [] ∧ pipeline.entered = false ∧ pipeline.host.inSpeech = false :=
  reaches_evaluates (heardPacket 480 ++ [.frame ⟨[], none⟩, .drain 0]) (by decide +kernel)

end PairDriver.Captions
