/-
This file models the main loop of the captions host together with the thread that
takes its configuration: push-to-talk and speech detection collect an utterance,
its end starts a transcription, and the pacer holds the text until the chatbox may
be sent to again. The recognizers are outside; what they answer is part of the
events. A configuration may be delivered between any two steps of the loop, which
works on the copy it took when it began an iteration.

The driver does not forward `master_enabled`, so the host has nothing to mute it.
It stays silent while it should if nothing is left in the pacer when the switch
goes off and no utterance ends until it goes on again.
-/

import PairDriver.CaptionsCodec
import PairDriver.Machine

namespace PairDriver.Captions

/-! ### The pacer -/

def kQueueCap : Nat := 8

/-- The gap between two sends, in seconds. -/
def minGapSec : Rat := 6 / 5

structure Entry where
  text : Text
  sendImmediate : Bool
  notify : Bool
deriving DecidableEq

/-- `lastSend` is none before the first send. -/
structure ChatboxPacer where
  queue : List Entry := []
  lastSend : Option Rat := none
deriving DecidableEq

/-- `Enqueue`: a full queue drops its oldest entry. -/
def ChatboxPacer.enqueue (entry : Entry) (pacer : ChatboxPacer) : ChatboxPacer :=
  { pacer with
    queue := (if kQueueCap ≤ pacer.queue.length then pacer.queue.tail else pacer.queue) ++ [entry] }

/-- `Dequeue`. -/
def ChatboxPacer.dequeue (now : Rat) (pacer : ChatboxPacer) : Option (Entry × ChatboxPacer) :=
  match pacer.queue with
  | [] => none
  | entry :: rest =>
    if pacer.lastSend.any fun last => now - last < minGapSec then none
    else some (entry, { queue := rest, lastSend := some now })

/-! ### State -/

def kSpeechThreshold : Rat := 1 / 2
def kSilenceFrames : Nat := 20

/-- The samples of the shortest utterance that is transcribed. -/
def shortestUtterance : Nat := 1600

section Host

variable {Sample : Type}

inductive Output (Sample : Type) where
  | transcribed (speech : List Sample)
  | published (entry : Entry)
deriving DecidableEq

/-- Where the loop stands: between two iterations, or in one, with the configuration and the state
of the talk button it has read and the frames it has still to look at. -/
inductive Pc (Sample : Type) where
  | sleeping
  | running (cfg : HostConfig) (pttHeld : Bool) (frames : List (List Sample))
deriving DecidableEq

/-- The host. `muted` tells whether the last configuration delivered had the master switch off, and
`mutedOutputs` lists what was done while it was; both are recorded for the specification only. -/
structure Host (Sample : Type) where
  config : HostConfig := {}
  audioQueue : List (List Sample) := []
  pc : Pc Sample := .sleeping
  inSpeech : Bool := false
  silenceCount : Nat := 0
  pttWasHeld : Bool := false
  speechBuf : List Sample := []
  pacer : ChatboxPacer := {}
  muted : Bool := false
  mutedOutputs : List (Output Sample) := []
deriving DecidableEq

def Host.emit (output : Output Sample) (host : Host Sample) : Host Sample :=
  if host.muted then { host with mutedOutputs := output :: host.mutedOutputs } else host

/-! ### A frame -/

/-- Speech detection and push-to-talk: whether the frame ends an utterance, and the host after it.
With the mode always on and no detector, frames are dropped. -/
def Host.gate (vadLoaded : Bool) (cfg : HostConfig) (pttHeld : Bool) (probability : Rat)
    (frame : List Sample) (host : Host Sample) : Bool × Host Sample :=
  if cfg.mode = 1 then
    if !vadLoaded then (false, host)
    else if kSpeechThreshold ≤ probability then
      let speech := if host.inSpeech then host.speechBuf else []
      (false, { host with inSpeech := true, silenceCount := 0, speechBuf := speech ++ frame })
    else if host.inSpeech then
      if kSilenceFrames ≤ host.silenceCount + 1 then
        (true, { host with inSpeech := false, silenceCount := host.silenceCount + 1 })
      else
        (false, { host with
          silenceCount := host.silenceCount + 1
          speechBuf := host.speechBuf ++ frame })
    else (false, host)
  else if pttHeld then
    let speech := if host.pttWasHeld then host.speechBuf else []
    (false, { host with pttWasHeld := true, speechBuf := speech ++ frame })
  else if host.pttWasHeld then (true, { host with pttWasHeld := false })
  else (false, host)

/-- What the recognizers answer; there is a translation when the engine is loaded. -/
structure Recognized where
  transcript : Text
  translation : Option Text := none

def Recognized.output (cfg : HostConfig) (recognized : Recognized) : Text :=
  if cfg.targetLang = [] then recognized.transcript
  else recognized.translation.getD recognized.transcript

/-- The code after the label `transcribe`. -/
def Host.transcribe (cfg : HostConfig) (recognized : Recognized) (host : Host Sample) :
    Host Sample :=
  if host.speechBuf.length < shortestUtterance then { host with speechBuf := [] }
  else
    let output := recognized.output cfg
    let heard := host.emit (.transcribed host.speechBuf)
    { heard with
      speechBuf := []
      pacer := if output = [] then heard.pacer
        else heard.pacer.enqueue ⟨output, true, cfg.chatboxPort ≠ 0⟩ }

def Host.frame (vadLoaded : Bool) (cfg : HostConfig) (pttHeld : Bool) (probability : Rat)
    (recognized : Recognized) (frame : List Sample) (host : Host Sample) : Host Sample :=
  let gated := host.gate vadLoaded cfg pttHeld probability frame
  if gated.1 then gated.2.transcribe cfg recognized else gated.2

/-! ### Steps -/

/-- The request of the overlay, with the switch the driver does not forward. -/
structure Push where
  masterEnabled : UInt8
  config : CaptionsConfig

/-- The control thread takes a configuration; the capture thread queues a frame; the loop begins an
iteration, looks at the next frame, and tries to publish when there is none left. -/
inductive HostEvent (Sample : Type) where
  | deliver (push : Push)
  | capture (frame : List Sample)
  | poll (pttHeld : Bool)
  | frame (probability : Rat) (recognized : Recognized)
  | drain (now : Rat)

/-- A configuration that throws ends the process. -/
def hostStep (vadLoaded : Bool) (host : Host Sample) : HostEvent Sample → Option (Host Sample)
  | .deliver push =>
    let dispatched := dispatchControlMessage host.config (buildHostConfigCommand push.config)
    if dispatched.thrown = none then
      some { host with config := dispatched.config, muted := push.masterEnabled = 0 }
    else none
  | .capture frame => some { host with audioQueue := host.audioQueue ++ [frame] }
  | .poll pttHeld =>
    match host.pc with
    | .sleeping => some { host with
        pc := .running host.config pttHeld host.audioQueue
        audioQueue := [] }
    | .running _ _ _ => none
  | .frame probability recognized =>
    match host.pc with
    | .running cfg pttHeld (frame :: rest) =>
      some { host.frame vadLoaded cfg pttHeld probability recognized frame with
        pc := .running cfg pttHeld rest }
    | _ => none
  | .drain now =>
    match host.pc with
    | .running _ _ [] =>
      match host.pacer.dequeue now with
      | some (entry, pacer) => some { host.emit (.published entry) with pacer := pacer }
      | none => some { host with pc := .sleeping }
    | _ => none

/-! ### Silence while muted -/

/-- Whether a frame ends an utterance: enough silence after speech, or the talk button found
released. -/
def Host.EndsUtterance (vadLoaded : Bool) (cfg : HostConfig) (pttHeld : Bool) (probability : Rat)
    (host : Host Sample) : Prop :=
  if cfg.mode = 1 then
    vadLoaded = true ∧ probability < kSpeechThreshold ∧ host.inSpeech = true ∧
      kSilenceFrames ≤ host.silenceCount + 1
  else pttHeld = false ∧ host.pttWasHeld = true

instance (vadLoaded : Bool) (cfg : HostConfig) (pttHeld : Bool) (probability : Rat)
    (host : Host Sample) : Decidable (host.EndsUtterance vadLoaded cfg pttHeld probability) :=
  inferInstanceAs (Decidable (ite (cfg.mode = 1) (_ ∧ _ ∧ _ ∧ _) (_ ∧ _)))

/-- The switch goes off with nothing left to send, and while it is off no utterance that is long
enough to be transcribed ends. -/
def Quiet (vadLoaded : Bool) (host : Host Sample) : HostEvent Sample → Prop
  | .deliver push => push.masterEnabled = 0 → host.pacer.queue = []
  | .frame probability _ =>
    match host.pc with
    | .sleeping => True
    | .running cfg pttHeld _ => host.muted = true →
      host.EndsUtterance vadLoaded cfg pttHeld probability →
        host.speechBuf.length < shortestUtterance
  | .capture _ | .poll _ | .drain _ => True

instance (vadLoaded : Bool) (host : Host Sample) (event : HostEvent Sample) :
    Decidable (Quiet vadLoaded host event) :=
  match host, event with
  | _, .deliver _ => inferInstanceAs (Decidable (_ → _))
  | { pc := .sleeping, .. }, .frame _ _ => inferInstanceAs (Decidable True)
  | { pc := .running _ _ _, .. }, .frame _ _ => inferInstanceAs (Decidable (_ → _ → _))
  | _, .capture _ | _, .poll _ | _, .drain _ => inferInstanceAs (Decidable True)

/-- Nothing was done while muted, and nothing waits to be sent. -/
structure Silent (host : Host Sample) : Prop where
  nothingDone : host.mutedOutputs = []
  nothingWaits : host.muted = true → host.pacer.queue = []

theorem gate_ends {vadLoaded : Bool} {cfg : HostConfig} {pttHeld : Bool} {probability : Rat}
    {frame : List Sample} {host : Host Sample}
    (ends : (host.gate vadLoaded cfg pttHeld probability frame).1 = true) :
    host.EndsUtterance vadLoaded cfg pttHeld probability := by
  unfold Host.gate at ends
  unfold Host.EndsUtterance
  split at ends
  · rename_i alwaysOn
    rw [if_pos alwaysOn]
    split at ends
    · cases ends
    rename_i loaded
    split at ends
    · cases ends
    rename_i silent
    split at ends
    · rename_i speaking
      split at ends
      · rename_i enough
        exact ⟨by simpa using loaded, not_le.mp silent, speaking, enough⟩
      · cases ends
    · cases ends
  · rename_i pushToTalk
    rw [if_neg pushToTalk]
    split at ends
    · cases ends
    rename_i released
    split at ends
    · rename_i held
      exact ⟨by simpa using released, held⟩
    · cases ends

/-- The gate only touches the collection of the utterance, and an end leaves what was collected. -/
theorem gate_frame (vadLoaded : Bool) (cfg : HostConfig) (pttHeld : Bool) (probability : Rat)
    (frame : List Sample) (host : Host Sample) :
    let gated := host.gate vadLoaded cfg pttHeld probability frame
    gated.2.pacer = host.pacer ∧ gated.2.muted = host.muted ∧
      gated.2.mutedOutputs = host.mutedOutputs ∧
      (gated.1 = true → gated.2.speechBuf = host.speechBuf) := by
  unfold Host.gate
  split
  · split
    · exact ⟨rfl, rfl, rfl, fun _ => rfl⟩
    split
    · exact ⟨rfl, rfl, rfl, nofun⟩
    split
    · split
      · exact ⟨rfl, rfl, rfl, fun _ => rfl⟩
      · exact ⟨rfl, rfl, rfl, nofun⟩
    · exact ⟨rfl, rfl, rfl, nofun⟩
  · split
    · exact ⟨rfl, rfl, rfl, nofun⟩
    split
    · exact ⟨rfl, rfl, rfl, fun _ => rfl⟩
    · exact ⟨rfl, rfl, rfl, nofun⟩

/-- Doing something changes nothing but what is recorded for the specification. -/
theorem emit_eq (output : Output Sample) (host : Host Sample) :
    host.emit output = { host with mutedOutputs := (host.emit output).mutedOutputs } := by
  unfold Host.emit
  split
  · rfl
  · rfl

theorem emit_unmuted {host : Host Sample} (on : host.muted = false) (output : Output Sample) :
    host.emit output = host := by
  unfold Host.emit
  rw [on]
  rfl

/-- A transcription is silent when the host is not muted or the utterance is too short. -/
theorem transcribe_silent {cfg : HostConfig} {recognized : Recognized} {host : Host Sample}
    (silent : Silent host)
    (short : host.muted = true → host.speechBuf.length < shortestUtterance) :
    Silent (host.transcribe cfg recognized) := by
  unfold Host.transcribe
  split
  · exact ⟨silent.nothingDone, silent.nothingWaits⟩
  · rename_i long
    have on : host.muted = false := Bool.eq_false_iff.mpr fun muted => long (short muted)
    dsimp only
    rw [emit_unmuted on]
    refine ⟨silent.nothingDone, fun muted => ?_⟩
    rw [show host.muted = true from muted] at on
    cases on

theorem frame_silent {vadLoaded : Bool} {cfg : HostConfig} {pttHeld : Bool} {probability : Rat}
    {recognized : Recognized} {frame : List Sample} {host : Host Sample} (silent : Silent host)
    (quiet : host.muted = true → host.EndsUtterance vadLoaded cfg pttHeld probability →
      host.speechBuf.length < shortestUtterance) :
    Silent (host.frame vadLoaded cfg pttHeld probability recognized frame) := by
  obtain ⟨pacer, muted, outputs, collected⟩ :=
    gate_frame vadLoaded cfg pttHeld probability frame host
  have gatedSilent : Silent (host.gate vadLoaded cfg pttHeld probability frame).2 :=
    ⟨outputs.trans silent.nothingDone, fun off => by
      rw [pacer]
      exact silent.nothingWaits (muted.symm.trans off)⟩
  unfold Host.frame
  dsimp only
  split
  · rename_i ends
    refine transcribe_silent gatedSilent fun off => ?_
    rw [collected ends]
    exact quiet (muted.symm.trans off) (gate_ends ends)
  · exact gatedSilent

/-- One step of the host keeps silence under the condition. -/
theorem step_silent {vadLoaded : Bool} {host after : Host Sample} {event : HostEvent Sample}
    (silent : Silent host) (quiet : Quiet vadLoaded host event)
    (stepped : hostStep vadLoaded host event = some after) : Silent after := by
  cases event with
  | deliver push =>
    dsimp only [hostStep] at stepped
    split at stepped
    · obtain rfl := Option.some.inj stepped
      exact ⟨silent.nothingDone, fun off => quiet (of_decide_eq_true off)⟩
    · cases stepped
  | capture frame =>
    obtain rfl := Option.some.inj stepped
    exact ⟨silent.nothingDone, silent.nothingWaits⟩
  | poll pttHeld =>
    dsimp only [hostStep] at stepped
    split at stepped
    · obtain rfl := Option.some.inj stepped
      exact ⟨silent.nothingDone, silent.nothingWaits⟩
    · cases stepped
  | frame probability recognized =>
    dsimp only [hostStep, Quiet] at stepped quiet
    split at stepped
    · rename_i cfg pttHeld frame rest running
      rw [running] at quiet
      obtain rfl := Option.some.inj stepped
      have framed : Silent (host.frame vadLoaded cfg pttHeld probability recognized frame) :=
        frame_silent silent quiet
      exact ⟨framed.nothingDone, framed.nothingWaits⟩
    · cases stepped
  | drain now =>
    dsimp only [hostStep] at stepped
    split at stepped
    · split at stepped
      · rename_i entry pacer dequeued
        obtain rfl := Option.some.inj stepped
        have on : host.muted = false := Bool.eq_false_iff.mpr fun muted => by
          unfold ChatboxPacer.dequeue at dequeued
          rw [silent.nothingWaits muted] at dequeued
          cases dequeued
        rw [emit_unmuted on]
        exact ⟨silent.nothingDone, fun muted => by
          rw [show host.muted = true from muted] at on
          cases on⟩
      · obtain rfl := Option.some.inj stepped
        exact ⟨silent.nothingDone, silent.nothingWaits⟩
    · cases stepped

/-- Along every run in which the switch goes off with an empty pacer and no utterance ends while it
is off, the host transcribes and publishes nothing while muted. -/
theorem muted_host_is_silent (vadLoaded : Bool) {host : Host Sample}
    (reached : Reaches (hostStep vadLoaded) (Quiet vadLoaded) {} host) :
    host.mutedOutputs = [] := by
  have silent : Silent host := reached.invariant ⟨rfl, fun _ => rfl⟩
    fun _ _ _ before quiet stepped => step_silent before quiet stepped
  exact silent.nothingDone

end Host

/-! ### Runs -/

theorem english_fits : (ascii "en").length < captionsLangLen := by decide

theorem noText_fits : ([] : Text).length < captionsLangLen := by decide

/-- A push-to-talk request with the given master switch. -/
def talkPush (masterEnabled : UInt8) : Push where
  masterEnabled := masterEnabled
  config :=
    { mode := 0
      transcriptLogging := 0
      chatboxPort := 9000
      sourceLang := .ofText (ascii "en") english_fits
      targetLang := .ofText [] noText_fits
      chatboxAddress := .ofText (ascii "/chatbox/input") (by decide) }

/-- Thirty milliseconds of sound. -/
def soundFrame : List Rat := List.replicate 480 (1 / 2)

/-- Four frames while the talk button is held, one after it is released, and two tries to send. -/
def utterance : List (HostEvent Rat) :=
  [.capture soundFrame, .capture soundFrame, .capture soundFrame, .capture soundFrame, .poll true,
    .frame 0 ⟨[], none⟩, .frame 0 ⟨[], none⟩, .frame 0 ⟨[], none⟩, .frame 0 ⟨[], none⟩, .drain 0,
    .capture soundFrame, .poll false, .frame 0 ⟨ascii "hello", none⟩, .drain 1, .drain 1]

theorem muted_host_is_silent_after_utterance : ∃ host : Host Rat,
    Reaches (hostStep false) (Quiet false) {} host ∧
    host.muted = true ∧ host.pacer.lastSend = some 1 ∧ host.mutedOutputs = [] := by
  obtain ⟨host, reached, muted, sent⟩ : ∃ host : Host Rat,
      Reaches (hostStep false) (Quiet false) {} host ∧
      host.muted = true ∧ host.pacer.lastSend = some 1 :=
    reaches_evaluates ([HostEvent.deliver (talkPush 1)] ++ utterance ++
      [HostEvent.deliver (talkPush 0), .capture soundFrame, .poll false, .frame 0 ⟨[], none⟩,
        .drain 2]) (by decide +kernel)
  exact ⟨host, reached, muted, sent, muted_host_is_silent false reached⟩

/-- With the master switch off, the utterance is transcribed and its text is published. -/
theorem muted_host_publishes : ∃ host,
    run (hostStep false) {} ([HostEvent.deliver (talkPush 0)] ++ utterance) = some host ∧
    host.muted = true ∧
    host.mutedOutputs = [.published ⟨ascii "hello", true, true⟩,
      .transcribed (soundFrame ++ soundFrame ++ soundFrame ++ soundFrame)] := by
  exact run_evaluates (by decide +kernel)

end PairDriver.Captions
