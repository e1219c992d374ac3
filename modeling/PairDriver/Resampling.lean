/-
This file models how the captions host brings the microphone to 16 kHz. Every packet is
resampled by itself, from position zero, into the accumulator, which is handed on in chunks
of 480 samples. No sample is lost on the way out.

A split is not seen in the output exactly if the samples of a packet end where the packet
ends: at 16 kHz always, and above it if the packet is a whole number of output steps long.
A ramp of samples, whose value at a position is the position, tells every other split from
the single packet.
-/

import Mathlib

namespace PairDriver.WasapiCapture

/-! ### Resampling over the rationals -/

def outRate : Nat := 16000

def kFrameSamples : Nat := 480

/-- The step of the source position for one output sample. -/
def ratio (inRate : Nat) : Rat := inRate / outRate

def outCount (inRate frames : Nat) : Nat := ⌈(frames : Rat) / ratio inRate⌉₊

/-- One output sample by linear interpolation; the last frame of a packet stands for those
beyond it. -/
def interpolate (inRate : Nat) (data : List Rat) (oi : Nat) : Rat :=
  let srcPos := oi * ratio inRate
  let lo := ⌊srcPos⌋₊
  let frac := srcPos - lo
  if lo + 1 < data.length then data.getD lo 0 * (1 - frac) + data.getD (lo + 1) 0 * frac
  else if lo < data.length then data.getD lo 0 else 0

/-- The output samples of one packet. -/
def resample (inRate : Nat) (data : List Rat) : List Rat :=
  if inRate = outRate then data
  else (List.range (outCount inRate data.length)).map (interpolate inRate data)

/-- The accumulator, and the chunks handed to the callback so far. -/
structure Capture where
  accum : List Rat := []
  delivered : List (List Rat) := []

/-- One output sample: a full accumulator goes to the callback and is cleared. -/
def Capture.push (capture : Capture) (sample : Rat) : Capture :=
  let accum := capture.accum ++ [sample]
  if kFrameSamples ≤ accum.length then
    { accum := [], delivered := capture.delivered ++ [accum.take kFrameSamples] }
  else { capture with accum := accum }

/-- `ResampleAndAccumulate`. -/
def Capture.resampleAndAccumulate (inRate : Nat) (capture : Capture) (data : List Rat) : Capture :=
  (resample inRate data).foldl Capture.push capture

/-- The capture after packets of a stream. -/
def captured (inRate : Nat) (packets : List (List Rat)) : Capture :=
  packets.foldl (Capture.resampleAndAccumulate inRate) {}

/-! ### The accumulator -/

/-- What the accumulator and the callback have of the output samples: all of them, in order, cut
into whole chunks and a rest. -/
structure Capture.Holds (capture : Capture) (samples : List Rat) : Prop where
  whole : capture.delivered.flatten ++ capture.accum = samples
  chunks : ∀ chunk ∈ capture.delivered, chunk.length = kFrameSamples
  rest : capture.accum.length < kFrameSamples

theorem Capture.Holds.push {capture : Capture} {samples : List Rat} (holds : capture.Holds samples)
    (sample : Rat) : (capture.push sample).Holds (samples ++ [sample]) := by
  obtain ⟨whole, chunks, rest⟩ := holds
  have size : (capture.accum ++ [sample]).length = capture.accum.length + 1 := by
    rw [List.length_append, List.length_singleton]
  unfold Capture.push
  by_cases full : kFrameSamples ≤ (capture.accum ++ [sample]).length
  · have exact : (capture.accum ++ [sample]).length = kFrameSamples :=
      le_antisymm (size ▸ rest) full
    rw [if_pos full, List.take_of_length_le exact.le]
    refine ⟨?_, ?_, (by decide : ([] : List Rat).length < kFrameSamples)⟩
    · rw [List.flatten_append, List.flatten_singleton, List.append_nil, ← List.append_assoc, whole]
    · intro chunk member
      rcases List.mem_append.mp member with earlier | last
      · exact chunks chunk earlier
      · rw [List.mem_singleton.mp last]
        exact exact
  · rw [if_neg full]
    refine ⟨?_, chunks, Nat.lt_of_not_le full⟩
    rw [← List.append_assoc, whole]

theorem Capture.Holds.foldl {capture : Capture} {samples : List Rat}
    (holds : capture.Holds samples) (more : List Rat) :
    (more.foldl Capture.push capture).Holds (samples ++ more) := by
  induction more generalizing capture samples with
  | nil => exact (List.append_nil samples).symm ▸ holds
  | cons sample more inductionHypothesis =>
    rw [List.foldl_cons, List.append_cons]
    exact inductionHypothesis (holds.push sample)

theorem captured_eq (inRate : Nat) (packets : List (List Rat)) :
    captured inRate packets = (packets.flatMap (resample inRate)).foldl Capture.push {} := by
  unfold captured
  generalize ({} : Capture) = start
  induction packets generalizing start with
  | nil => rfl
  | cons data packets inductionHypothesis =>
    rw [List.foldl_cons, inductionHypothesis, List.flatMap_cons, List.foldl_append]
    rfl

/-- No output sample is lost or repeated, and every chunk is whole. -/
theorem captured_holds (inRate : Nat) (packets : List (List Rat)) :
    (captured inRate packets).Holds (packets.flatMap (resample inRate)) := by
  rw [captured_eq]
  exact Capture.Holds.foldl ⟨rfl, List.forall_mem_nil _, by decide⟩ _

/-- A sample that is followed by a whole chunk was delivered. -/
theorem Capture.Holds.getElem?_delivered {capture : Capture} {samples : List Rat}
    (holds : capture.Holds samples) (place : Nat)
    (early : place + kFrameSamples ≤ samples.length) :
    capture.delivered.flatten[place]? = samples[place]? := by
  have total := congrArg List.length holds.whole
  rw [List.length_append] at total
  have rest := holds.rest
  rw [← holds.whole, List.getElem?_append_left (by omega)]

/-! ### Positions -/

section Positions

variable {inRate : Nat} (positive : 0 < inRate)

include positive

theorem ratio_pos : 0 < ratio inRate :=
  div_pos (Nat.cast_pos.mpr positive) (by decide +kernel)

theorem srcPos_nonneg (oi : Nat) : 0 ≤ oi * ratio inRate :=
  mul_nonneg (Nat.cast_nonneg oi) (ratio_pos positive).le

/-- The positions of a packet's samples are those before its end. -/
theorem lt_outCount_iff (frames oi : Nat) :
    oi < outCount inRate frames ↔ oi * ratio inRate < frames := by
  unfold outCount
  rw [Nat.lt_ceil, lt_div_iff₀ (ratio_pos positive)]

/-- The positions of a packet's samples end where the packet ends exactly if it is a whole
number of output steps long. -/
theorem outCount_mul_ratio_iff (frames : Nat) :
    outCount inRate frames * ratio inRate = frames ↔ inRate ∣ outRate * frames := by
  have step := ratio_pos positive
  have out : ((outRate : Nat) : Rat) ≠ 0 := by decide +kernel
  constructor
  · intro aligned
    refine ⟨outCount inRate frames, ?_⟩
    have product : (outCount inRate frames : Rat) * inRate = outRate * frames := by
      rw [← aligned, ratio]
      field_simp
    rw [mul_comm inRate]
    exact_mod_cast product.symm
  · rintro ⟨count, product⟩
    have quotient : (frames : Rat) / ratio inRate = count := by
      rw [div_eq_iff step.ne', ratio, ← mul_div_assoc, eq_div_iff out, mul_comm]
      exact_mod_cast product.trans (mul_comm inRate count)
    rw [outCount, quotient, Nat.ceil_natCast]
    exact (div_eq_iff step.ne').mp quotient |>.symm

/-- The source position of a sample beyond an aligned packet. -/
theorem floor_beyond {frames count : Nat} (aligned : count * ratio inRate = frames) (oi : Nat) :
    ((count + oi : Nat) : Rat) * ratio inRate = frames + oi * ratio inRate ∧
      ⌊((count + oi : Nat) : Rat) * ratio inRate⌋₊ = frames + ⌊oi * ratio inRate⌋₊ := by
  have position : ((count + oi : Nat) : Rat) * ratio inRate = frames + oi * ratio inRate := by
    rw [Nat.cast_add, add_mul, aligned]
  refine ⟨position, ?_⟩
  rw [position, add_comm, Nat.floor_add_natCast (srcPos_nonneg positive oi), add_comm]

/-- Beyond an aligned packet a sample is that of the packets that follow. -/
theorem interpolate_append_right {first second : List Rat} {count : Nat}
    (aligned : count * ratio inRate = first.length) (oi : Nat) :
    interpolate inRate (first ++ second) (count + oi) = interpolate inRate second oi := by
  obtain ⟨position, floor⟩ := floor_beyond positive aligned oi
  have data : ∀ lo, (first ++ second).getD (first.length + lo) 0 = second.getD lo 0 := by
    intro lo
    rw [List.getD_append_right _ _ _ _ (Nat.le_add_right _ _), Nat.add_sub_cancel_left]
  have next : first.length + ⌊oi * ratio inRate⌋₊ + 1 =
      first.length + (⌊oi * ratio inRate⌋₊ + 1) := Nat.add_assoc _ _ _
  unfold interpolate
  dsimp only
  rw [floor, position, List.length_append, next, data, data, Nat.cast_add,
    add_sub_add_left_eq_sub]
  refine if_congr (Nat.add_lt_add_iff_left) rfl (if_congr Nat.add_lt_add_iff_left rfl rfl)

/-- Below the end of an aligned packet the samples of the stream are those of the packet, if the
rate goes down. -/
theorem interpolate_append_left {first second : List Rat} (above : outRate < inRate)
    (aligned : outCount inRate first.length * ratio inRate = first.length) {oi : Nat}
    (inside : oi < outCount inRate first.length) :
    interpolate inRate (first ++ second) oi = interpolate inRate first oi := by
  have larger : 1 < ratio inRate :=
    (one_lt_div (by decide +kernel)).mpr (Nat.cast_lt.mpr above)
  have room : (oi + 1 : Rat) * ratio inRate ≤ first.length := by
    rw [← aligned]
    exact mul_le_mul_of_nonneg_right (by exact_mod_cast inside) (ratio_pos positive).le
  have floor := Nat.floor_le (srcPos_nonneg positive oi)
  have hi : ⌊oi * ratio inRate⌋₊ + 1 < first.length := by
    have less : ((⌊oi * ratio inRate⌋₊ + 1 : Nat) : Rat) < first.length := by
      rw [Nat.cast_succ]
      linarith only [larger, room, floor]
    exact_mod_cast less
  have hiStream : ⌊oi * ratio inRate⌋₊ + 1 < (first ++ second).length := by
    rw [List.length_append]
    exact Nat.lt_add_right _ hi
  unfold interpolate
  dsimp only
  rw [if_pos hi, if_pos hiStream, List.getD_append _ _ _ _ (Nat.lt_of_succ_lt hi),
    List.getD_append _ _ _ _ hi]

theorem outCount_append {first : Nat} (second : Nat)
    (aligned : outCount inRate first * ratio inRate = first) :
    outCount inRate (first + second) = outCount inRate first + outCount inRate second := by
  have step := ratio_pos positive
  have whole : (first : Rat) / ratio inRate = outCount inRate first :=
    (div_eq_iff step.ne').mpr aligned.symm
  have split : ((first + second : Nat) : Rat) / ratio inRate =
      second / ratio inRate + outCount inRate first := by
    rw [Nat.cast_add, add_div, whole, add_comm]
  rw [outCount, split, Nat.ceil_add_natCast (div_nonneg (Nat.cast_nonneg _) step.le), add_comm]
  rfl

end Positions

/-! ### Splits that are not seen -/

/-- A packet of this length may be followed by others: the samples pass through, the packet is
empty, or its samples end with it and the rate goes down. -/
def Seamless (inRate frames : Nat) : Prop :=
  inRate = outRate ∨ frames = 0 ∨ outRate < inRate ∧ inRate ∣ outRate * frames

theorem resample_nil (inRate : Nat) : resample inRate [] = [] := by
  unfold resample outCount
  rw [List.length_nil, Nat.cast_zero, zero_div, Nat.ceil_zero, List.range_zero, List.map_nil]
  exact ite_self _

theorem resample_append {inRate : Nat} (positive : 0 < inRate) {first : List Rat}
    (seamless : Seamless inRate first.length) (second : List Rat) :
    resample inRate (first ++ second) = resample inRate first ++ resample inRate second := by
  rcases seamless with same | empty | ⟨above, whole⟩
  · unfold resample
    rw [if_pos same, if_pos same, if_pos same]
  · rw [List.length_eq_zero_iff.mp empty, resample_nil]
    rfl
  · have aligned := (outCount_mul_ratio_iff positive first.length).mpr whole
    unfold resample
    rw [if_neg (Nat.ne_of_gt above), if_neg (Nat.ne_of_gt above), if_neg (Nat.ne_of_gt above),
      List.length_append, outCount_append positive _ aligned, List.range_add, List.map_append,
      List.map_map]
    refine congr (congrArg List.append (List.map_congr_left fun oi inside => ?_))
      (List.map_congr_left fun oi _ => ?_)
    · exact interpolate_append_left positive above aligned (List.mem_range.mp inside)
    · exact interpolate_append_right positive aligned oi

theorem resample_flatten {inRate : Nat} (positive : 0 < inRate) {packets : List (List Rat)}
    (seamless : ∀ data ∈ packets, Seamless inRate data.length) (last : List Rat) :
    (packets ++ [last]).flatMap (resample inRate) =
      resample inRate (packets ++ [last]).flatten := by
  induction packets with
  | nil =>
    show resample inRate last ++ [] = resample inRate (last ++ [])
    rw [List.append_nil, List.append_nil]
  | cons data packets inductionHypothesis =>
    obtain ⟨first, later⟩ := List.forall_mem_cons.mp seamless
    rw [List.cons_append, List.flatMap_cons, List.flatten_cons, inductionHypothesis later,
      resample_append positive first]

/-! ### Ramps -/

/-- Frames from a position on, each with its position as its value. -/
def ramp (start frames : Nat) : List Rat :=
  (List.range' start frames).map Nat.cast

theorem ramp_length (start frames : Nat) : (ramp start frames).length = frames := by
  rw [ramp, List.length_map, List.length_range']

theorem ramp_append (start first second : Nat) :
    ramp start first ++ ramp (start + first) second = ramp start (first + second) := by
  unfold ramp
  rw [← List.map_append, List.range'_append_1]

theorem ramp_getD {start frames place : Nat} (inside : place < frames) :
    (ramp start frames).getD place 0 = start + place := by
  rw [ramp, List.getD_eq_getElem?_getD, List.getElem?_map, List.getElem?_range' inside,
    Option.map_some, Option.getD_some, one_mul, Nat.cast_add]

/-- Inside a ramp a sample is its position. -/
theorem interpolate_ramp {inRate start frames oi : Nat}
    (inside : ⌊oi * ratio inRate⌋₊ + 1 < frames) :
    interpolate inRate (ramp start frames) oi = start + oi * ratio inRate := by
  unfold interpolate
  dsimp only
  rw [ramp_length, if_pos inside, ramp_getD (Nat.lt_of_succ_lt inside), ramp_getD inside,
    Nat.cast_succ]
  ring

/-- The last frame stands for what is beyond it. -/
theorem interpolate_ramp_last (start : Nat) {inRate frames oi : Nat}
    (last : ⌊oi * ratio inRate⌋₊ + 1 = frames) :
    interpolate inRate (ramp start frames) oi + 1 = start + frames := by
  unfold interpolate
  dsimp only
  have inside : ⌊oi * ratio inRate⌋₊ < frames := last ▸ Nat.lt_succ_self _
  rw [ramp_length, if_neg (last ▸ Nat.lt_irrefl _), if_pos inside, ramp_getD inside, add_assoc,
    ← Nat.cast_succ, Nat.succ_eq_add_one, last]

/-- The first sample of a packet is its first frame. -/
theorem interpolate_ramp_zero {inRate start frames : Nat} (some : 0 < frames) :
    interpolate inRate (ramp start frames) 0 = start := by
  unfold interpolate
  dsimp only
  rw [Nat.cast_zero, zero_mul, Nat.floor_zero, ramp_length, ramp_getD some]
  by_cases more : 0 + 1 < frames
  · rw [if_pos more, ramp_getD more]
    norm_num
  · rw [if_neg more, if_pos some]
    norm_num

/-- A ramp cut into packets of the given lengths. -/
def rampPackets (start : Nat) : List Nat → List (List Rat)
  | [] => []
  | frames :: later => ramp start frames :: rampPackets (start + frames) later

theorem rampPackets_lengths (start : Nat) (lengths : List Nat) :
    (rampPackets start lengths).map List.length = lengths := by
  induction lengths generalizing start with
  | nil => rfl
  | cons frames later inductionHypothesis =>
    rw [rampPackets, List.map_cons, ramp_length, inductionHypothesis]

theorem rampPackets_flatten (start : Nat) (lengths : List Nat) :
    (rampPackets start lengths).flatten = ramp start lengths.sum := by
  induction lengths generalizing start with
  | nil => rfl
  | cons frames later inductionHypothesis =>
    rw [rampPackets, List.flatten_cons, inductionHypothesis, ramp_append, List.sum_cons]

theorem rampPackets_append (start : Nat) (first second : List Nat) :
    rampPackets start (first ++ second) =
      rampPackets start first ++ rampPackets (start + first.sum) second := by
  induction first generalizing start with
  | nil => rfl
  | cons frames later inductionHypothesis =>
    rw [List.cons_append, rampPackets, inductionHypothesis, rampPackets, List.sum_cons,
      List.cons_append, Nat.add_assoc]

/-! ### Splits that are seen -/

theorem resample_length {inRate : Nat} (other : inRate ≠ outRate) (data : List Rat) :
    (resample inRate data).length = outCount inRate data.length := by
  unfold resample
  rw [if_neg other, List.length_map, List.length_range]

theorem resample_getElem? {inRate : Nat} (other : inRate ≠ outRate) {data : List Rat} {oi : Nat}
    (inside : oi < outCount inRate data.length) :
    (resample inRate data)[oi]? = some (interpolate inRate data oi) := by
  unfold resample
  rw [if_neg other, List.getElem?_map, List.getElem?_range inside, Option.map_some]

/-- The first packet length that may not be followed by others. -/
theorem exists_first_seam {inRate : Nat} {lengths : List Nat}
    (seam : ¬∀ frames ∈ lengths, Seamless inRate frames) :
    ∃ before frames after, lengths = before ++ frames :: after ∧
      (∀ earlier ∈ before, Seamless inRate earlier) ∧ ¬Seamless inRate frames := by
  induction lengths with
  | nil => exact absurd (List.forall_mem_nil _) seam
  | cons first later inductionHypothesis =>
    by_cases seamless : Seamless inRate first
    · obtain ⟨before, frames, after, split, earlier, found⟩ := inductionHypothesis fun all =>
        seam (List.forall_mem_cons.mpr ⟨seamless, all⟩)
      exact ⟨first :: before, frames, after, congrArg (first :: ·) split,
        List.forall_mem_cons.mpr ⟨seamless, earlier⟩, found⟩
    · exact ⟨[], first, later, rfl, List.forall_mem_nil _, seamless⟩

section Seams

variable {inRate : Nat} (positive : 0 < inRate) (other : inRate ≠ outRate)

include positive other

/-- The samples of seamless packets end where the packets end. -/
theorem seamless_count (start : Nat) {lengths : List Nat}
    (seamless : ∀ frames ∈ lengths, Seamless inRate frames) :
    ((rampPackets start lengths).flatMap (resample inRate)).length * ratio inRate =
      lengths.sum := by
  induction lengths generalizing start with
  | nil =>
    show ((0 : Nat) : Rat) * ratio inRate = ((0 : Nat) : Rat)
    rw [Nat.cast_zero, zero_mul]
  | cons frames later inductionHypothesis =>
    obtain ⟨first, rest⟩ := List.forall_mem_cons.mp seamless
    have aligned : outCount inRate frames * ratio inRate = frames := by
      rcases first with same | empty | ⟨-, whole⟩
      · exact absurd same other
      · exact (outCount_mul_ratio_iff positive frames).mpr (empty ▸ Nat.dvd_zero inRate)
      · exact (outCount_mul_ratio_iff positive frames).mpr whole
    rw [rampPackets, List.flatMap_cons, List.length_append, resample_length other, ramp_length,
      Nat.cast_add, add_mul, aligned, inductionHypothesis (start + frames) rest, List.sum_cons,
      Nat.cast_add]

theorem resample_ramp_zero (start : Nat) {frames : Nat} (more : 0 < frames) :
    (resample inRate (ramp start frames))[0]? = some (start : Rat) := by
  have inside : 0 < outCount inRate (ramp start frames).length := by
    rw [ramp_length, lt_outCount_iff positive, Nat.cast_zero, zero_mul]
    exact Nat.cast_pos.mpr more
  rw [resample_getElem? other inside, interpolate_ramp_zero more]

/-- What follows a packet begins with the frame after it. -/
theorem rest_getElem?_zero (start : Nat) (lengths : List Nat) {frames : Nat} (more : 0 < frames) :
    ((rampPackets start lengths ++ [ramp (start + lengths.sum) frames]).flatMap
      (resample inRate))[0]? = some (start : Rat) := by
  induction lengths generalizing start with
  | nil =>
    show (resample inRate (ramp (start + 0) frames) ++ [])[0]? = _
    rw [List.append_nil, Nat.add_zero, resample_ramp_zero positive other start more]
  | cons first later inductionHypothesis =>
    rw [rampPackets, List.cons_append, List.flatMap_cons, List.sum_cons, ← Nat.add_assoc]
    rcases Nat.eq_zero_or_pos first with empty | nonempty
    · have nothing : resample inRate (ramp start first) = [] := by
        rw [empty]
        exact resample_nil inRate
      rw [nothing, List.nil_append, inductionHypothesis (start + first), empty, Nat.add_zero]
    · have head := resample_ramp_zero positive other start nonempty
      rw [List.getElem?_append_left (List.getElem?_eq_some_iff.mp head).1, head]

/-- Below the output rate the last sample of a packet stays at its last frame, before its
position. -/
theorem last_sample_off {start bad : Nat} (below : inRate < outRate) (nonempty : bad ≠ 0)
    {count : Nat} (aligned : count * ratio inRate = start) :
    ∃ oi value, (resample inRate (ramp start bad))[oi]? = some value ∧
      value ≠ ((count + oi : Nat) : Rat) * ratio inRate := by
  have smaller : ratio inRate < 1 :=
    (div_lt_one (by decide +kernel)).mpr (Nat.cast_lt.mpr below)
  have some : 0 < outCount inRate bad := by
    rw [lt_outCount_iff positive, Nat.cast_zero, zero_mul]
    exact Nat.cast_pos.mpr (Nat.pos_of_ne_zero nonempty)
  have inside : outCount inRate bad - 1 < outCount inRate bad := Nat.sub_lt some Nat.one_pos
  have before := (lt_outCount_iff positive bad _).mp inside
  have beyond : (bad : Rat) ≤ outCount inRate bad * ratio inRate :=
    not_lt.mp fun less => Nat.lt_irrefl _ ((lt_outCount_iff positive bad _).mpr less)
  have position : ((outCount inRate bad - 1 : Nat) : Rat) * ratio inRate =
      outCount inRate bad * ratio inRate - ratio inRate := by
    rw [Nat.cast_sub some, Nat.cast_one, sub_mul, one_mul]
  have last : ⌊((outCount inRate bad - 1 : Nat) : Rat) * ratio inRate⌋₊ + 1 = bad := by
    have floor : ⌊((outCount inRate bad - 1 : Nat) : Rat) * ratio inRate⌋₊ = bad - 1 := by
      rw [Nat.floor_eq_iff (srcPos_nonneg positive _), Nat.cast_sub (Nat.pos_of_ne_zero nonempty),
        Nat.cast_one, sub_add_cancel]
      exact ⟨by linarith only [position, beyond, smaller], before⟩
    rw [floor, Nat.sub_add_cancel (Nat.pos_of_ne_zero nonempty)]
  have value := interpolate_ramp_last start last
  refine ⟨outCount inRate bad - 1, _, resample_getElem? other (by rwa [ramp_length]), ?_⟩
  intro same
  rw [Nat.cast_add, add_mul, aligned] at same
  rw [same, position] at value
  linarith only [value, beyond, smaller]

/-- In a ramp that is cut badly one sample is off its position, however long the last packet. -/
theorem exists_sample_off {lengths : List Nat}
    (seam : ¬∀ frames ∈ lengths, Seamless inRate frames) :
    ∃ (place : Nat) (value : Rat), value ≠ place * ratio inRate ∧ ∀ frames, 0 < frames →
      ((rampPackets 0 lengths ++ [ramp lengths.sum frames]).flatMap (resample inRate))[place]? =
        some value := by
  obtain ⟨before, bad, after, rfl, earlier, seam⟩ := exists_first_seam seam
  have count := seamless_count positive other 0 earlier
  have nonempty : bad ≠ 0 := fun empty => seam (Or.inr (Or.inl empty))
  have split : ∀ frames, (rampPackets 0 (before ++ bad :: after) ++
      [ramp (before ++ bad :: after).sum frames]).flatMap (resample inRate) =
      (rampPackets 0 before).flatMap (resample inRate) ++ (resample inRate (ramp before.sum bad) ++
        (rampPackets (before.sum + bad) after ++
          [ramp (before.sum + bad + after.sum) frames]).flatMap (resample inRate)) := by
    intro frames
    rw [rampPackets_append, rampPackets, List.sum_append, List.sum_cons, Nat.zero_add,
      List.append_assoc, List.cons_append, List.flatMap_append, List.flatMap_cons, Nat.add_assoc]
  rcases Nat.lt_or_gt_of_ne other with below | above
  · obtain ⟨oi, value, found, off⟩ := last_sample_off positive other below nonempty count
    refine ⟨_, value, off, fun frames _ => ?_⟩
    rw [split, List.getElem?_append_right (Nat.le_add_right _ _), Nat.add_sub_cancel_left,
      List.getElem?_append_left (List.getElem?_eq_some_iff.mp found).1, found]
  · have unaligned : outCount inRate bad * ratio inRate ≠ bad := fun aligned =>
      seam (Or.inr (Or.inr ⟨above, (outCount_mul_ratio_iff positive bad).mp aligned⟩))
    refine ⟨((rampPackets 0 before).flatMap (resample inRate)).length + outCount inRate bad,
      ((before.sum + bad : Nat) : Rat), fun same => ?_, fun frames more => ?_⟩
    · rw [Nat.cast_add, Nat.cast_add, add_mul, count] at same
      exact unaligned (add_left_cancel same).symm
    · have length : (resample inRate (ramp before.sum bad)).length = outCount inRate bad := by
        rw [resample_length other, ramp_length]
      rw [split, List.getElem?_append_right (Nat.le_add_right _ _), Nat.add_sub_cancel_left,
        List.getElem?_append_right length.le, length, Nat.sub_self]
      exact rest_getElem?_zero positive other _ after more

end Seams

/-! ### Independence of the split -/

/-- Packets of the given lengths and a last one of any length are handed on like the one packet
they were cut from, whole and in chunks of the right size. -/
def SplitUnseen (inRate : Nat) (lengths : List Nat) : Prop :=
  ∀ packets last, packets.map List.length = lengths →
    (∀ chunk ∈ (captured inRate (packets ++ [last])).delivered, chunk.length = kFrameSamples) ∧
    (captured inRate (packets ++ [last])).delivered =
      (captured inRate [(packets ++ [last]).flatten]).delivered

theorem split_unseen_of_seamless {inRate : Nat} (positive : 0 < inRate) {lengths : List Nat}
    (seamless : ∀ frames ∈ lengths, Seamless inRate frames) : SplitUnseen inRate lengths := by
  intro packets last sizes
  have each : ∀ data ∈ packets, Seamless inRate data.length := fun data member =>
    seamless _ (sizes ▸ List.mem_map_of_mem member)
  refine ⟨(captured_holds inRate _).chunks, ?_⟩
  rw [captured_eq, captured_eq, resample_flatten positive each, List.flatMap_singleton]

/-- A packet has a sample for every position before its end. -/
theorem add_le_outCount {inRate : Nat} (positive : 0 < inRate) {count frames : Nat}
    (long : inRate * count < frames) : count ≤ outCount inRate frames := by
  refine Nat.le_of_not_lt fun short => ?_
  have beyond : ¬count * ratio inRate < frames := fun less =>
    absurd ((lt_outCount_iff positive frames count).mpr less) (Nat.lt_asymm short)
  refine beyond (lt_of_le_of_lt ?_ (Nat.cast_lt.mpr long))
  have smaller : ratio inRate ≤ inRate :=
    div_le_self (Nat.cast_nonneg _) (by decide +kernel)
  rw [Nat.cast_mul, mul_comm]
  exact mul_le_mul_of_nonneg_right smaller (Nat.cast_nonneg _)

/-- A sample of a long ramp in one packet is its position. -/
theorem ramp_getElem? {inRate : Nat} (positive : 0 < inRate) (other : inRate ≠ outRate)
    {place frames : Nat} (long : inRate * (place + kFrameSamples) + 1 < frames) :
    (resample inRate (ramp 0 frames))[place]? = some (place * ratio inRate) := by
  have early : inRate * place ≤ inRate * (place + kFrameSamples) :=
    Nat.mul_le_mul_left _ (Nat.le_add_right _ _)
  have inside : place < outCount inRate (ramp 0 frames).length := by
    rw [ramp_length]
    exact lt_of_lt_of_le (Nat.lt_add_of_pos_right (by decide))
      (add_le_outCount positive (lt_trans (Nat.lt_succ_self _) long))
  have floor : ⌊place * ratio inRate⌋₊ ≤ inRate * place := by
    refine Nat.floor_le_of_le ?_
    have smaller : ratio inRate ≤ inRate := div_le_self (Nat.cast_nonneg _) (by decide +kernel)
    rw [Nat.cast_mul, mul_comm]
    exact mul_le_mul_of_nonneg_right smaller (Nat.cast_nonneg _)
  rw [resample_getElem? other inside, interpolate_ramp (by omega), Nat.cast_zero, zero_add]

theorem seamless_of_split_unseen {inRate : Nat} (positive : 0 < inRate) {lengths : List Nat}
    (unseen : SplitUnseen inRate lengths) : ∀ frames ∈ lengths, Seamless inRate frames := by
  by_contra seam
  have other : inRate ≠ outRate := fun same => seam fun _ _ => Or.inl same
  obtain ⟨place, value, off, found⟩ := exists_sample_off positive other seam
  let frames := inRate * (place + kFrameSamples) + 2
  have long : inRate * (place + kFrameSamples) + 1 < frames := Nat.lt_succ_self _
  have enough : place + kFrameSamples ≤ outCount inRate frames :=
    add_le_outCount positive (lt_trans (Nat.lt_succ_self _) long)
  obtain ⟨-, same⟩ := unseen (rampPackets 0 lengths) (ramp lengths.sum frames)
    (rampPackets_lengths 0 lengths)
  have whole : (rampPackets 0 lengths ++ [ramp lengths.sum frames]).flatten =
      ramp 0 (lengths.sum + frames) := by
    have joined := ramp_append 0 lengths.sum frames
    rw [Nat.zero_add] at joined
    rw [List.flatten_append, rampPackets_flatten, List.flatten_singleton, joined]
  have split := (captured_holds inRate
    (rampPackets 0 lengths ++ [ramp lengths.sum frames])).getElem?_delivered place (by
      rw [List.flatMap_append, List.flatMap_singleton, List.length_append,
        resample_length other (ramp _ _), ramp_length]
      exact le_trans enough (Nat.le_add_left _ _))
  have single := (captured_holds inRate [ramp 0 (lengths.sum + frames)]).getElem?_delivered
    place (by
      rw [List.flatMap_singleton, resample_length other, ramp_length]
      exact add_le_outCount positive
        (lt_of_lt_of_le (lt_trans (Nat.lt_succ_self _) long) (Nat.le_add_left _ _)))
  rw [whole] at same
  rw [same, single, found frames (Nat.succ_pos _), List.flatMap_singleton,
    ramp_getElem? positive other (lt_of_lt_of_le long (Nat.le_add_left _ _))] at split
  exact off (Option.some.inj split).symm

/-- Over the rationals a split of a stream into packets of given lengths is not seen in what the
callback receives exactly at 16 kHz, or if every packet but the last is empty or brings the rate
down and is a whole number of output steps long. -/
theorem split_unseen_iff (inRate : Nat) (positive : 0 < inRate) (lengths : List Nat) :
    SplitUnseen inRate lengths ↔
      inRate = 16000 ∨
        ∀ frames ∈ lengths, frames = 0 ∨ 16000 < inRate ∧ inRate ∣ 16000 * frames := by
  constructor
  · intro unseen
    by_cases same : inRate = 16000
    · exact Or.inl same
    · refine Or.inr fun frames member => ?_
      exact (seamless_of_split_unseen positive unseen frames member).resolve_left same
  · rintro (same | each)
    · exact split_unseen_of_seamless positive fun _ _ => Or.inl same
    · exact split_unseen_of_seamless positive fun frames member => Or.inr (each frames member)

/-- At 48 kHz packets of 480 frames are not seen. -/
theorem split_unseen_at_48000 : SplitUnseen 48000 [480, 480] :=
  (split_unseen_iff 48000 (by decide) [480, 480]).mpr (Or.inr (by decide))

/-- At 44.1 kHz a packet of 448 frames takes 163 samples, and the next one starts at position 448
where the stream is already past 449. -/
theorem split_seen_at_44100 :
    (captured 44100 [ramp 0 448, ramp 448 2000]).delivered.flatten[163]? = some 448 ∧
    (captured 44100 [ramp 0 2448]).delivered.flatten[163]? = some (163 * ratio 44100) ∧
    ¬SplitUnseen 44100 [448] := by
  have other : 44100 ≠ outRate := by decide
  have split : (captured 44100 [ramp 0 448, ramp 448 2000]).delivered.flatten[163]? =
      some 448 := by
    have length : (resample 44100 (ramp 0 448)).length = 163 := by
      rw [resample_length other, ramp_length]
      decide +kernel
    rw [(captured_holds 44100 [ramp 0 448, ramp 448 2000]).getElem?_delivered 163]
    · rw [List.flatMap_cons, List.flatMap_singleton, List.getElem?_append_right length.le, length]
      exact resample_ramp_zero (by decide) other 448 (by decide)
    · rw [List.flatMap_cons, List.flatMap_singleton, List.length_append, length,
        resample_length other, ramp_length]
      decide +kernel
  have single : (captured 44100 [ramp 0 2448]).delivered.flatten[163]? =
      some (163 * ratio 44100) := by
    rw [(captured_holds 44100 [ramp 0 2448]).getElem?_delivered 163]
    · rw [List.flatMap_singleton, resample_getElem? other (by rw [ramp_length]; decide +kernel),
        interpolate_ramp (by decide +kernel), Nat.cast_zero, zero_add]
      rfl
    · rw [List.flatMap_singleton, resample_length other, ramp_length]
      decide +kernel
  refine ⟨split, single, fun unseen => ?_⟩
  obtain ⟨-, same⟩ := unseen [ramp 0 448] (ramp 448 2000)
    (by rw [List.map_cons, List.map_nil, ramp_length])
  have whole : ([ramp 0 448] ++ [ramp 448 2000]).flatten = ramp 0 2448 := by
    show ramp 0 448 ++ (ramp 448 2000 ++ []) = _
    rw [List.append_nil]
    exact ramp_append 0 448 2000
  have equal := congrArg (fun chunks => chunks.flatten[163]?) same
  rw [whole] at equal
  rw [show (captured 44100 ([ramp 0 448] ++ [ramp 448 2000])).delivered.flatten[163]? = some 448
    from split, single] at equal
  exact absurd (Option.some.inj equal) (by decide +kernel)

end PairDriver.WasapiCapture
