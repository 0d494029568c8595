import GroupVoip.CodecInfo
import GroupVoip.Library.Buffers
import GroupVoip.Library.Runs

/-!
# AudioResampler

The resampler cuts what the rate converter yields into frames of 1152 samples
and keeps the rest for the next call.  All lengths are counted in sample
frames `α`, one sample of every input channel, and the converter is a
parameter.
-/

namespace GroupVoip

open Library.Buffers Library.Runs

/-- What is fixed when a resampler is made. -/
structure ResamplerSetting where
  inputFreq : Nat
  inputChannels : Nat
  outputFreq : Nat
  outputChannels : Nat
  inputChannels_eq : inputChannels = 1 ∨ inputChannels = 2
  outputChannels_eq : outputChannels = 2

namespace ResamplerSetting

/-- The sample frames that fit in one of the `44100 * 2` buffers. -/
def bufSize (setting : ResamplerSetting) : Nat :=
  44100 * 2 / setting.inputChannels

def remainingSize (setting : ResamplerSetting) : Nat :=
  MP3_FRAME_SAMPLE_SIZE * 2 / setting.inputChannels

end ResamplerSetting

/-- What the converter yields for one input; it is given room for 44100
frames. -/
structure Converted (α : Type) where
  samples : List α
  length_le : samples.length ≤ 44100

/-- `src_process` between the two conversions of the samples, on the state
`γ`; it may fail. -/
abbrev Converter (γ α : Type) : Type :=
  γ → List α → Option (γ × Converted α)

structure AudioResampler (γ α : Type) (setting : ResamplerSetting) where
  resamplerState : γ
  resampleShortBufOut : Buffer α setting.bufSize
  mp3FrameList : List (List α) := []
  resampleShortRemaining : Buffer α setting.remainingSize
  remainingSampleCnt : Nat := 0

variable {γ α : Type} {setting : ResamplerSetting}

namespace AudioResampler

/-- The first half of `resample`: the new samples in `resampleShortBufOut`,
and their number. -/
def convert (src : Converter γ α) (r : AudioResampler γ α setting)
    (inputData : List α) :
    Except Abort (Option (AudioResampler γ α setting × Nat)) :=
  if setting.inputFreq = setting.outputFreq then do
    let resampleShortBufOut ← inBounds (r.resampleShortBufOut.write 0 inputData)
    return some
      ({ r with resampleShortBufOut := resampleShortBufOut }, inputData.length)
  else if inputData.length ≤ setting.bufSize then
    match src r.resamplerState inputData with
    | none => .ok none
    | some (resamplerState, converted) => do
        let resampleShortBufOut ←
          inBounds (r.resampleShortBufOut.write 0 converted.samples)
        return some
          ({ r with
              resamplerState := resamplerState
              resampleShortBufOut := resampleShortBufOut },
            converted.samples.length)
  else .error .undefinedBehaviour

/-- A frame of the samples that remain and the first new ones. -/
def partFrame (r : AudioResampler γ α setting) : Option (List α) := do
  guard (r.remainingSampleCnt ≤ MP3_FRAME_SAMPLE_SIZE)
  let remaining ← r.resampleShortRemaining.read 0 r.remainingSampleCnt
  let fresh ← r.resampleShortBufOut.read 0
    (MP3_FRAME_SAMPLE_SIZE - r.remainingSampleCnt)
  return remaining ++ fresh

/-- Append new samples, from `samplesToSkip` on, to those that remain. -/
def keepRemaining (r : AudioResampler γ α setting)
    (samplesToSkip sampleCount : Nat) :
    Option (Buffer α setting.remainingSize) := do
  let fresh ← r.resampleShortBufOut.read samplesToSkip sampleCount
  r.resampleShortRemaining.write r.remainingSampleCnt fresh

end AudioResampler

structure PushLoop (γ α : Type) (setting : ResamplerSetting) where
  resampler : AudioResampler γ α setting
  sampleCount : Nat
  samplesToSkip : Nat := 0

namespace PushLoop

/-- Samples remain from before.  They are joined with the new samples from
the first one on. -/
def joinTurn (l : PushLoop γ α setting) :
    Except Abort (PushLoop γ α setting) :=
  let r := l.resampler
  if r.remainingSampleCnt + l.sampleCount ≥ MP3_FRAME_SAMPLE_SIZE then do
    let rawFrame ← inBounds r.partFrame
    let samplesToCopyFromOutBuf := MP3_FRAME_SAMPLE_SIZE - r.remainingSampleCnt
    return {
      resampler :=
        { r with
          remainingSampleCnt := 0
          mp3FrameList := r.mp3FrameList ++ [rawFrame] }
      sampleCount := l.sampleCount - samplesToCopyFromOutBuf
      samplesToSkip := samplesToCopyFromOutBuf }
  else do
    let resampleShortRemaining ← inBounds (r.keepRemaining 0 l.sampleCount)
    return {
      resampler :=
        { r with
          resampleShortRemaining := resampleShortRemaining
          remainingSampleCnt := r.remainingSampleCnt + l.sampleCount }
      sampleCount := 0
      samplesToSkip := 0 }

/-- Nothing remains from before.  A frame is cut from the first new sample
on, and `remainingSampleCnt` is set without a copy. -/
def freshTurn (l : PushLoop γ α setting) :
    Except Abort (PushLoop γ α setting) :=
  let r := l.resampler
  if l.sampleCount ≥ MP3_FRAME_SAMPLE_SIZE then do
    let rawFrame ←
      inBounds (r.resampleShortBufOut.read 0 MP3_FRAME_SAMPLE_SIZE)
    return {
      resampler :=
        { r with
          remainingSampleCnt := l.sampleCount - MP3_FRAME_SAMPLE_SIZE
          mp3FrameList := r.mp3FrameList ++ [rawFrame] }
      sampleCount := l.sampleCount - MP3_FRAME_SAMPLE_SIZE
      samplesToSkip := MP3_FRAME_SAMPLE_SIZE }
  else do
    let resampleShortRemaining ←
      inBounds (r.keepRemaining l.samplesToSkip l.sampleCount)
    return {
      resampler :=
        { r with
          resampleShortRemaining := resampleShortRemaining
          remainingSampleCnt := l.sampleCount }
      sampleCount := 0
      samplesToSkip := 0 }

def turn (l : PushLoop γ α setting) : Except Abort (PushLoop γ α setting) :=
  if l.resampler.remainingSampleCnt ≠ 0 then l.joinTurn else l.freshTurn

def turns : Nat → PushLoop γ α setting → Except Abort (PushLoop γ α setting)
  | 0, l => .ok l
  | more + 1, l =>
      if l.sampleCount > 0 then do
        let next ← l.turn
        turns more next
      else .ok l

end PushLoop

namespace AudioResampler

/-- `AudioResampler::resample`: whether the converter succeeded, and the
resampler afterwards. -/
def resample (src : Converter γ α) (r : AudioResampler γ α setting)
    (inputData : List α) :
    Except Abort (Bool × AudioResampler γ α setting) := do
  match ← r.convert src inputData with
  | none => return (false, r)
  | some (r, sampleCount) =>
      let l ← PushLoop.turns (2 * sampleCount + 1)
        { resampler := r, sampleCount := sampleCount }
      return (true, l.resampler)

/-- `AudioResampler::getNextRawMp3Frame`: the newest frame and whether it is
stereo. -/
def getNextRawMp3Frame (r : AudioResampler γ α setting) :
    Option (List α × Bool) × AudioResampler γ α setting :=
  match r.mp3FrameList.getLast? with
  | some res =>
      (some (res, setting.inputChannels = 2),
        { r with mp3FrameList := r.mp3FrameList.dropLast })
  | none => (none, r)

end AudioResampler

/-! ## The number of turns -/

namespace PushLoop

/-- A turn without samples to copy leaves nothing remaining, so two turns
take at least one sample. -/
def left (l : PushLoop γ α setting) : Nat :=
  2 * l.sampleCount + if l.resampler.remainingSampleCnt ≠ 0 then 1 else 0

theorem joinTurn_left {l l' : PushLoop γ α setting}
    (some : 0 < l.sampleCount) (remain : l.resampler.remainingSampleCnt ≠ 0)
    (turned : l.joinTurn = .ok l') : l'.left < l.left := by
  simp only [joinTurn] at turned
  split at turned
  · obtain ⟨rawFrame, _, rest⟩ := bind_ok.mp turned
    cases rest
    simp only [left, remain, ne_eq, not_true, not_false_iff, if_true, if_false]
    omega
  · obtain ⟨kept, _, rest⟩ := bind_ok.mp turned
    cases rest
    simp only [left, remain, ne_eq, not_false_iff, if_true]
    split <;> omega

theorem freshTurn_left {l l' : PushLoop γ α setting}
    (some : 0 < l.sampleCount) (turned : l.freshTurn = .ok l') :
    l'.left < l.left := by
  simp only [freshTurn] at turned
  split at turned
  · rename_i enough
    obtain ⟨rawFrame, _, rest⟩ := bind_ok.mp turned
    cases rest
    have value : MP3_FRAME_SAMPLE_SIZE = 1152 := rfl
    simp only [left]
    split <;> split <;> omega
  · obtain ⟨kept, _, rest⟩ := bind_ok.mp turned
    cases rest
    simp only [left]
    split <;> split <;> omega

theorem turn_left {l l' : PushLoop γ α setting} (some : 0 < l.sampleCount)
    (turned : l.turn = .ok l') : l'.left < l.left := by
  unfold turn at turned
  split at turned
  · rename_i remain
    exact joinTurn_left some remain turned
  · exact freshTurn_left some turned

/-- The loop of `resample` ends because no samples are left. -/
theorem turns_done {more : Nat} :
    ∀ {l l' : PushLoop γ α setting}, l.left ≤ more →
      turns more l = .ok l' → l'.sampleCount = 0 := by
  induction more with
  | zero =>
      intro l l' enough ended
      cases ended
      unfold left at enough
      omega
  | succ more inductionHypothesis =>
      intro l l' enough ended
      unfold turns at ended
      split at ended
      · rename_i some
        obtain ⟨next, turned, rest⟩ := bind_ok.mp ended
        have less := turn_left some turned
        exact inductionHypothesis (by omega) rest
      · rename_i none
        cases ended
        omega

/-- The turns that `resample` allows are enough. -/
theorem turns_resample {r : AudioResampler γ α setting} {sampleCount : Nat}
    {l : PushLoop γ α setting}
    (looped : turns (2 * sampleCount + 1)
      { resampler := r, sampleCount := sampleCount } = .ok l) :
    l.sampleCount = 0 := by
  apply turns_done _ looped
  simp only [left]
  split <;> omega

end PushLoop

end GroupVoip
