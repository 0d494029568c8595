import GroupVoip.AudioResampler

/-!
# The samples that a resampler returns

A call whose samples fill at most one frame, at the right moment, puts every
sample in its place.  Every other call loses samples, repeats some, or turns
the order of the frames round.
-/

namespace GroupVoip

open Library.Buffers Library.Runs

variable {γ α : Type} {setting : ResamplerSetting}

theorem ResamplerSetting.le_bufSize (setting : ResamplerSetting) :
    44100 ≤ setting.bufSize := by
  unfold bufSize
  rcases setting.inputChannels_eq with mono | stereo
  · rw [mono]
    decide
  · rw [stereo]

theorem ResamplerSetting.le_remainingSize (setting : ResamplerSetting) :
    MP3_FRAME_SAMPLE_SIZE ≤ setting.remainingSize := by
  unfold remainingSize
  rcases setting.inputChannels_eq with mono | stereo
  · rw [mono]
    decide
  · rw [stereo]
    decide

namespace AudioResampler

/-- The samples that the next loop goes over. -/
def converterOutput (src : Converter γ α) (r : AudioResampler γ α setting)
    (inputData : List α) : List α :=
  if setting.inputFreq = setting.outputFreq then inputData
  else
    match src r.resamplerState inputData with
    | none => []
    | some (_, converted) => converted.samples

def remaining (r : AudioResampler γ α setting) : List α :=
  r.resampleShortRemaining.cells.take r.remainingSampleCnt

theorem length_remaining {r : AudioResampler γ α setting}
    (few : r.remainingSampleCnt < MP3_FRAME_SAMPLE_SIZE) :
    r.remaining.length = r.remainingSampleCnt := by
  have size := setting.le_remainingSize
  have length_eq := r.resampleShortRemaining.length_eq
  rw [remaining, List.length_take]
  omega

/-- The converter fails and yields nothing, or its samples are at the start of
`resampleShortBufOut`. -/
theorem convert_of_fits (src : Converter γ α) (r : AudioResampler γ α setting)
    {inputData : List α} (fits : inputData.length ≤ setting.bufSize) :
    (r.convert src inputData = .ok none ∧
        r.converterOutput src inputData = []) ∨
      ∃ resamplerState resampleShortBufOut,
        r.resampleShortBufOut.write 0 (r.converterOutput src inputData) =
          some resampleShortBufOut ∧
        r.convert src inputData = .ok (some
          ({ r with
              resamplerState := resamplerState
              resampleShortBufOut := resampleShortBufOut },
            (r.converterOutput src inputData).length)) := by
  have room := setting.le_bufSize
  simp only [convert, converterOutput]
  by_cases same : setting.inputFreq = setting.outputFreq
  · simp only [if_pos same]
    obtain ⟨written, write⟩ := r.resampleShortBufOut.exists_write 0 inputData
      (by omega)
    refine Or.inr ⟨r.resamplerState, written, write, ?_⟩
    rw [write]
    rfl
  · simp only [if_neg same, if_pos fits]
    rcases src r.resamplerState inputData with _ | ⟨resamplerState, converted⟩
    · exact Or.inl ⟨rfl, rfl⟩
    · have length_le := converted.length_le
      obtain ⟨written, write⟩ := r.resampleShortBufOut.exists_write 0
        converted.samples (by omega)
      refine Or.inr ⟨resamplerState, written, write, ?_⟩
      simp only [write]
      rfl

/-- Samples that do not fill a frame are appended to those that remain. -/
theorem keepRemaining_of_lt {r : AudioResampler γ α setting}
    {samplesToSkip sampleCount : Nat} {fresh : List α}
    (few : r.remainingSampleCnt + sampleCount < MP3_FRAME_SAMPLE_SIZE)
    (read : r.resampleShortBufOut.read samplesToSkip sampleCount = some fresh)
    (length_eq : fresh.length = sampleCount) :
    ∃ kept, r.keepRemaining samplesToSkip sampleCount = some kept ∧
      kept.cells.take (r.remainingSampleCnt + sampleCount) =
        r.remaining ++ fresh := by
  have size := setting.le_remainingSize
  obtain ⟨kept, write⟩ := r.resampleShortRemaining.exists_write
    r.remainingSampleCnt fresh (by omega)
  refine ⟨kept, ?_, ?_⟩
  · rw [keepRemaining, read]
    exact write
  · rw [← length_eq]
    exact Buffer.take_write write

theorem partFrame_of_le {r : AudioResampler γ α setting} {fresh : List α}
    (few : r.remainingSampleCnt < MP3_FRAME_SAMPLE_SIZE)
    (read : r.resampleShortBufOut.read 0
      (MP3_FRAME_SAMPLE_SIZE - r.remainingSampleCnt) = some fresh) :
    r.partFrame = some (r.remaining ++ fresh) := by
  have size := setting.le_remainingSize
  have old : r.resampleShortRemaining.read 0 r.remainingSampleCnt =
      some r.remaining := by
    rw [Buffer.read_of_le (by omega), List.drop_zero]
    rfl
  rw [partFrame, old, read]
  simp [few.le, guard]

end AudioResampler

/-! ## The loop -/

namespace PushLoop

theorem turns_of_zero {l : PushLoop γ α setting} (more : Nat)
    (none : l.sampleCount = 0) : turns more l = .ok l := by
  cases more with
  | zero => rfl
  | succ more => simp [turns, none]

theorem turns_succ {l next : PushLoop γ α setting} (more : Nat)
    (some : 0 < l.sampleCount) (turned : l.turn = .ok next) :
    turns (more + 1) l = turns more next := by
  rw [turns, if_pos some, turned]
  rfl

theorem turn_keep {l : PushLoop γ α setting} {fresh : List α}
    (few : l.resampler.remainingSampleCnt + l.sampleCount <
      MP3_FRAME_SAMPLE_SIZE)
    (read : l.resampler.resampleShortBufOut.read
      (if l.resampler.remainingSampleCnt ≠ 0 then 0 else l.samplesToSkip)
      l.sampleCount = some fresh)
    (length_eq : fresh.length = l.sampleCount) :
    ∃ next, l.turn = .ok next ∧ next.sampleCount = 0 ∧
      next.resampler.mp3FrameList = l.resampler.mp3FrameList ∧
      next.resampler.remainingSampleCnt < MP3_FRAME_SAMPLE_SIZE ∧
      next.resampler.remaining = l.resampler.remaining ++ fresh := by
  obtain ⟨kept, keep, cells⟩ :=
    AudioResampler.keepRemaining_of_lt few read length_eq
  have turned : l.turn = .ok {
      resampler :=
        { l.resampler with
          resampleShortRemaining := kept
          remainingSampleCnt :=
            l.resampler.remainingSampleCnt + l.sampleCount }
      sampleCount := 0
      samplesToSkip := 0 } := by
    by_cases remain : l.resampler.remainingSampleCnt ≠ 0
    · rw [if_pos remain] at keep
      rw [turn, if_pos remain, joinTurn, if_neg (by omega), keep]
      rfl
    · rw [if_neg remain] at keep
      rw [turn, if_neg remain, freshTurn, if_neg (by omega), keep,
        not_not.mp remain, Nat.zero_add]
      rfl
  exact ⟨_, turned, rfl, rfl, few, cells⟩

theorem turn_join {l : PushLoop γ α setting} {fresh : List α}
    (remain : 0 < l.resampler.remainingSampleCnt)
    (few : l.resampler.remainingSampleCnt < MP3_FRAME_SAMPLE_SIZE)
    (enough : MP3_FRAME_SAMPLE_SIZE ≤
      l.resampler.remainingSampleCnt + l.sampleCount)
    (read : l.resampler.resampleShortBufOut.read 0
      (MP3_FRAME_SAMPLE_SIZE - l.resampler.remainingSampleCnt) = some fresh) :
    l.turn = .ok {
      resampler :=
        { l.resampler with
          remainingSampleCnt := 0
          mp3FrameList := l.resampler.mp3FrameList ++
            [l.resampler.remaining ++ fresh] }
      sampleCount := l.sampleCount -
        (MP3_FRAME_SAMPLE_SIZE - l.resampler.remainingSampleCnt)
      samplesToSkip :=
        MP3_FRAME_SAMPLE_SIZE - l.resampler.remainingSampleCnt } := by
  have frame := AudioResampler.partFrame_of_le few read
  rw [turn, if_pos (by omega), joinTurn, if_pos enough, frame]
  rfl

theorem turn_cut {l : PushLoop γ α setting} {fresh : List α}
    (none : l.resampler.remainingSampleCnt = 0)
    (enough : MP3_FRAME_SAMPLE_SIZE ≤ l.sampleCount)
    (read : l.resampler.resampleShortBufOut.read 0 MP3_FRAME_SAMPLE_SIZE =
      some fresh) :
    l.turn = .ok {
      resampler :=
        { l.resampler with
          remainingSampleCnt := l.sampleCount - MP3_FRAME_SAMPLE_SIZE
          mp3FrameList := l.resampler.mp3FrameList ++ [fresh] }
      sampleCount := l.sampleCount - MP3_FRAME_SAMPLE_SIZE
      samplesToSkip := MP3_FRAME_SAMPLE_SIZE } := by
  rw [turn, if_neg (by omega), freshTurn, if_pos enough, read]
  rfl

end PushLoop

/-! ## One call -/

namespace AudioResampler

/-- The samples of a call fill no frame, or they fill one, and the one before
has been taken. -/
def FillsOneFrame (r : AudioResampler γ α setting) (sampleCount : Nat) : Prop :=
  r.remainingSampleCnt + sampleCount < MP3_FRAME_SAMPLE_SIZE ∨
    (r.mp3FrameList = [] ∧
      (r.remainingSampleCnt = 0 ∧ sampleCount = MP3_FRAME_SAMPLE_SIZE ∨
        0 < r.remainingSampleCnt ∧
          r.remainingSampleCnt + sampleCount < 2 * MP3_FRAME_SAMPLE_SIZE))

structure Filled (r r' : AudioResampler γ α setting) (samples : List α) :
    Prop where
  few : r'.remainingSampleCnt < MP3_FRAME_SAMPLE_SIZE
  kept : (r'.mp3FrameList = r.mp3FrameList ∧
      r'.remaining = r.remaining ++ samples) ∨
    (r.mp3FrameList = [] ∧ ∃ frame, r'.mp3FrameList = [frame] ∧
      frame.length = MP3_FRAME_SAMPLE_SIZE ∧
      frame ++ r'.remaining = r.remaining ++ samples)

section Filling

variable {r : AudioResampler γ α setting} {samples : List α}

/-- The samples of the call are at the start of `resampleShortBufOut`. -/
def Holds (r : AudioResampler γ α setting) (samples : List α) : Prop :=
  ∀ start count, start + count ≤ samples.length →
    r.resampleShortBufOut.read start count =
      some ((samples.drop start).take count)

def loop (r : AudioResampler γ α setting) (samples : List α) :
    Except Abort (PushLoop γ α setting) :=
  PushLoop.turns (2 * samples.length + 1)
    { resampler := r, sampleCount := samples.length }

theorem loop_keep (holds : r.Holds samples)
    (few : r.remainingSampleCnt + samples.length < MP3_FRAME_SAMPLE_SIZE) :
    ∃ l, r.loop samples = .ok l ∧ Filled r l.resampler samples := by
  by_cases empty : samples.length = 0
  · have noSamples := List.eq_nil_of_length_eq_zero empty
    refine ⟨_, PushLoop.turns_of_zero _ empty, by simp only; omega,
      Or.inl ⟨rfl, ?_⟩⟩
    simp [noSamples]
  · have all := holds 0 samples.length (by omega)
    rw [List.drop_zero, List.take_length] at all
    obtain ⟨next, turned, ended, list, fewAfter, remaining⟩ :=
      PushLoop.turn_keep (l := { resampler := r, sampleCount := samples.length })
        few (by simpa using all) rfl
    refine ⟨next, ?_, fewAfter, Or.inl ⟨list, remaining⟩⟩
    rw [loop, PushLoop.turns_succ _ (Nat.pos_of_ne_zero empty) turned,
      PushLoop.turns_of_zero _ ended]

theorem loop_cut (holds : r.Holds samples) (noFrame : r.mp3FrameList = [])
    (none : r.remainingSampleCnt = 0)
    (count : samples.length = MP3_FRAME_SAMPLE_SIZE) :
    ∃ l, r.loop samples = .ok l ∧ Filled r l.resampler samples := by
  have value : MP3_FRAME_SAMPLE_SIZE = 1152 := rfl
  have all := holds 0 MP3_FRAME_SAMPLE_SIZE (by omega)
  rw [List.drop_zero, ← count, List.take_length, count] at all
  have turned := PushLoop.turn_cut
    (l := { resampler := r, sampleCount := samples.length }) none
    (by simp [count]) all
  refine ⟨_, (PushLoop.turns_succ _ (by simp only; omega) turned).trans
    (PushLoop.turns_of_zero _ (by simp [count])), ?_,
    Or.inr ⟨noFrame, samples, ?_, count, ?_⟩⟩
  · simp only [count]
    omega
  · simp [noFrame]
  · simp [remaining, none, count]

theorem loop_join (holds : r.Holds samples) (noFrame : r.mp3FrameList = [])
    (remain : 0 < r.remainingSampleCnt)
    (few : r.remainingSampleCnt < MP3_FRAME_SAMPLE_SIZE)
    (enough : MP3_FRAME_SAMPLE_SIZE ≤ r.remainingSampleCnt + samples.length)
    (fewer : r.remainingSampleCnt + samples.length <
      2 * MP3_FRAME_SAMPLE_SIZE) :
    ∃ l, r.loop samples = .ok l ∧ Filled r l.resampler samples := by
  obtain ⟨copied, isCopied⟩ : ∃ copied,
      copied = MP3_FRAME_SAMPLE_SIZE - r.remainingSampleCnt := ⟨_, rfl⟩
  have value : MP3_FRAME_SAMPLE_SIZE = 1152 := rfl
  have first := holds 0 copied (by omega)
  rw [List.drop_zero, isCopied] at first
  have turned := PushLoop.turn_join
    (l := { resampler := r, sampleCount := samples.length }) remain few
    enough first
  simp only [← isCopied] at turned
  have frameLength : (r.remaining ++ samples.take copied).length =
      MP3_FRAME_SAMPLE_SIZE := by
    rw [List.length_append, length_remaining few, List.length_take]
    omega
  by_cases used : samples.length - copied = 0
  · refine ⟨_, (PushLoop.turns_succ _ (by simp only; omega) turned).trans
      (PushLoop.turns_of_zero _ used), by simp only; omega,
      Or.inr ⟨noFrame, _, by simp [noFrame], frameLength, ?_⟩⟩
    rw [List.take_of_length_le (by omega)]
    simp [remaining]
  · have others := holds copied (samples.length - copied) (by omega)
    rw [List.take_of_length_le (by rw [List.length_drop])] at others
    obtain ⟨next, turnedToo, ended, list, fewAfter, kept⟩ :=
      PushLoop.turn_keep
        (l := {
          resampler :=
            { r with
              remainingSampleCnt := 0
              mp3FrameList := r.mp3FrameList ++
                [r.remaining ++ samples.take copied] }
          sampleCount := samples.length - copied
          samplesToSkip := copied })
        (by simp only; omega) (by simpa using others)
        (by rw [List.length_drop])
    refine ⟨next, ?_, fewAfter, Or.inr ⟨noFrame, _, ?_, frameLength, ?_⟩⟩
    · rw [loop, PushLoop.turns_succ _ (by simp only; omega) turned,
        show 2 * samples.length = 2 * samples.length - 1 + 1 by omega,
        PushLoop.turns_succ _ (Nat.pos_of_ne_zero used) turnedToo,
        PushLoop.turns_of_zero _ ended]
    · simp [list, noFrame]
    · rw [kept]
      simp [remaining]

theorem loop_filled (holds : r.Holds samples)
    (few : r.remainingSampleCnt < MP3_FRAME_SAMPLE_SIZE)
    (fills : r.FillsOneFrame samples.length) :
    ∃ l, r.loop samples = .ok l ∧ Filled r l.resampler samples := by
  by_cases fewToo : r.remainingSampleCnt + samples.length <
      MP3_FRAME_SAMPLE_SIZE
  · exact loop_keep holds fewToo
  · rcases fills with fewAfterAll | ⟨noFrame, ⟨none, count⟩ | ⟨remain, fewer⟩⟩
    · exact absurd fewAfterAll fewToo
    · exact loop_cut holds noFrame none count
    · exact loop_join holds noFrame remain few (Nat.not_lt.mp fewToo) fewer

end Filling

/-- A `resample` call whose input fits and whose samples fill at most one
frame. -/
theorem resample_filled (src : Converter γ α) {r : AudioResampler γ α setting}
    {inputData : List α} (few : r.remainingSampleCnt < MP3_FRAME_SAMPLE_SIZE)
    (fits : inputData.length ≤ setting.bufSize)
    (fills : r.FillsOneFrame (r.converterOutput src inputData).length) :
    ∃ succeeded r', r.resample src inputData = .ok (succeeded, r') ∧
      Filled r r' (r.converterOutput src inputData) := by
  rcases r.convert_of_fits src fits with
    ⟨failed, nothing⟩ | ⟨resamplerState, resampleShortBufOut, write, converted⟩
  · refine ⟨false, r, ?_, few, Or.inl ⟨rfl, ?_⟩⟩
    · rw [resample, failed]
      rfl
    · rw [nothing, List.append_nil]
  · have holds : Holds
        { r with
          resamplerState := resamplerState
          resampleShortBufOut := resampleShortBufOut }
        (r.converterOutput src inputData) :=
      fun start count within => Buffer.read_write_zero write within
    obtain ⟨l, looped, filled⟩ := loop_filled holds few fills
    refine ⟨true, l.resampler, ?_, filled.few, filled.kept⟩
    rw [resample, converted]
    exact bind_ok.mpr ⟨_, rfl, bind_ok.mpr ⟨l, looped, rfl⟩⟩

end AudioResampler

/-! ## Over a run -/

/-- A resampler, what its converter yielded and the frames it returned. -/
structure ResamplerSession (γ α : Type) (setting : ResamplerSetting) where
  resampler : AudioResampler γ α setting
  converted : List α := []
  returned : List (List α) := []

inductive ResamplerCall (α : Type) where
  | resample (inputData : List α)
  | getNextRawMp3Frame

namespace ResamplerSession

/-- A new resampler; nothing initialises its buffers. -/
def start (resamplerState : γ)
    (resampleShortBufOut : Buffer α setting.bufSize)
    (resampleShortRemaining : Buffer α setting.remainingSize) :
    ResamplerSession γ α setting where
  resampler :=
    { resamplerState := resamplerState
      resampleShortBufOut := resampleShortBufOut
      resampleShortRemaining := resampleShortRemaining }

def step (src : Converter γ α) (s : ResamplerSession γ α setting) :
    ResamplerCall α → Except Abort (ResamplerSession γ α setting)
  | .resample inputData => do
      let (_, resampler) ← s.resampler.resample src inputData
      return { s with
        resampler := resampler
        converted := s.converted ++ s.resampler.converterOutput src inputData }
  | .getNextRawMp3Frame =>
      let (res, resampler) := s.resampler.getNextRawMp3Frame
      .ok { s with
        resampler := resampler
        returned := s.returned ++ (res.map Prod.fst).toList }

/-- The frames returned, the frames still listed in the order they will be
returned, and the samples that remain are what was converted; and every frame
returned is a whole frame. -/
def StreamKept (s : ResamplerSession γ α setting) : Prop :=
  s.returned.flatten ++ s.resampler.mp3FrameList.reverse.flatten ++
      s.resampler.remaining = s.converted ∧
    ∀ frame, frame ∈ s.returned → frame.length = MP3_FRAME_SAMPLE_SIZE

/-- The step succeeds and loses, repeats and reorders nothing. -/
def KeepsStream (src : Converter γ α) (s : ResamplerSession γ α setting)
    (call : ResamplerCall α) : Prop :=
  ∃ s', s.step src call = .ok s' ∧ s'.StreamKept

/-- The input of a `resample` call fits in the buffers, and what it yields
fills at most one frame, after the one before has been taken. -/
def FillsOneFrame (src : Converter γ α) (s : ResamplerSession γ α setting) :
    ResamplerCall α → Prop
  | .resample inputData =>
      inputData.length ≤ setting.bufSize ∧
        s.resampler.FillsOneFrame
          (s.resampler.converterOutput src inputData).length
  | .getNextRawMp3Frame => True

structure Regular (s : ResamplerSession γ α setting) : Prop where
  kept : s.StreamKept
  few : s.resampler.remainingSampleCnt < MP3_FRAME_SAMPLE_SIZE
  whole : ∀ frame, frame ∈ s.resampler.mp3FrameList →
    frame.length = MP3_FRAME_SAMPLE_SIZE

theorem Regular.resample {src : Converter γ α}
    {s : ResamplerSession γ α setting} {inputData : List α}
    (regular : s.Regular) (fills : s.FillsOneFrame src (.resample inputData)) :
    ∃ s', s.step src (.resample inputData) = .ok s' ∧ s'.Regular := by
  obtain ⟨fits, fills⟩ := fills
  obtain ⟨succeeded, r', resampled, filled⟩ :=
    AudioResampler.resample_filled src regular.few fits fills
  obtain ⟨kept, frames⟩ := regular.kept
  refine ⟨_, bind_ok.mpr ⟨_, resampled, rfl⟩, ⟨?_, frames⟩, filled.few, ?_⟩
  · rcases filled.kept with ⟨same, remaining⟩ | ⟨none, frame, list, _, joined⟩
    · rw [same, remaining, ← List.append_assoc, kept]
    · rw [none] at kept
      rw [list, ← kept]
      simpa using joined
  · rcases filled.kept with ⟨same, _⟩ | ⟨none, frame, list, length_eq, _⟩
    · rw [same]
      exact regular.whole
    · rw [list]
      intro other member
      rw [List.mem_singleton.mp member]
      exact length_eq

/-- Taking a frame moves it from the list to what was returned. -/
theorem Regular.getNextRawMp3Frame {src : Converter γ α}
    {s : ResamplerSession γ α setting} (regular : s.Regular) :
    ∃ s', s.step src .getNextRawMp3Frame = .ok s' ∧ s'.Regular := by
  rcases List.eq_nil_or_concat s.resampler.mp3FrameList with
    none | ⟨others, newest, list⟩
  · refine ⟨s, ?_, regular⟩
    simp [step, AudioResampler.getNextRawMp3Frame, none]
  · rw [List.concat_eq_append] at list
    have taken : s.step src .getNextRawMp3Frame = .ok { s with
        resampler := { s.resampler with mp3FrameList := others }
        returned := s.returned ++ [newest] } := by
      simp [step, AudioResampler.getNextRawMp3Frame, list]
    obtain ⟨kept, frames⟩ := regular.kept
    have whole := regular.whole
    rw [list] at kept whole
    refine ⟨_, taken, ⟨?_, ?_⟩, regular.few, ?_⟩
    · rw [← kept]
      simp [AudioResampler.remaining]
    · intro frame member
      rcases List.mem_append.mp member with before | now
      · exact frames frame before
      · rw [List.mem_singleton.mp now]
        exact whole newest (by simp)
    · intro frame member
      exact whole frame (List.mem_append_left _ member)

theorem Regular.step {src : Converter γ α} {s : ResamplerSession γ α setting}
    {call : ResamplerCall α} (regular : s.Regular)
    (fills : s.FillsOneFrame src call) :
    ∃ s', s.step src call = .ok s' ∧ s'.Regular := by
  cases call with
  | resample inputData => exact regular.resample fills
  | getNextRawMp3Frame => exact regular.getNextRawMp3Frame

theorem regular_start (resamplerState : γ)
    (resampleShortBufOut : Buffer α setting.bufSize)
    (resampleShortRemaining : Buffer α setting.remainingSize) :
    (start resamplerState resampleShortBufOut
      resampleShortRemaining).Regular := by
  refine ⟨⟨rfl, ?_⟩, Nat.succ_pos 1151, ?_⟩
  · intro frame member
    cases member
  · intro frame member
    cases member

end ResamplerSession

/-- In a run whose `resample` calls each fill at most one frame, and a frame
only when the one before has been taken, no step fails, and none loses,
repeats or reorders a sample. -/
theorem resampler_keeps_stream (src : Converter γ α) (resamplerState : γ)
    (resampleShortBufOut : Buffer α setting.bufSize)
    (resampleShortRemaining : Buffer α setting.remainingSize)
    (calls : List (ResamplerCall α))
    (fills : EveryStep (ResamplerSession.step src)
      (ResamplerSession.FillsOneFrame src)
      (ResamplerSession.start resamplerState resampleShortBufOut
        resampleShortRemaining) calls) :
    EveryStep (ResamplerSession.step src) (ResamplerSession.KeepsStream src)
      (ResamplerSession.start resamplerState resampleShortBufOut
        resampleShortRemaining) calls := by
  refine EveryStep.mono ResamplerSession.Regular ?_ ?_
    (ResamplerSession.regular_start _ _ _) fills
  · intro s call regular fills
    obtain ⟨s', stepped, regularAfter⟩ := regular.step fills
    exact ⟨s', stepped, regularAfter.kept⟩
  · intro s call next regular fills stepped
    obtain ⟨s', steppedToo, regularAfter⟩ := regular.step fills
    cases stepped.symm.trans steppedToo
    exact regularAfter

/-! ## Two runs -/

/-- A mono stream that needs no conversion. -/
def monoSetting : ResamplerSetting where
  inputFreq := 44100
  inputChannels := 1
  outputFreq := 44100
  outputChannels := 2
  inputChannels_eq := Or.inl rfl
  outputChannels_eq := rfl

/-- The converter is not asked for such a stream. -/
def unusedConverter : Converter Unit Nat :=
  fun _ _ => none

def monoStart : ResamplerSession Unit Nat monoSetting :=
  ResamplerSession.start ()
    ⟨List.replicate (44100 * 2) 0, List.length_replicate⟩
    ⟨List.replicate (1152 * 2) 0, List.length_replicate⟩

instance (src : Converter γ α) (s : ResamplerSession γ α setting) :
    ∀ call, Decidable (s.FillsOneFrame src call)
  | .resample _ =>
      have : Decidable (s.resampler.mp3FrameList = []) :=
        decidable_of_iff (s.resampler.mp3FrameList.isEmpty = true)
          List.isEmpty_iff
      inferInstanceAs (Decidable (_ ∧ (_ < _ ∨ _ ∧ (_ ∧ _ ∨ _ ∧ _))))
  | .getNextRawMp3Frame => isTrue trivial

/-- Samples in blocks of 1000, 500 and 700, and the frame they fill. -/
theorem resampler_keeps_stream_smallBlocks :
    EveryStep (ResamplerSession.step unusedConverter)
      (ResamplerSession.KeepsStream unusedConverter) monoStart
      [.resample (List.range 1000), .resample (List.range 500),
        .getNextRawMp3Frame, .resample (List.range 700)] :=
  resampler_keeps_stream unusedConverter () _ _ _ (by decide +kernel)

/-- The last of 1153 samples in one block is lost, and two others take its
place. -/
theorem resampler_loses_stream_largeBlock :
    ¬ EveryStep (ResamplerSession.step unusedConverter)
      (ResamplerSession.KeepsStream unusedConverter) monoStart
      [.resample (List.range 1153)] := by
  intro keeps
  obtain ⟨s, stepped, kept, _⟩ := keeps.1
  have lengths : (monoStart.step unusedConverter
      (.resample (List.range 1153))).map (fun s =>
        ((s.returned.flatten ++ s.resampler.mp3FrameList.reverse.flatten ++
          s.resampler.remaining).length, s.converted.length)) =
      .ok (1154, 1153) := by
    decide +kernel
  rw [stepped] at lengths
  have lengths := Except.ok.inj lengths
  simp only [kept, Prod.mk.injEq] at lengths
  omega

end GroupVoip
