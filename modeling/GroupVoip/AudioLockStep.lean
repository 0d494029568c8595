import GroupVoip.Instants

/-!
# Audio in lock-step

An audio instant takes one frame from every started audio queue, and exactly
the frames taken in the call are valid when the mixers run.
-/

namespace GroupVoip

open Library.Runs Library.Loops

variable {V A β : Type}

/-! ## The mixer calls of an audio instant -/

/-- The calls that an audio instant makes: one for each valid mobile stream,
then the mix of all. -/
def audioMixCalls (rawData : Slot → Option AudioRawData)
    (totalStreams : Nat) : List AudioMix :=
  ((Streams.slots.filter fun i => audioMobile (rawData i)).map fun i =>
      { mixer := i.val, rawData := rawData, totalStreams := totalStreams
        excludeStreamId := UInt32.ofNat i.val }) ++
    [{ mixer := MAX_XCODING_INSTANCES, rawData := rawData
       totalStreams := totalStreams, excludeStreamId := MAX_U32 }]

theorem mixAudioStream_snd (backend : Backend β) (l : AudioLoop V A)
    (audioPts : UInt32) (state : β × List AudioMix) (mixer : Nat)
    (excludeStreamId : UInt32) :
    (mixAudioStream backend l audioPts state mixer excludeStreamId).2 =
      state.2 ++ [{ mixer := mixer, rawData := l.rawAudioData
                    totalStreams := l.totalStreams
                    excludeStreamId := excludeStreamId }] := by
  simp only [mixAudioStream]
  split <;> rfl

theorem foldl_mixMobile_snd (backend : Backend β) (l : AudioLoop V A)
    (audioPts : UInt32) (indexes : List Slot) :
    ∀ state : β × List AudioMix,
      (indexes.foldl (mixMobile backend l audioPts) state).2 =
        state.2 ++ (indexes.filter fun i => audioMobile (l.rawAudioData i)).map
          fun i =>
            { mixer := i.val, rawData := l.rawAudioData
              totalStreams := l.totalStreams
              excludeStreamId := UInt32.ofNat i.val } := by
  induction indexes with
  | nil =>
      intro state
      simp
  | cons i rest inductionHypothesis =>
      intro state
      rw [List.foldl_cons, inductionHypothesis, mixMobile]
      by_cases mobile : audioMobile (l.rawAudioData i) = true
      · rw [if_pos mobile, mixAudioStream_snd]
        simp [mobile]
      · rw [if_neg mobile]
        simp [mobile]

theorem mixAudioInstant_calls (backend : Backend β) (b : β)
    (l : AudioLoop V A) (audioPts : UInt32)
    (mobileCounted : l.totalMobileStreams =
      Streams.slots.countP fun i => audioMobile (l.rawAudioData i)) :
    (mixAudioInstant backend b l audioPts).2.1 =
      if l.totalStreams > 0 then audioMixCalls l.rawAudioData l.totalStreams
      else [] := by
  by_cases some : l.totalStreams > 0
  · simp only [mixAudioInstant, if_pos some]
    rw [mixAudioStream_snd, audioMixCalls]
    by_cases mobile : l.totalMobileStreams > 0
    · rw [if_pos mobile, foldl_mixMobile_snd]
      simp
    · have noMobile :
          (Streams.slots.filter fun i => audioMobile (l.rawAudioData i)) = [] := by
        apply List.eq_nil_of_length_eq_zero
        rw [← List.countP_eq_length_filter, ← mobileCounted]
        omega
      rw [if_neg mobile, noMobile]
      rfl
  · simp only [mixAudioInstant, if_neg some]

/-! ## One call -/

namespace MixCoder

@[simp]
theorem setStreams_streams (m : MixCoder V A β) (p : Streams V A) :
    (m.setStreams p).streams = p :=
  rfl

@[simp]
theorem setStreams_rawVideoData (m : MixCoder V A β) (p : Streams V A) :
    (m.setStreams p).rawVideoData = m.rawVideoData :=
  rfl

/-- A `getOutput` call decides on an instant and carries it out. -/
theorem getOutput_ok {backend : Backend β} {m m' : MixCoder V A β}
    {out : Output} (taken : m.getOutput backend = .ok (m', out)) :
    ∃ instant streams, m.streams.nextInstant = .ok (instant, streams) ∧
      match instant with
      | .none => m' = m.setStreams streams ∧ out = {}
      | .audio audioPts =>
          (m.setStreams streams).audioOutput backend audioPts = .ok (m', out)
      | .video videoPts =>
          (m.setStreams streams).videoOutput backend videoPts = (m', out) := by
  obtain ⟨⟨instant, streams⟩, decided, rest⟩ := bind_ok.mp taken
  refine ⟨instant, streams, decided, ?_⟩
  cases instant with
  | none =>
      cases rest
      exact ⟨rfl, rfl⟩
  | audio audioPts => exact rest
  | video videoPts => exact Except.ok.inj rest

/-- What an audio instant leaves behind. -/
structure AudioTaken (m m' : MixCoder V A β) (out : Output) : Prop where
  shown : ∀ i, (m.streams.stream i).showAudio (m.rawAudioData i) =
    .ok (out.poppedAudio i, m'.streams.stream i, m'.rawAudioData i)
  total : out.totalStreams =
    Streams.slots.countP fun i => audioValid (m'.rawAudioData i)
  mixes : out.audioMixes =
    if out.totalStreams > 0 then
      audioMixCalls m'.rawAudioData out.totalStreams
    else []
  noVideo : out.poppedVideo = fun _ => []
  cachedVideo : m'.rawVideoData = m.rawVideoData
  clocks : m'.streams = { m.streams with stream := m'.streams.stream }

theorem audioOutput_ok {backend : Backend β} {m m' : MixCoder V A β}
    {audioPts : UInt32} {out : Output}
    (taken : m.audioOutput backend audioPts = .ok (m', out)) :
    AudioTaken m m' out ∧ out.instant = .audio audioPts := by
  obtain ⟨l, looped, rest⟩ := bind_ok.mp taken
  have finished := AudioLoop.finished looped
  have mobile : l.totalMobileStreams =
      Streams.slots.countP fun i => audioMobile (l.rawAudioData i) := by
    simpa using finished.mobile
  have mixes := mixAudioInstant_calls backend m.output l audioPts mobile
  cases rest
  refine ⟨?_, rfl⟩
  constructor
  · exact finished.shown
  · simpa using finished.total
  · exact mixes
  · rfl
  · rfl
  · rfl

theorem videoOutput_audio {backend : Backend β} {m m' : MixCoder V A β}
    {videoPts : UInt32} {out : Output}
    (taken : m.videoOutput backend videoPts = (m', out)) :
    out.instant = .video videoPts ∧ out.audioMixes = [] ∧
      out.poppedAudio = fun _ => none := by
  unfold videoOutput at taken
  generalize Streams.slots.foldl (VideoLoop.turn videoPts) _ = l at taken
  cases taken
  exact ⟨rfl, rfl, rfl⟩

theorem getOutput_audio {backend : Backend β} {m m' : MixCoder V A β}
    {out : Output} {audioPts : UInt32}
    (taken : m.getOutput backend = .ok (m', out))
    (isAudio : out.instant = .audio audioPts) :
    ∃ streams, m.streams.nextInstant = .ok (.audio audioPts, streams) ∧
      AudioTaken (m.setStreams streams) m' out := by
  obtain ⟨instant, streams, decided, carriedOut⟩ := getOutput_ok taken
  cases instant with
  | none =>
      rw [carriedOut.2] at isAudio
      cases isAudio
  | video videoPts =>
      rw [(videoOutput_audio carriedOut).1] at isAudio
      cases isAudio
  | audio otherPts =>
      obtain ⟨took, instant⟩ := audioOutput_ok carriedOut
      rw [instant] at isAudio
      cases isAudio
      exact ⟨streams, decided, took⟩

theorem audioOutput_total (backend : Backend β) {m : MixCoder V A β}
    (audioPts : UInt32)
    (supplied : ∀ i, (m.streams.stream i).audioStarted = true →
      (m.streams.stream i).audioQueue ≠ []) :
    ∃ taken, m.audioOutput backend audioPts = .ok taken := by
  obtain ⟨l, looped⟩ := AudioLoop.total (l :=
    { stream := m.streams.stream, rawAudioData := m.rawAudioData }) supplied
  exact ⟨_, bind_ok.mpr ⟨l, looped, rfl⟩⟩

theorem audioOutput_of_decided (backend : Backend β) {m : MixCoder V A β}
    {audioPts : UInt32} {streams : Streams V A}
    (decided : m.streams.nextInstant = .ok (.audio audioPts, streams)) :
    ∃ taken, (m.setStreams streams).audioOutput backend audioPts = .ok taken := by
  obtain ⟨same, ready⟩ := Streams.nextInstant_ok decided
  obtain ⟨frontPts, ready⟩ := ready (by simp)
  have sameStream : streams.stream = m.streams.stream := by rw [same]
  apply audioOutput_total backend audioPts
  intro i started
  rw [setStreams_streams, sameStream] at started ⊢
  exact Streams.isNextAudioStreamReady_started ready i started

/-- A `getOutput` call can only be stopped by the assertions of the video
scheduler. -/
theorem getOutput_error {backend : Backend β} {m : MixCoder V A β}
    {stopped : Abort} (failed : m.getOutput backend = .error stopped) :
    stopped = .assertion .frameWithinAudioBucket ∨
      stopped = .assertion .audioBucketAhead := by
  rcases bind_error.mp failed with undecided | ⟨⟨instant, streams⟩, decided, rest⟩
  · exact Streams.nextInstant_error undecided
  · cases instant with
    | none => cases rest
    | video videoPts => cases rest
    | audio audioPts =>
        obtain ⟨taken, succeeded⟩ := audioOutput_of_decided backend decided
        have contradiction := succeeded.symm.trans rest
        cases contradiction

end MixCoder

/-! ## Lock-step -/

/-- The queues after an audio instant and what its mixers are given. -/
structure AudioInstant (m m' : MixCoder V A β) (out : Output) : Prop where
  popsStarted : ∀ i, (m.streams.stream i).audioStarted = true →
    ∃ a, out.poppedAudio i = some a ∧
      (m.streams.stream i).audioQueue = a :: (m'.streams.stream i).audioQueue
  leavesOthers : ∀ i, (m.streams.stream i).audioStarted = false →
    out.poppedAudio i = none ∧
      (m'.streams.stream i).audioQueue = (m.streams.stream i).audioQueue
  leavesVideo : ∀ i,
    (m'.streams.stream i).videoQueue = (m.streams.stream i).videoQueue
  counted : out.totalStreams =
    Streams.slots.countP fun j => audioValid (m'.rawAudioData j)
  validPopped : ∀ j,
    audioValid (m'.rawAudioData j) = true ↔ ∃ a, out.poppedAudio j = some a
  cachedPopped : ∀ j a, out.poppedAudio j = some a →
    m'.rawAudioData j = some (a.mark (m.streams.stream j).streamSource true)
  mixCounted : ∀ mix, mix ∈ out.audioMixes →
    mix.rawData = m'.rawAudioData ∧
      mix.totalStreams =
        Streams.slots.countP fun j => audioValid (mix.rawData j)
  mixExcluded : ∀ mix, mix ∈ out.audioMixes →
    mix.excludeStreamId = MAX_U32 ∨
      ∃ j : Slot, mix.excludeStreamId = UInt32.ofNat j.val ∧
        audioValid (mix.rawData j) = true

theorem audioValid_of_audioMobile {cached : Option AudioRawData}
    (mobile : audioMobile cached = true) : audioValid cached = true := by
  cases cached with
  | none => cases mobile
  | some a =>
      simp only [audioMobile, audioValid, Option.any_some,
        Bool.and_eq_true] at mobile ⊢
      exact mobile.1

theorem mem_audioMixCalls {rawData : Slot → Option AudioRawData}
    {totalStreams : Nat} {mix : AudioMix}
    (member : mix ∈ audioMixCalls rawData totalStreams) :
    mix.rawData = rawData ∧ mix.totalStreams = totalStreams ∧
      (mix.excludeStreamId = MAX_U32 ∨
        ∃ j : Slot, mix.excludeStreamId = UInt32.ofNat j.val ∧
          audioValid (rawData j) = true) := by
  rcases List.mem_append.mp member with mobile | allInOne
  · obtain ⟨j, filtered, rfl⟩ := List.mem_map.mp mobile
    have isMobile := (List.mem_filter.mp filtered).2
    exact ⟨rfl, rfl, Or.inr ⟨j, rfl, audioValid_of_audioMobile isMobile⟩⟩
  · rw [List.mem_singleton.mp allInOne]
    exact ⟨rfl, rfl, Or.inl rfl⟩

namespace MixCoder.AudioTaken

variable {m m' : MixCoder V A β} {out : Output}

theorem started (taken : AudioTaken m m' out) {i : Slot}
    (started : (m.streams.stream i).audioStarted = true) :
    ∃ a rest, (m.streams.stream i).audioQueue = a :: rest ∧
      out.poppedAudio i = some a ∧
      m'.streams.stream i = { m.streams.stream i with audioQueue := rest } ∧
      m'.rawAudioData i =
        some (a.mark (m.streams.stream i).streamSource true) := by
  rcases Stream.showAudio_ok.mp (taken.shown i) with ⟨_, turn⟩ | ⟨notStarted, _⟩
  · exact turn
  · rw [started] at notStarted
    cases notStarted

theorem notStarted (taken : AudioTaken m m' out) {i : Slot}
    (notStarted : (m.streams.stream i).audioStarted = false) :
    out.poppedAudio i = none ∧ m'.streams.stream i = m.streams.stream i ∧
      m'.rawAudioData i = (m.rawAudioData i).map fun a =>
        a.mark (m.streams.stream i).streamSource false := by
  rcases Stream.showAudio_ok.mp (taken.shown i) with ⟨started, _⟩ | ⟨_, turn⟩
  · rw [notStarted] at started
    cases started
  · exact turn

theorem instant (taken : AudioTaken m m' out) : AudioInstant m m' out := by
  constructor
  · intro i started
    obtain ⟨a, rest, queued, popped, left, _⟩ := taken.started started
    exact ⟨a, popped, by rw [queued, left]⟩
  · intro i notStarted
    obtain ⟨popped, left, _⟩ := taken.notStarted notStarted
    exact ⟨popped, by rw [left]⟩
  · intro i
    cases started : (m.streams.stream i).audioStarted with
    | true =>
        obtain ⟨_, _, _, _, left, _⟩ := taken.started started
        rw [left]
    | false => rw [(taken.notStarted started).2.1]
  · exact taken.total
  · intro j
    cases started : (m.streams.stream j).audioStarted with
    | true =>
        obtain ⟨a, _, _, popped, _, cached⟩ := taken.started started
        simp [popped, cached, audioValid, AudioRawData.mark]
    | false =>
        obtain ⟨popped, _, cached⟩ := taken.notStarted started
        rw [popped, cached]
        cases m.rawAudioData j <;> simp [audioValid, AudioRawData.mark]
  · intro j a popped
    cases started : (m.streams.stream j).audioStarted with
    | true =>
        obtain ⟨a', _, _, popped', _, cached⟩ := taken.started started
        rw [popped] at popped'
        cases popped'
        exact cached
    | false =>
        rw [(taken.notStarted started).1] at popped
        cases popped
  · intro mix member
    rw [taken.mixes] at member
    split at member
    · obtain ⟨rawData, total, _⟩ := mem_audioMixCalls member
      rw [rawData, total]
      exact ⟨rfl, taken.total⟩
    · cases member
  · intro mix member
    rw [taken.mixes] at member
    split at member
    · obtain ⟨rawData, _, excluded⟩ := mem_audioMixCalls member
      rw [rawData]
      exact excluded
    · cases member

end MixCoder.AudioTaken

/-! ## Over a run -/

/-- The samples, their layout and their time. -/
def AudioRawData.content (a : AudioRawData) : Bytes × Bool × UInt32 :=
  (a.rawAudioFrame, a.bIsStereo, a.pts)

/-- The frame of a slot that goes into the mix of all streams. -/
def Output.mixedAudio (out : Output) (i : Slot) : Option AudioRawData :=
  (out.audioMixes.find? fun mix => mix.excludeStreamId = MAX_U32).bind
    fun mix => (mix.rawData i).filter fun a => a.bIsValid

theorem find_allInOne (rawData : Slot → Option AudioRawData)
    (totalStreams : Nat) :
    ((audioMixCalls rawData totalStreams).find? fun mix =>
        mix.excludeStreamId = MAX_U32) =
      some { mixer := MAX_XCODING_INSTANCES, rawData := rawData
             totalStreams := totalStreams, excludeStreamId := MAX_U32 } := by
  have noneMobile :
      (((Streams.slots.filter fun i => audioMobile (rawData i)).map fun i =>
          ({ mixer := i.val, rawData := rawData, totalStreams := totalStreams
             excludeStreamId := UInt32.ofNat i.val } : AudioMix)).find?
        fun mix => mix.excludeStreamId = MAX_U32) = none := by
    apply List.find?_eq_none.mpr
    intro mix member
    obtain ⟨j, _, rfl⟩ := List.mem_map.mp member
    have smallId : ∀ j : Slot, UInt32.ofNat j.val ≠ MAX_U32 := by decide
    simpa using smallId j
  rw [audioMixCalls, List.find?_append, noneMobile]
  simp

/-- A call mixes for each slot the frame that it popped there, or none. -/
def MixesPopped (out : Output) : Prop :=
  ∀ i, (out.mixedAudio i).map AudioRawData.content =
    (out.poppedAudio i).map AudioRawData.content

theorem MixCoder.AudioTaken.mixesPopped {m m' : MixCoder V A β} {out : Output}
    (taken : AudioTaken m m' out) : MixesPopped out := by
  intro i
  by_cases some : out.totalStreams > 0
  · rw [Output.mixedAudio, taken.mixes, if_pos some, find_allInOne]
    cases started : (m.streams.stream i).audioStarted with
    | true =>
        obtain ⟨a, _, _, popped, _, cached⟩ := taken.started started
        simp [popped, cached, AudioRawData.mark, AudioRawData.content]
    | false =>
        obtain ⟨popped, _, cached⟩ := taken.notStarted started
        rw [popped]
        cases m.rawAudioData i <;> simp_all [AudioRawData.mark]
  · have invalid : audioValid (m'.rawAudioData i) = false := by
      have nobody : Streams.slots.countP
          (fun j => audioValid (m'.rawAudioData j)) = 0 := by
        rw [← taken.total]
        omega
      simpa using List.countP_eq_zero.mp nobody i (Streams.mem_slots i)
    have nothing : out.poppedAudio i = none := by
      cases popped : out.poppedAudio i with
      | none => rfl
      | some a =>
          rw [(taken.instant.validPopped i).mpr ⟨a, popped⟩] at invalid
          cases invalid
    rw [Output.mixedAudio, taken.mixes, if_neg some, nothing]
    rfl

theorem MixCoder.mixesPopped_of_getOutput {backend : Backend β}
    {m m' : MixCoder V A β} {out : Output}
    (taken : m.getOutput backend = .ok (m', out)) : MixesPopped out := by
  obtain ⟨instant, streams, _, carriedOut⟩ := getOutput_ok taken
  cases instant with
  | none =>
      rw [carriedOut.2]
      intro i
      rfl
  | audio audioPts => exact (audioOutput_ok carriedOut).1.mixesPopped
  | video videoPts =>
      obtain ⟨_, mixes, popped⟩ := videoOutput_audio carriedOut
      intro i
      rw [Output.mixedAudio, mixes, popped]
      rfl

/-- A call keeps that every output so far mixes what it popped. -/
theorem Session.mixesPopped_step {codecs : Codecs V A} {backend : Backend β}
    {session session' : Session V A β} {call : MixCall}
    (holds : ∀ out, out ∈ session.outputs → MixesPopped out)
    (stepped : session.step codecs backend call = .ok session') :
    ∀ out, out ∈ session'.outputs → MixesPopped out := by
  cases call with
  | newInput inputBuf =>
      rcases bind_ok.mp stepped with ⟨mixCoder, _, rest⟩
      cases rest
      exact holds
  | getOutput =>
      rcases bind_ok.mp stepped with ⟨⟨mixCoder, out⟩, taken, rest⟩
      cases rest
      intro earlier member
      rcases List.mem_append.mp member with old | new
      · exact holds earlier old
      · rw [List.mem_singleton.mp new]
        exact MixCoder.mixesPopped_of_getOutput taken

/-- In every run of `newInput` and `getOutput` calls audio stays in lock-step:
a further `getOutput` call never reaches the null frame, an audio instant pops
one frame from each started queue and mixes exactly those frames, and so far
the frames of a slot were mixed one instant each, in the order popped. -/
theorem audio_lockStep (codecs : Codecs V A) (backend : Backend β)
    (streamSource : Slot → StreamSource) (output : β) (calls : List MixCall)
    (session : Session V A β)
    (reached : run (Session.step codecs backend)
      (Session.start streamSource output) calls = .ok session) :
    session.mixCoder.getOutput backend ≠ .error .undefinedBehaviour ∧
      (∀ m' out audioPts,
        session.mixCoder.getOutput backend = .ok (m', out) →
        out.instant = .audio audioPts →
        AudioInstant session.mixCoder m' out) ∧
      ∀ i, (session.outputs.map fun out =>
          (out.mixedAudio i).map AudioRawData.content) =
        session.outputs.map fun out =>
          (out.poppedAudio i).map AudioRawData.content := by
  refine ⟨?_, ?_, ?_⟩
  · intro failed
    rcases MixCoder.getOutput_error failed with other | other
    · cases other
    · cases other
  · intro m' out audioPts taken isAudio
    obtain ⟨streams, decided, took⟩ := MixCoder.getOutput_audio taken isAudio
    have sameStream := Streams.nextInstant_stream decided
    have took := took.instant
    constructor
    · simpa [sameStream] using took.popsStarted
    · simpa [sameStream] using took.leavesOthers
    · simpa [sameStream] using took.leavesVideo
    · exact took.counted
    · exact took.validPopped
    · simpa [sameStream] using took.cachedPopped
    · exact took.mixCounted
    · exact took.mixExcluded
  · intro i
    have everyOutput : ∀ out, out ∈ session.outputs → MixesPopped out := by
      apply run_invariant
        (fun session : Session V A β =>
          ∀ out, out ∈ session.outputs → MixesPopped out)
        (fun _ _ _ holds stepped => Session.mixesPopped_step holds stepped)
        _ reached
      intro out member
      cases member
    apply List.map_congr_left
    intro out member
    exact everyOutput out member i

def oneAudioMessage : List MixCall :=
  [.newInput
      ⟨[83, 71, 73, 0, 1, 0, 0, 0, 1, 0, 17, 0, 0, 0,
        8, 0, 0, 2, 0, 0, 50, 0, 0, 0, 0, 47, 7, 0, 0, 0, 0], by decide⟩,
    .getOutput, .getOutput]

theorem audio_lockStep_oneAudioMessage :
    ∃ session : Session Unit Unit Unit,
      run (Session.step Codecs.echo Backend.silent)
          (Session.start (fun _ => .kDesktopStreamSource) ())
          oneAudioMessage = .ok session ∧
        session.mixCoder.getOutput Backend.silent ≠
          .error .undefinedBehaviour := by
  obtain ⟨session, reached⟩ := exists_ok
    (x := run (Session.step Codecs.echo Backend.silent)
      (Session.start (fun _ => .kDesktopStreamSource) ()) oneAudioMessage)
    (by decide +kernel)
  exact ⟨session, reached, (audio_lockStep Codecs.echo Backend.silent
    (fun _ => .kDesktopStreamSource) () oneAudioMessage session reached).1⟩

end GroupVoip
