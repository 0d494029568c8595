import GroupVoip.VideoScaling
import GroupVoip.VideoValidity

/-!
# The contexts match the planes

The decoders only let pictures of one size into the queues.  So the contexts of
the video mixer are made for that size, and for the number of streams that the
mixer last saw.
-/

namespace GroupVoip

open Library.Checked Library.Runs

variable {V A γ σ : Type}

/-! ## The size of the pictures -/

def VideoRawData.Sized (v : VideoRawData) : Prop :=
  v.rawVideoSettings.width = 640 ∧ v.rawVideoSettings.height = 480

theorem VideoRawData.Sized.mark {v : VideoRawData} (sized : v.Sized)
    (ss : StreamSource) (bIsValid : Bool) : (v.mark ss bIsValid).Sized :=
  sized

namespace VideoDecoder

/-- A decoder knows no size until its first header. -/
def Sized (d : VideoDecoder V) : Prop :=
  (d.inWidth = 0 ∨ d.inWidth = 640) ∧ (d.inHeight = 0 ∨ d.inHeight = 480)

theorem finish_sized {d d' : VideoDecoder V} {au : AccessUnit}
    {v v' : VideoRawData} {frame : AVFrame} (sized : d.Sized)
    (known : d.inWidth ≠ 0 ∧ d.inHeight ≠ 0)
    (finished : d.finish au v frame = .ok (d', v')) :
    d'.Sized ∧ v'.Sized := by
  obtain ⟨_, _, rest⟩ := bind_ok.mp finished
  obtain ⟨_, _, rest⟩ := bind_ok.mp rest
  cases rest
  constructor
  · cases d.bHasFirstFrameStarted <;> exact sized
  · exact ⟨sized.1.resolve_left known.1, sized.2.resolve_left known.2⟩

theorem decode_sized {codecs : Codecs V A} {d d' : VideoDecoder V}
    {au : AccessUnit} {v v' : VideoRawData} {valid : Bool} (sized : d.Sized)
    (decoded : d.decode codecs au v = .ok (valid, d', v')) :
    d'.Sized ∧ (valid = true → v'.Sized) := by
  obtain ⟨_, known, rest⟩ := bind_ok.mp decoded
  rw [assertThat_ok] at known
  have known : d.inWidth ≠ 0 ∧ d.inHeight ≠ 0 := by simpa using known
  split at rest
  · cases rest
    exact ⟨sized, fun notValid => absurd notValid Bool.false_ne_true⟩
  · split at rest
    · simp only at rest
      split at rest
      · cases rest
        exact ⟨sized, fun notValid => absurd notValid Bool.false_ne_true⟩
      · obtain ⟨⟨d'', v''⟩, finished, last⟩ := bind_ok.mp rest
        cases last
        obtain ⟨sizedAfter, picture⟩ :=
          finish_sized (by exact sized) (by exact known) finished
        exact ⟨sizedAfter, fun _ => picture⟩
    · cases rest

/-- What goes into a queue has the size of the pictures. -/
theorem newAccessUnit_sized {codecs : Codecs V A} {d d' : VideoDecoder V}
    {au : AccessUnit} {v : VideoRawData} {valid : Bool} (sized : d.Sized)
    (decoded : d.newAccessUnit codecs au {} = .ok (valid, d', v)) :
    d'.Sized ∧ (valid = true ∨ v.sp = .kSpsPps → v.Sized) := by
  have sp := (newAccessUnit_ok decoded).1
  obtain ⟨_, _, rest⟩ := bind_ok.mp decoded
  obtain ⟨_, _, rest⟩ := bind_ok.mp rest
  simp only at rest
  split at rest
  · obtain ⟨⟨d'', v''⟩, started, last⟩ := bind_ok.mp rest
    cases last
    unfold start at started
    split at started
    · cases started
    · cases started
      exact ⟨⟨Or.inr rfl, Or.inr rfl⟩, fun _ => ⟨rfl, rfl⟩⟩
  · rename_i raw
    obtain ⟨sizedAfter, picture⟩ := decode_sized sized rest
    refine ⟨sizedAfter, ?_⟩
    intro queued
    rcases queued with isValid | header
    · exact picture isValid
    · rw [sp, raw] at header
      cases header
  · rename_i notHeader _
    cases rest
    refine ⟨sized, ?_⟩
    intro queued
    rcases queued with isValid | header
    · cases isValid
    · rw [sp] at header
      exact absurd header notHeader

end VideoDecoder

def Stream.Sized (s : Stream V A) : Prop :=
  s.videoDecoder.Sized ∧ ∀ v, v ∈ s.videoQueue → v.Sized

theorem Stream.Sized.onTag {codecs : Codecs V A} {s s' : Stream V A}
    {globalAudioTimestamp globalAudioTimestamp' : UInt32} {tag : FLVTag}
    (sized : s.Sized)
    (done : s.onTag codecs globalAudioTimestamp tag =
      .ok (s', globalAudioTimestamp')) : s'.Sized := by
  cases Stream.onTag_ok done with
  | silent clock parsed => exact sized
  | undecoded clock au decoder v parsed isVideo decoded =>
      exact ⟨(VideoDecoder.newAccessUnit_sized sized.1 decoded).1, sized.2⟩
  | audio clock au decoder frames parsed isAudio decoded => exact sized
  | video clock au decoder v valid parsed isVideo decoded ready =>
      obtain ⟨sizedDecoder, queued⟩ :=
        VideoDecoder.newAccessUnit_sized sized.1 decoded
      refine ⟨sizedDecoder, ?_⟩
      intro w member
      rcases List.mem_append.mp member with old | new
      · exact sized.2 w old
      · rw [List.mem_singleton.mp new]
        exact queued ready

/-! ## The contexts -/

namespace VideoMixer

/-- What the context of a slot is made for when `totalStreams` are shown. -/
def contextFor (totalStreams : Nat) : SwsContext where
  srcWidth := 640
  srcHeight := 480
  dstWidth := mappingToScalingWidth totalStreams
  dstHeight := mappingToScalingHeight totalStreams

/-- The contexts are those for the number of streams that the mixer
remembers. -/
def ContextsFit (m : VideoMixer γ) : Prop :=
  ∀ i ctx, m.swsCtx i = some ctx → ctx = contextFor m.totalStreams

theorem contextFor_congr {totalStreams totalStreams' : Nat}
    (same : mappingToScalingWidth totalStreams =
      mappingToScalingWidth totalStreams') :
    contextFor totalStreams = contextFor totalStreams' := by
  unfold contextFor mappingToScalingHeight
  unfold mappingToScalingWidth at same ⊢
  by_cases one : totalStreams = 1
  · by_cases oneToo : totalStreams' = 1
    · rw [one, oneToo]
    · rw [if_pos one, if_neg oneToo] at same
      cases same
  · by_cases oneToo : totalStreams' = 1
    · rw [if_neg one, if_pos oneToo] at same
      cases same
    · rw [if_neg one, if_neg oneToo, if_neg one, if_neg oneToo]

theorem tryToInitSws_fit {l : Swscale γ} {m m' : VideoMixer γ}
    {rawData : Slot → Option VideoRawData} {totalStreams : Nat}
    (fit : m.ContextsFit) (sized : ∀ i v, rawData i = some v → v.Sized)
    (ready : m.tryToInitSws l rawData totalStreams = .ok m') :
    m'.ContextsFit ∧ ∀ i, videoValid (rawData i) = true →
      m'.swsCtx i = some (contextFor totalStreams) := by
  obtain ⟨_, total, contexts⟩ := tryToInitSws_ok ready
  have kept : ∀ i ctx, m.keptContext totalStreams i = some ctx →
      ctx = contextFor totalStreams := by
    intro i ctx isKept
    unfold keptContext at isKept
    split at isKept
    · cases isKept
    · rename_i same
      rw [fit i ctx isKept]
      exact contextFor_congr (not_not.mp same)
  have made : ∀ i v, rawData i = some v →
      v.rawVideoSettings.bIsValid = true →
      m'.swsCtx i = some (contextFor totalStreams) := by
    intro i v cached valid
    have turned := contexts i
    rw [cached, initContext, if_pos valid, (sized i v cached).1,
      (sized i v cached).2] at turned
    rw [turned]
    cases isKept : m.keptContext totalStreams i with
    | none => rfl
    | some ctx => rw [Option.getD_some, kept i ctx isKept]
  constructor
  · intro i ctx context
    rw [total]
    cases cached : rawData i with
    | none =>
        rw [contexts i, cached] at context
        exact kept i ctx context
    | some v =>
        by_cases valid : v.rawVideoSettings.bIsValid = true
        · rw [made i v cached valid] at context
          exact (Option.some.inj context).symm
        · rw [contexts i, cached, initContext, if_neg valid] at context
          exact kept i ctx context
  · intro i valid
    obtain ⟨v, cached, isValid⟩ := videoValid_iff.mp valid
    exact made i v cached isValid

/-- Every valid picture has a context that was made for its size and for that
of the planes it is scaled to, there are as many as the caller counted, and the
mixer stops for other reasons than these. -/
structure ScalesInStep (l : Swscale γ) (held : Nat → UInt8)
    (m : VideoMixer γ) (mix : VideoMix) : Prop where
  contexts : ∀ m', m.tryToInitSws l mix.rawData mix.totalStreams = .ok m' →
    ∀ i v, mix.rawData i = some v → v.rawVideoSettings.bIsValid = true →
      m'.swsCtx i = some
        { srcWidth := v.rawVideoSettings.width
          srcHeight := v.rawVideoSettings.height
          dstWidth := mappingToScalingWidth mix.totalStreams
          dstHeight := mappingToScalingHeight mix.totalStreams }
  counted : mix.totalStreams =
    Streams.slots.countP fun i => videoValid (mix.rawData i)
  asserted : ∀ videoRect stopped,
    m.mixStreams l held mix videoRect = .error stopped →
      stopped ≠ .assertion .validStreamsInRange ∧
        stopped ≠ .assertion .validStreamsCounted

section Mixing

variable {l : Swscale γ} {held : Nat → UInt8} {m : VideoMixer γ}
  {mix : VideoMix}

theorem mixStreams_stops
    (counted : mix.totalStreams =
      Streams.slots.countP fun i => videoValid (mix.rawData i))
    (videoRect : Slot → VideoRect) :
    StopsFor (fun stopped => stopped ≠ .assertion .validStreamsInRange ∧
        stopped ≠ .assertion .validStreamsCounted)
      (m.mixStreams l held mix videoRect) := by
  have undefined : ∀ stopped : Abort, stopped = .undefinedBehaviour →
      stopped ≠ .assertion .validStreamsInRange ∧
        stopped ≠ .assertion .validStreamsCounted := by
    intro stopped same
    rw [same]
    exact ⟨Abort.noConfusion, Abort.noConfusion⟩
  refine StopsFor.bind (tryToInitSws_stops (fun _ => ?_) _ _ _) ?_
  · constructor
    · intro same
      cases same
    · intro same
      cases same
  · intro ready isReady
    rcases scaleSlots_cases (l := l) ready.library
        (fun _ valid => isSome_tryToInitSws isReady valid) counted with
      ⟨s, looped, _, isCounted, _⟩ | ⟨_, stopped⟩
    · rw [looped]
      refine StopsFor.bind (StopsFor.returns s) ?_
      intro s' same
      cases same
      refine StopsFor.bind ?_ fun _ _ => ?_
      · rw [assertThat, if_pos (decide_eq_true isCounted)]
        exact StopsFor.returns _
      · dsimp only
        split
        · refine StopsFor.bind ?_ fun _ _ => StopsFor.returns _
          intro stopped failed
          exact undefined stopped (draw_stops _ _ _ _ _ _ stopped failed)
        · exact StopsFor.returns _
    · rw [stopped]
      exact StopsFor.stops (undefined _ rfl)

theorem scalesInStep (fit : m.ContextsFit)
    (sized : ∀ i v, mix.rawData i = some v → v.Sized)
    (counted : mix.totalStreams =
      Streams.slots.countP fun i => videoValid (mix.rawData i)) :
    m.ScalesInStep l held mix where
  contexts := by
    intro m' ready i v cached valid
    have shown : videoValid (mix.rawData i) = true := by
      rw [cached]
      exact valid
    rw [(tryToInitSws_fit fit sized ready).2 i shown, contextFor,
      (sized i v cached).1, (sized i v cached).2]
  counted := counted
  asserted := mixStreams_stops counted

theorem mixStreams_fit {mixed : Mixed γ} {videoRect : Slot → VideoRect}
    (fit : m.ContextsFit) (sized : ∀ i v, mix.rawData i = some v → v.Sized)
    (taken : m.mixStreams l held mix videoRect = .ok mixed) :
    mixed.mixer.ContextsFit := by
  obtain ⟨ready, isReady, rest⟩ := bind_ok.mp taken
  obtain ⟨s, _, rest⟩ := bind_ok.mp rest
  obtain ⟨_, _, rest⟩ := bind_ok.mp rest
  have fitReady := (tryToInitSws_fit fit sized isReady).1
  dsimp only at rest
  split at rest
  · obtain ⟨d, _, last⟩ := bind_ok.mp rest
    cases last
    exact fitReady
  · cases rest
    exact fitReady

end Mixing

end VideoMixer

/-! ## Over a run -/

/-- The state behind `VideoMixer.encoders`. -/
abbrev MixerOutput (γ σ : Type) : Type :=
  (Except Abort (VideoMixer γ) × σ) × Except Abort FLVSegmentOutput

namespace MixCoder

variable {l : Swscale γ} {held : Nat → UInt8} {others : Encoders σ}

/-- At a `getOutput` call the video mixer, if it has not stopped the program,
mixes in step. -/
def ScalesInStep (l : Swscale γ) (held : Nat → UInt8) (others : Encoders σ)
    (m : MixCoder V A (MixerOutput γ σ)) : Prop :=
  ∀ m' out videoMixer,
    m.getOutput (VideoMixer.encoders l held others).backend = .ok (m', out) →
    m.output.1.1 = .ok videoMixer →
    ∀ mix, mix ∈ out.videoMixes → videoMixer.ScalesInStep l held mix

/-- Every picture has the one size, and the contexts fit. -/
structure ScalersSound (m : MixCoder V A (MixerOutput γ σ)) : Prop where
  streams : ∀ i, (m.streams.stream i).Sized
  cached : ∀ i v, m.rawVideoData i = some v → v.Sized
  mixer : ∀ videoMixer, m.output.1.1 = .ok videoMixer → videoMixer.ContextsFit

theorem foldl_seen {β τ : Type} {turn : β → Slot → β} (seen : β → τ)
    (kept : ∀ b i, seen (turn b i) = seen b) (slots : List Slot) (b : β) :
    seen (slots.foldl turn b) = seen b := by
  induction slots generalizing b with
  | nil => rfl
  | cons i rest inductionHypothesis =>
      rw [List.foldl_cons, inductionHypothesis, kept]

theorem getOneFrame_encoders {τ : Type} (e : Encoders τ)
    (b : τ × Except Abort FLVSegmentOutput) :
    (e.backend.getOneFrameForAllStreams b).1.1 = b.1 := by
  simp only [Encoders.backend]
  split
  · rfl
  · rfl

variable (l held others) in
/-- A video instant asks the mixer at most once, and only this changes it. -/
theorem mixVideoInstant_mixer (b : MixerOutput γ σ) (loop : VideoLoop V A)
    (videoPts : UInt32) :
    (mixVideoInstant (VideoMixer.encoders l held others).backend b loop
        videoPts).1.1.1 =
      if loop.totalStreams > 0 then
        ((VideoMixer.encoders l held others).mixVideo b.1
          { rawData := loop.rawVideoData
            totalStreams := loop.totalStreams }).1.1
      else b.1.1 := by
  unfold mixVideoInstant
  split
  · dsimp only
    split
    · rfl
    · dsimp only
      rw [getOneFrame_encoders]
      split
      · refine (foldl_seen (fun b : MixerOutput γ σ => b.1.1) ?_
          Streams.slots _).trans rfl
        intro b i
        split
        · rfl
        · rfl
      · rfl
  · rfl

variable (l held others) in
theorem mixAudioInstant_mixer (b : MixerOutput γ σ) (loop : AudioLoop V A)
    (audioPts : UInt32) :
    (mixAudioInstant (VideoMixer.encoders l held others).backend b loop
      audioPts).1.1.1 = b.1.1 := by
  have stream : ∀ (state : MixerOutput γ σ × List AudioMix) (mixer : Nat)
      (excludeStreamId : UInt32),
      (mixAudioStream (VideoMixer.encoders l held others).backend loop
        audioPts state mixer excludeStreamId).1.1.1 = state.1.1.1 := by
    intro state mixer excludeStreamId
    unfold mixAudioStream
    dsimp only
    split
    · rfl
    · rfl
  unfold mixAudioInstant
  split
  · dsimp only
    rw [getOneFrame_encoders, stream]
    split
    · refine (foldl_seen
        (fun state : MixerOutput γ σ × List AudioMix => state.1.1.1) ?_
        Streams.slots _).trans rfl
      intro state i
      unfold mixMobile
      split
      · exact stream state _ _
      · rfl
    · rfl
  · rfl

theorem ScalersSound.readData {codecs : Codecs V A} {β : Type}
    {m m' : MixCoder V A β} {inputBuf : SmartBuffer}
    (sized : ∀ i, (m.streams.stream i).Sized)
    (fed : m.newInput codecs inputBuf = .ok m') :
    (∀ i, (m'.streams.stream i).Sized) ∧
      m'.rawVideoData = m.rawVideoData ∧ m'.output = m.output := by
  obtain ⟨flvSegParser, read, same⟩ := bind_ok.mp fed
  cases same
  refine ⟨?_, rfl, rfl⟩
  refine readData_invariant
    (fun p : Streams V A => ∀ i, (p.stream i).Sized) ?_ sized read
  intro p effect p' holds acted
  refine Streams.act_kept (fun _ s => s.Sized) ?_ ?_ ?_ holds acted
  · intro i s online slot
    exact slot
  · intro i s source slot
    exact slot
  · intro i s s' _ _ tag slot done
    exact slot.onTag done

/-- Entries that a video instant shows come from the queue or were cached. -/
theorem shown_sized {s s' : Stream V A} {cached cached' : Option VideoRawData}
    {videoPts : UInt32} {popped : List VideoRawData}
    (turn : Stream.VideoShown s cached videoPts popped s' cached')
    (sized : s.Sized) (cachedSized : ∀ v, cached = some v → v.Sized) :
    s'.Sized ∧ ∀ v, cached' = some v → v.Sized := by
  have split := s.due_append_left videoPts
  constructor
  · rw [turn.stream]
    split
    · refine ⟨sized.1, ?_⟩
      intro v member
      apply sized.2 v
      rw [← split]
      exact List.mem_append_right _ member
    · exact sized
  · intro v isShown
    rw [turn.shown] at isShown
    obtain ⟨w, from_, marked⟩ := Option.map_eq_some_iff.mp isShown
    rw [← marked]
    apply VideoRawData.Sized.mark
    rcases Option.or_eq_some_iff.mp from_ with newest | ⟨_, old⟩
    · have member := List.mem_of_getLast? newest
      rw [turn.taken] at member
      split at member
      · apply sized.2 w
        rw [← split]
        exact List.mem_append_left _ member
      · cases member
    · exact cachedSized w old

/-- What a video instant mixes, and what the mixer is afterwards. -/
theorem videoOutput_sound {m m' : MixCoder V A (MixerOutput γ σ)}
    {videoPts : UInt32} {out : Output} (sound : m.ScalersSound)
    (taken : m.videoOutput (VideoMixer.encoders l held others).backend
      videoPts = (m', out)) :
    m'.ScalersSound ∧ ∀ videoMixer, m.output.1.1 = .ok videoMixer →
      ∀ mix, mix ∈ out.videoMixes →
        videoMixer.ScalesInStep l held mix := by
  have shown := videoOutput_taken taken
  have sizes : (∀ i, (m'.streams.stream i).Sized) ∧
      ∀ i v, m'.rawVideoData i = some v → v.Sized := by
    constructor
    · intro i
      exact (shown_sized (shown.shown i) (sound.streams i)
        (sound.cached i)).1
    · intro i
      exact (shown_sized (shown.shown i) (sound.streams i)
        (sound.cached i)).2
  unfold videoOutput at taken
  have total := VideoLoop.total videoPts
    { stream := m.streams.stream, rawVideoData := m.rawVideoData }
  generalize Streams.slots.foldl (VideoLoop.turn videoPts) _ = loop
    at taken total
  have after :=
    mixVideoInstant_mixer l held others m.output loop videoPts
  have mixes := mixVideoInstant_calls
    (VideoMixer.encoders l held others).backend m.output loop videoPts
  rw [Nat.zero_add] at total
  have cached : m'.rawVideoData = loop.rawVideoData := by
    cases taken
    rfl
  have output : m'.output = (mixVideoInstant
      (VideoMixer.encoders l held others).backend m.output loop
        videoPts).1 := by
    cases taken
    rfl
  have called : out.videoMixes = (mixVideoInstant
      (VideoMixer.encoders l held others).backend m.output loop
        videoPts).2.1 := by
    cases taken
    rfl
  have pictures := sizes.2
  rw [cached] at pictures
  refine ⟨⟨sizes.1, sizes.2, ?_⟩, ?_⟩
  · intro videoMixer isMixer
    rw [output, after] at isMixer
    split at isMixer
    · simp only [VideoMixer.encoders] at isMixer
      split at isMixer
      · rename_i mixed mixes
        cases isMixer
        cases before : m.output.1.1 with
        | error stopped =>
            rw [before] at mixes
            cases mixes
        | ok videoMixer =>
            rw [before] at mixes
            exact VideoMixer.mixStreams_fit (sound.mixer videoMixer before)
              pictures mixes
      · cases isMixer
    · exact sound.mixer videoMixer isMixer
  · intro videoMixer isMixer mix member
    rw [called] at member
    rw [mixes mix member]
    exact VideoMixer.scalesInStep (sound.mixer videoMixer isMixer) pictures
      total

theorem audioOutput_sound {m m' : MixCoder V A (MixerOutput γ σ)}
    {audioPts : UInt32} {out : Output} (sound : m.ScalersSound)
    (taken : m.audioOutput (VideoMixer.encoders l held others).backend
      audioPts = .ok (m', out)) :
    m'.ScalersSound ∧ out.videoMixes = [] := by
  have took := (audioOutput_ok taken).1
  obtain ⟨loop, _, rest⟩ := bind_ok.mp taken
  have same := mixAudioInstant_mixer l held others m.output loop audioPts
  generalize mixAudioInstant (VideoMixer.encoders l held others).backend
    m.output loop audioPts = coded at rest same
  cases rest
  refine ⟨⟨?_, ?_, ?_⟩, rfl⟩
  · intro i
    cases started : (m.streams.stream i).audioStarted with
    | true =>
        obtain ⟨_, _, _, _, left, _⟩ := took.started started
        rw [left]
        exact sound.streams i
    | false =>
        rw [(took.notStarted started).2.1]
        exact sound.streams i
  · rw [took.cachedVideo]
    exact sound.cached
  · intro videoMixer isMixer
    apply sound.mixer videoMixer
    rw [← same]
    exact isMixer

theorem ScalersSound.setStreams {m : MixCoder V A (MixerOutput γ σ)}
    {streams : Streams V A} (sound : m.ScalersSound)
    (same : streams.stream = m.streams.stream) :
    (m.setStreams streams).ScalersSound where
  streams := by
    rw [setStreams_streams, same]
    exact sound.streams
  cached := sound.cached
  mixer := sound.mixer

theorem getOutput_sound {m m' : MixCoder V A (MixerOutput γ σ)}
    {out : Output} (sound : m.ScalersSound)
    (taken : m.getOutput (VideoMixer.encoders l held others).backend =
      .ok (m', out)) :
    m'.ScalersSound ∧ ∀ videoMixer, m.output.1.1 = .ok videoMixer →
      ∀ mix, mix ∈ out.videoMixes →
        videoMixer.ScalesInStep l held mix := by
  obtain ⟨instant, streams, decided, carriedOut⟩ := getOutput_ok taken
  have ready := sound.setStreams (Streams.nextInstant_stream decided)
  cases instant with
  | none =>
      obtain ⟨sameMixer, nothing⟩ := carriedOut
      subst sameMixer nothing
      refine ⟨ready, ?_⟩
      intro _ _ mix member
      cases member
  | audio audioPts =>
      obtain ⟨soundAfter, noMixes⟩ := audioOutput_sound ready carriedOut
      refine ⟨soundAfter, ?_⟩
      intro _ _ mix member
      rw [noMixes] at member
      cases member
  | video videoPts =>
      have mixesInStep := videoOutput_sound ready carriedOut
      exact mixesInStep

end MixCoder

theorem Session.step_sound {l : Swscale γ} {held : Nat → UInt8}
    {others : Encoders σ} {codecs : Codecs V A}
    {session session' : Session V A (MixerOutput γ σ)} {call : MixCall}
    (sound : session.mixCoder.ScalersSound)
    (stepped : session.step codecs (VideoMixer.encoders l held others).backend
      call = .ok session') :
    session'.mixCoder.ScalersSound := by
  cases call with
  | newInput inputBuf =>
      obtain ⟨mixCoder, fed, rest⟩ := bind_ok.mp stepped
      obtain ⟨streams, cached, output⟩ :=
        MixCoder.ScalersSound.readData sound.streams fed
      cases rest
      constructor
      · exact streams
      · rw [cached]
        exact sound.cached
      · rw [output]
        exact sound.mixer
  | getOutput =>
      obtain ⟨⟨m', out⟩, taken, rest⟩ := bind_ok.mp stepped
      cases rest
      exact (MixCoder.getOutput_sound sound taken).1

/-- Whatever is fed to the program and whenever it mixes, the contexts that a
video instant scales with are made for the pictures and for the planes. -/
theorem scalers_inStep (codecs : Codecs V A) (l : Swscale γ)
    (held : Nat → UInt8) (others : Encoders σ)
    (streamSource : Slot → StreamSource) (library : γ)
    (outputWidth outputHeight : Nat) (rest : σ)
    (flvSegmentOutput : Except Abort FLVSegmentOutput) (calls : List MixCall) :
    EveryStep
      (Session.step codecs (VideoMixer.encoders l held others).backend)
      (fun session call => call = .getOutput →
        session.mixCoder.ScalesInStep l held others)
      (Session.start (V := V) (A := A) streamSource
        ((.ok { library, outputWidth, outputHeight }, rest),
          flvSegmentOutput)) calls := by
  rw [ everyStep_iff_forall_prefix]
  intro before call after session _ reached _
  have sound : session.mixCoder.ScalersSound := by
    refine run_invariant
      (fun session : Session V A (MixerOutput γ σ) =>
        session.mixCoder.ScalersSound)
      (fun _ _ _ sound stepped => Session.step_sound sound stepped) ?_
      reached
    constructor
    · intro i
      refine ⟨⟨Or.inl rfl, Or.inl rfl⟩, ?_⟩
      intro v member
      cases member
    · intro i v nothing
      cases nothing
    · intro videoMixer isMixer
      cases isMixer
      intro i ctx nothing
      cases nothing
  intro m' out videoMixer taken isMixer mix member
  exact (MixCoder.getOutput_sound sound taken).2 videoMixer isMixer mix member

end GroupVoip
