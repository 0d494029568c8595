import GroupVoip.MixEncoders
import GroupVoip.OutputWire
import GroupVoip.VideoValidity

/-!
# What a null output leaves behind

`getOutput` returns nothing when no instant is ready, but also when no encoder
had a packet or a video instant had no valid picture.  Only in the first case
and when the instant took the last frame of a started audio queue is there no
audio instant left.
-/

namespace GroupVoip

open Library.Runs Library.Loops

variable {V A β σ : Type}

/-! ## Packaging -/

/-- Packets that a tag can carry. -/
def Encoders.SmallPackets (e : Encoders σ) : Prop :=
  (∀ s raw packet, (e.encodeVideo s raw).2.1 = some packet →
      packet.length < 16777216 - 9) ∧
    ∀ s mixer raw packet, (e.encodeAudio s mixer raw).2 = some packet →
      packet.length < 16777216 - 9

theorem newBuffer_ok {size : Nat} {pieces : List Bytes}
    (exact : pieces.flatten.length = size) :
    newBuffer size pieces = .ok pieces.flatten := by
  rw [newBuffer, if_pos exact]

namespace FLVOutput

/-- A frame with room for its header. -/
def ShortFrame (frame : Bytes) : Prop :=
  frame ≠ [] ∧ frame.length ≤ 33554432

theorem length_flvHeader : flvHeader.length = 319 := by
  decide +kernel

theorem withHeader_short (o : FLVOutput) {frame : Bytes} (some : frame ≠ [])
    (small : frame.length ≤ 16777216 + 15) :
    ShortFrame (o.withHeader frame).1 := by
  unfold withHeader
  split
  · exact ⟨some, le_trans small (by decide)⟩
  · have header := length_flvHeader
    constructor
    · intro empty
      exact some (List.append_eq_nil_iff.mp empty).2
    · simp only [newHeader, List.length_append]
      omega

theorem length_rectBytes (videoRect : Option VideoRect) :
    (rectBytes videoRect).length = 8 := by
  cases videoRect <;> rfl

/-- The size of a frame as it is reckoned with, for a packet that fits. -/
theorem frameSize (packet extra : Nat) (small : packet + extra < 16777216) :
    (11 + (UInt32.ofNat packet + UInt32.ofNat extra) + 4).toNat =
      15 + extra + packet := by
  have eleven : (11 : UInt32).toNat = 11 := rfl
  have four : (4 : UInt32).toNat = 4 := rfl
  rw [UInt32.toNat_add, UInt32.toNat_add, UInt32.toNat_add,
    UInt32.toNat_ofNat', UInt32.toNat_ofNat', eleven, four]
  omega

/-- Pieces of the size that is reckoned with are a short frame. -/
theorem write_short (o : FLVOutput) (packet extra : Nat)
    (small : packet + extra < 16777216) {pieces : List Bytes}
    (length : pieces.flatten.length = 15 + extra + packet) :
    ∃ frame o', (newBuffer
        (11 + (UInt32.ofNat packet + UInt32.ofNat extra) + 4).toNat pieces >>=
          fun frame => .ok (o.withHeader frame)) = .ok (frame, o') ∧
      ShortFrame frame := by
  have size := frameSize packet extra small
  have written := newBuffer_ok (length.trans size.symm)
  refine ⟨_, _, bind_ok.mpr ⟨_, written, rfl⟩, ?_⟩
  apply withHeader_short
  · intro empty
    rw [empty, List.length_nil] at length
    omega
  · omega

theorem packageVideoFrame_short (o : FLVOutput) {videoPacket : Bytes}
    (small : videoPacket.length < 16777216 - 9) (ts : UInt32)
    (bIsKeyFrame : Bool) (videoRect : Option VideoRect) :
    ∃ frame o', o.packageVideoFrame videoPacket ts bIsKeyFrame videoRect =
      .ok (frame, o') ∧ ShortFrame frame := by
  have length : ∀ head tail : Bytes, head.length = 11 → tail.length = 4 →
      [head, [if bIsKeyFrame then (0x18 : UInt8) else 0x28],
        rectBytes videoRect, videoPacket, tail].flatten.length =
          15 + 9 + videoPacket.length := by
    intro head tail eleven four
    simp only [List.flatten_cons, List.flatten_nil, List.length_append,
      List.length_cons, List.length_nil, length_rectBytes, eleven, four]
    omega
  exact o.write_short videoPacket.length 9 (by omega) (length
    (tagHead 0x09 (UInt32.ofNat videoPacket.length + 9) ts)
    (prevTagSize (UInt32.ofNat videoPacket.length + 9)) rfl rfl)

theorem packageAudioFrame_short (o : FLVOutput) {audioPacket : Bytes}
    (small : audioPacket.length < 16777216 - 9) (ts : UInt32) :
    ∃ frame o', o.packageAudioFrame audioPacket ts = .ok (frame, o') ∧
      ShortFrame frame := by
  have length : ∀ head tail : Bytes, head.length = 11 → tail.length = 4 →
      [head, [o.audioTagByte], audioPacket, tail].flatten.length =
          15 + 1 + audioPacket.length := by
    intro head tail eleven four
    simp only [List.flatten_cons, List.flatten_nil, List.length_append,
      List.length_cons, List.length_nil, eleven, four]
    omega
  exact o.write_short audioPacket.length 1 (by omega) (length
    (tagHead 0x08 (UInt32.ofNat audioPacket.length + 1) ts)
    (prevTagSize (UInt32.ofNat audioPacket.length + 1)) rfl rfl)

end FLVOutput

/-! ## The writer between two calls -/

namespace FLVSegmentOutput

/-- The writer did not run out of a buffer, its buffers are short, and some
stream has bytes to send exactly when `busy`. -/
def Holds (o : Except Abort FLVSegmentOutput) (busy : Bool) : Prop :=
  ∃ w, o = .ok w ∧ (∀ i, (w.pending i).length ≤ 33554432) ∧
    ((∃ i, w.pending i ≠ []) ↔ busy = true)

theorem start_holds (acid : UInt8) : Holds (.ok (start acid)) false := by
  refine ⟨start acid, rfl, ?_, ?_⟩
  · intro i
    exact Nat.zero_le _
  · constructor
    · rintro ⟨i, busy⟩
      exact absurd rfl busy
    · intro busy
      cases busy

/-- A packet for a stream makes its buffer busy. -/
theorem Holds.write {o : Except Abort FLVSegmentOutput} {busy : Bool}
    (holds : Holds o busy) {i : OutputSlot}
    {package : FLVSegmentOutput → Except Abort FLVSegmentOutput}
    (packaged : ∀ w : FLVSegmentOutput, ∃ frame output,
      FLVOutput.ShortFrame frame ∧ package w = .ok {
        outputBuffer := Function.update w.outputBuffer i (some frame)
        output := output }) : Holds (o.bind package) true := by
  rcases holds with ⟨w, rfl, short, _⟩
  rcases packaged w with ⟨frame, output, ⟨some, small⟩, written⟩
  refine ⟨_, written, ?_, ?_⟩
  · intro j
    by_cases here : j = i
    · subst here
      simpa [pending] using small
    · simpa [pending, here] using short j
  · refine iff_of_true ⟨i, ?_⟩ rfl
    simpa [pending] using some

theorem Holds.packageVideo {o : Except Abort FLVSegmentOutput} {busy : Bool}
    (holds : Holds o busy) {videoPacket : Bytes}
    (small : videoPacket.length < 16777216 - 9) (ts : UInt32)
    (bIsKeyFrame : Bool) (i : OutputSlot) (videoRect : Option VideoRect) :
    Holds (o.bind fun w =>
      w.packageVideoFrame videoPacket ts bIsKeyFrame i videoRect) true := by
  apply holds.write (i := i)
  intro w
  rcases (w.output i).packageVideoFrame_short small ts bIsKeyFrame videoRect with
    ⟨frame, output, written, short⟩
  exact ⟨frame, _, short, bind_ok.mpr ⟨_, written, rfl⟩⟩

theorem Holds.packageAudio {o : Except Abort FLVSegmentOutput} {busy : Bool}
    (holds : Holds o busy) {audioPacket : Bytes}
    (small : audioPacket.length < 16777216 - 9) (ts : UInt32)
    (i : OutputSlot) :
    Holds (o.bind fun w => w.packageAudioFrame audioPacket ts i) true := by
  apply holds.write (i := i)
  intro w
  rcases (w.output i).packageAudioFrame_short small ts with
    ⟨frame, output, written, short⟩
  exact ⟨frame, _, short, bind_ok.mpr ⟨_, written, rfl⟩⟩

/-- Without bytes to send the first loop counts nothing. -/
theorem countStreams_idle {w : FLVSegmentOutput} (idle : ∀ i, w.pending i = []) :
    w.countStreams.totalLen = 0 := by
  have each : ∀ (slots : List OutputSlot) (c : FrameCount),
      (slots.foldl w.countStream c).totalLen = c.totalLen := by
    intro slots
    induction slots with
    | nil =>
        intro c
        rfl
    | cons i rest inductionHypothesis =>
        intro c
        rw [List.foldl_cons, inductionHypothesis, countStream,
          if_neg (not_not.mpr (idle i))]
        split <;> rfl
  exact each slots {}

/-- A frame comes out exactly when some stream has bytes to send, and none is
left behind. -/
theorem Holds.getOneFrame {o : Except Abort FLVSegmentOutput} {busy : Bool}
    (holds : Holds o busy) :
    ∃ result w, o.bind getOneFrameForAllStreams = .ok (result, w) ∧
      result.isSome = busy ∧ Holds (.ok w) false := by
  rcases holds with ⟨w, rfl, short, isBusy⟩
  cases busy with
  | true =>
      have fillable : w.Fillable := ⟨short, isBusy.mpr rfl⟩
      refine ⟨some w.segment, w.reset, fillable.getOneFrame_eq, rfl, w.reset, rfl,
        ?_, ?_⟩
      · intro i
        rw [reset_pending]
        exact Nat.zero_le _
      · simp [reset_pending]
  | false =>
      have idle : ∀ i, w.pending i = [] := by
        intro i
        by_contra busy
        exact absurd (isBusy.mp ⟨i, busy⟩) (by decide)
      have nothing : ¬ w.countStreams.totalLen > 0 := by
        rw [countStreams_idle idle]
        decide
      refine ⟨none, w, ?_, rfl, w, rfl, short, isBusy⟩
      exact if_neg nothing

end FLVSegmentOutput

/-! ## What the encoders have -/

namespace Encoders

/-- Mix and encode one audio stream; the second component tells whether a
packet came out so far. -/
def encodeMix (e : Encoders σ) (state : σ × Bool) (mix : AudioMix) :
    σ × Bool :=
  let (s, rawFrameMixed) := e.mixAudio state.1 mix
  let (s, encodedFrame) := e.encodeAudio s mix.mixer rawFrameMixed
  (s, state.2 || encodedFrame.isSome)

/-- Whether one of the audio encoders has a packet for its mix. -/
def hasAudioPacket (e : Encoders σ) (s : σ) (mixes : List AudioMix) : Bool :=
  (mixes.foldl e.encodeMix (s, false)).2

/-- Whether the video encoder has a packet for a mix. -/
def hasVideoPacket (e : Encoders σ) (s : σ) (mix : VideoMix) : Bool :=
  let (s, rawFrameMixed, _) := e.mixVideo s mix
  (e.encodeVideo s rawFrameMixed).2.1.isSome

/-- The backend is in step with the encoders. -/
def InStep (b : σ × Except Abort FLVSegmentOutput) (state : σ × Bool) : Prop :=
  b.1 = state.1 ∧ FLVSegmentOutput.Holds b.2 state.2

theorem inStep_mixAudioStream {e : Encoders σ} (small : e.SmallPackets)
    (l : AudioLoop V A) (audioPts : UInt32)
    {b : σ × Except Abort FLVSegmentOutput} {state : σ × Bool}
    (mixes : List AudioMix) (inStep : InStep b state) (mixer : Nat)
    (excludeStreamId : UInt32) :
    InStep (mixAudioStream e.backend l audioPts (b, mixes) mixer
        excludeStreamId).1
      (e.encodeMix state
        { mixer := mixer, rawData := l.rawAudioData
          totalStreams := l.totalStreams
          excludeStreamId := excludeStreamId }) := by
  rcases inStep with ⟨same, holds⟩
  simp only [mixAudioStream, encodeMix, backend, same]
  cases encoded : (e.encodeAudio (e.mixAudio state.1 _).1 mixer
      (e.mixAudio state.1 _).2).2 with
  | none =>
      refine ⟨rfl, ?_⟩
      simpa using holds
  | some packet =>
      refine ⟨rfl, ?_⟩
      have packaged := holds.packageAudio (small.2 _ _ _ _ encoded) audioPts
        (outputSlot mixer)
      simpa using packaged

theorem inStep_foldl_mixMobile {e : Encoders σ} (small : e.SmallPackets)
    (l : AudioLoop V A) (audioPts : UInt32) (indexes : List Slot) :
    ∀ {b : (σ × Except Abort FLVSegmentOutput) × List AudioMix}
      {state : σ × Bool}, InStep b.1 state →
      InStep (indexes.foldl (mixMobile e.backend l audioPts) b).1
        (((indexes.filter fun i => audioMobile (l.rawAudioData i)).map fun i =>
          { mixer := i.val, rawData := l.rawAudioData
            totalStreams := l.totalStreams
            excludeStreamId := UInt32.ofNat i.val }).foldl
          e.encodeMix state) := by
  induction indexes with
  | nil =>
      intro b state inStep
      exact inStep
  | cons i rest inductionHypothesis =>
      intro b state inStep
      rw [List.foldl_cons, mixMobile]
      by_cases mobile : audioMobile (l.rawAudioData i) = true
      · rw [if_pos mobile, List.filter_cons_of_pos
          (p := fun i => audioMobile (l.rawAudioData i)) mobile, List.map_cons,
          List.foldl_cons]
        apply inductionHypothesis
        exact inStep_mixAudioStream small l audioPts b.2 inStep i.val
          (UInt32.ofNat i.val)
      · rw [if_neg mobile, List.filter_cons_of_neg
          (p := fun i => audioMobile (l.rawAudioData i)) mobile]
        exact inductionHypothesis inStep

theorem getOneFrame_backend (e : Encoders σ)
    (b : σ × Except Abort FLVSegmentOutput) {busy : Bool}
    (holds : FLVSegmentOutput.Holds b.2 busy) :
    (e.backend.getOneFrameForAllStreams b).2.isSome = busy ∧
      FLVSegmentOutput.Holds (e.backend.getOneFrameForAllStreams b).1.2
        false := by
  rcases holds.getOneFrame with ⟨result, w, framed, isSome, rest⟩
  simp only [backend, framed]
  exact ⟨isSome, rest⟩

/-- An audio instant returns a frame exactly when one of its encoders has a
packet. -/
theorem mixAudioInstant_result {e : Encoders σ} (small : e.SmallPackets)
    (l : AudioLoop V A) (audioPts : UInt32)
    {b : σ × Except Abort FLVSegmentOutput}
    (holds : FLVSegmentOutput.Holds b.2 false) (mixable : l.totalStreams > 0)
    (mobileCounted : l.totalMobileStreams =
      Streams.slots.countP fun i => audioMobile (l.rawAudioData i)) :
    (mixAudioInstant e.backend b l audioPts).2.2.isSome =
        e.hasAudioPacket b.1 (audioMixCalls l.rawAudioData l.totalStreams) ∧
      FLVSegmentOutput.Holds (mixAudioInstant e.backend b l audioPts).1.2
        false := by
  have start : InStep b (b.1, false) := ⟨rfl, holds⟩
  have mobile : InStep (if l.totalMobileStreams > 0 then
        Streams.slots.foldl (mixMobile e.backend l audioPts) (b, [])
      else (b, [])).1
      (((Streams.slots.filter fun i => audioMobile (l.rawAudioData i)).map
        fun i =>
          { mixer := i.val, rawData := l.rawAudioData
            totalStreams := l.totalStreams
            excludeStreamId := UInt32.ofNat i.val }).foldl
          e.encodeMix (b.1, false)) := by
    by_cases any : l.totalMobileStreams > 0
    · rw [if_pos any]
      exact inStep_foldl_mixMobile small l audioPts Streams.slots start
    · have noMobile : (Streams.slots.filter fun i =>
          audioMobile (l.rawAudioData i)) = [] := by
        apply List.eq_nil_of_length_eq_zero
        rw [← List.countP_eq_length_filter, ← mobileCounted]
        omega
      rw [if_neg any, noMobile]
      exact start
  simp only [mixAudioInstant, if_pos mixable]
  generalize (if l.totalMobileStreams > 0 then
      Streams.slots.foldl (mixMobile e.backend l audioPts) (b, [])
    else (b, [])) = state at mobile ⊢
  have all := inStep_mixAudioStream small l audioPts state.2 mobile
    MAX_XCODING_INSTANCES MAX_U32
  rw [hasAudioPacket, audioMixCalls, List.foldl_append, List.foldl_cons,
    List.foldl_nil]
  generalize mixAudioStream e.backend l audioPts state MAX_XCODING_INSTANCES
    MAX_U32 = mixed at all ⊢
  exact getOneFrame_backend e mixed.1 all.2

theorem holds_foldl_packageMobile {e : Encoders σ} {encodedFrame : Bytes}
    (small : encodedFrame.length < 16777216 - 9)
    (rawVideoData : Slot → Option VideoRawData) (videoPts : UInt32)
    (bIsKeyFrame : Bool) (videoRect : Slot → VideoRect)
    (indexes : List Slot) :
    ∀ {b : σ × Except Abort FLVSegmentOutput} {busy : Bool},
      FLVSegmentOutput.Holds b.2 busy →
      ∃ busy', FLVSegmentOutput.Holds (indexes.foldl (fun b i =>
        if videoMobile (rawVideoData i) then
          e.backend.packageVideo b encodedFrame videoPts bIsKeyFrame i.val
            (some (videoRect i))
        else b) b).2 busy' := by
  induction indexes with
  | nil =>
      intro b busy holds
      exact ⟨busy, holds⟩
  | cons i rest inductionHypothesis =>
      intro b busy holds
      rw [List.foldl_cons]
      by_cases mobile : videoMobile (rawVideoData i) = true
      · rw [if_pos mobile]
        exact inductionHypothesis (holds.packageVideo small videoPts
          bIsKeyFrame _ _)
      · rw [if_neg mobile]
        exact inductionHypothesis holds

/-- A video instant, given what its mixer and its encoder return. -/
theorem mixVideoInstant_eq {backend : Backend β} {b b' b'' : β}
    {l : VideoLoop V A} {rawFrameMixed : Bytes} {videoRect : Slot → VideoRect}
    {encodedFrame : Option Bytes} {bIsKeyFrame : Bool}
    (mixable : l.totalStreams > 0)
    (mixed : backend.mixVideo b
      { rawData := l.rawVideoData, totalStreams := l.totalStreams } =
        (b', rawFrameMixed, videoRect))
    (encoded : backend.encodeVideo b' rawFrameMixed =
      (b'', encodedFrame, bIsKeyFrame)) (videoPts : UInt32) :
    mixVideoInstant backend b l videoPts =
      match encodedFrame with
      | none => (b'', [{ rawData := l.rawVideoData
                         totalStreams := l.totalStreams }], none)
      | some encodedFrame =>
          let b := backend.packageVideo
            (if l.totalMobileStreams > 0 then
              Streams.slots.foldl (fun b i =>
                if videoMobile (l.rawVideoData i) then
                  backend.packageVideo b encodedFrame videoPts bIsKeyFrame
                    i.val (some (videoRect i))
                else b) b''
            else b'') encodedFrame videoPts bIsKeyFrame
            MAX_XCODING_INSTANCES none
          ((backend.getOneFrameForAllStreams b).1,
            [{ rawData := l.rawVideoData, totalStreams := l.totalStreams }],
            (backend.getOneFrameForAllStreams b).2) := by
  rw [mixVideoInstant, if_pos mixable]
  cases encodedFrame with
  | none => simp only [mixed, encoded]
  | some encodedFrame => simp only [mixed, encoded]

/-- The encoder's packet for a mix, and the writer untouched. -/
theorem encodeVideo_backend {e : Encoders σ}
    {b b' b'' : σ × Except Abort FLVSegmentOutput} {mix : VideoMix}
    {rawFrameMixed : Bytes} {videoRect : Slot → VideoRect}
    {encodedFrame : Option Bytes} {bIsKeyFrame : Bool}
    (mixed : e.backend.mixVideo b mix = (b', rawFrameMixed, videoRect))
    (encoded : e.backend.encodeVideo b' rawFrameMixed =
      (b'', encodedFrame, bIsKeyFrame)) :
    b''.2 = b.2 ∧ e.hasVideoPacket b.1 mix = encodedFrame.isSome ∧
      ∃ s, (e.encodeVideo s rawFrameMixed).2.1 = encodedFrame := by
  cases mixed
  cases encoded
  exact ⟨rfl, rfl, _, rfl⟩

/-- A video instant returns a frame exactly when it has a valid picture and
the encoder has a packet for it. -/
theorem mixVideoInstant_result {e : Encoders σ} (small : e.SmallPackets)
    (l : VideoLoop V A) (videoPts : UInt32)
    {b : σ × Except Abort FLVSegmentOutput}
    (holds : FLVSegmentOutput.Holds b.2 false) :
    ((mixVideoInstant e.backend b l videoPts).2.2.isSome = true ↔
        l.totalStreams > 0 ∧ e.hasVideoPacket b.1
          { rawData := l.rawVideoData
            totalStreams := l.totalStreams } = true) ∧
      FLVSegmentOutput.Holds (mixVideoInstant e.backend b l videoPts).1.2
        false := by
  by_cases mixable : l.totalStreams > 0
  · rcases mixed : e.backend.mixVideo b
      { rawData := l.rawVideoData, totalStreams := l.totalStreams } with
      ⟨b', rawFrameMixed, videoRect⟩
    rcases encoded : e.backend.encodeVideo b' rawFrameMixed with
      ⟨b'', encodedFrame, bIsKeyFrame⟩
    rcases encodeVideo_backend mixed encoded with ⟨same, packet, s, came⟩
    rw [mixVideoInstant_eq mixable mixed encoded, packet]
    rw [← same] at holds
    cases encodedFrame with
    | none => simpa using holds
    | some encodedFrame =>
        have fits := small.1 s rawFrameMixed encodedFrame came
        have mobile : ∃ busy, FLVSegmentOutput.Holds
            (if l.totalMobileStreams > 0 then
              Streams.slots.foldl (fun b i =>
                if videoMobile (l.rawVideoData i) then
                  e.backend.packageVideo b encodedFrame videoPts bIsKeyFrame
                    i.val (some (videoRect i))
                else b) b''
            else b'').2 busy := by
          by_cases any : l.totalMobileStreams > 0
          · rw [if_pos any]
            exact holds_foldl_packageMobile fits l.rawVideoData videoPts
              bIsKeyFrame videoRect Streams.slots holds
          · rw [if_neg any]
            exact ⟨false, holds⟩
        rcases mobile with ⟨busy, mobile⟩
        have all := mobile.packageVideo fits videoPts bIsKeyFrame
          (outputSlot MAX_XCODING_INSTANCES) none
        rcases getOneFrame_backend e (e.backend.packageVideo _ encodedFrame
          videoPts bIsKeyFrame MAX_XCODING_INSTANCES none) all with ⟨isSome, rest⟩
        exact ⟨iff_of_true isSome ⟨mixable, rfl⟩, rest⟩
  · simp only [mixVideoInstant, if_neg mixable]
    simpa [mixable] using holds

end Encoders

/-! ## What the next instant shows -/

/-- The cached sound of a slot after an audio instant. -/
def Stream.shownAudio (s : Stream V A) (cached : Option AudioRawData) :
    Option AudioRawData :=
  if s.audioStarted then
    s.audioQueue.head?.map fun a => a.mark s.streamSource true
  else cached.map fun a => a.mark s.streamSource false

/-- The cached picture of a slot after a video instant. -/
def Stream.shownVideo (s : Stream V A) (cached : Option VideoRawData)
    (videoPts : UInt32) : Option VideoRawData :=
  ((if s.videoStarted then s.due videoPts else []).getLast?.or cached).map
    fun v => v.mark s.streamSource
      (s.videoStarted && s.videoDecoder.hasFirstFrameDecoded videoPts)

namespace MixCoder

variable (m : MixCoder V A β)

def nextAudioData (i : Slot) : Option AudioRawData :=
  (m.streams.stream i).shownAudio (m.rawAudioData i)

def nextVideoData (videoPts : UInt32) (i : Slot) : Option VideoRawData :=
  (m.streams.stream i).shownVideo (m.rawVideoData i) videoPts

def nextAudioMixes : List AudioMix :=
  audioMixCalls m.nextAudioData
    (Streams.slots.countP fun i => audioValid (m.nextAudioData i))

def nextVideoMix (videoPts : UInt32) : VideoMix where
  rawData := m.nextVideoData videoPts
  totalStreams :=
    Streams.slots.countP fun i => videoValid (m.nextVideoData videoPts i)

theorem audioOutput_result {e : Encoders σ} (small : e.SmallPackets)
    {m m' : MixCoder V A (σ × Except Abort FLVSegmentOutput)}
    {audioPts : UInt32} {out : Output}
    (holds : FLVSegmentOutput.Holds m.output.2 false)
    (ready : m.streams.AudioReady)
    (taken : m.audioOutput e.backend audioPts = .ok (m', out)) :
    out.resultFlvPacket.isSome =
        e.hasAudioPacket m.output.1 m.nextAudioMixes ∧
      FLVSegmentOutput.Holds m'.output.2 false := by
  have took := (audioOutput_ok taken).1
  rcases bind_ok.mp taken with ⟨l, looped, rest⟩
  have finished := AudioLoop.finished looped
  have mobile : l.totalMobileStreams =
      Streams.slots.countP fun i => audioMobile (l.rawAudioData i) := by
    simpa using finished.mobile
  have total : l.totalStreams =
      Streams.slots.countP fun i => audioValid (l.rawAudioData i) := by
    simpa using finished.total
  have same : l.rawAudioData = m.nextAudioData := by
    funext i
    rcases Stream.showAudio_ok.mp (finished.shown i) with
      ⟨started, a, others, queued, _, _, shown⟩ |
      ⟨notStarted, _, _, shown⟩
    · simp only [nextAudioData, Stream.shownAudio, streams] at *
      simp [started, queued, shown]
    · simp only [nextAudioData, Stream.shownAudio, streams] at *
      simp [notStarted, shown]
  have mixable : l.totalStreams > 0 := by
    rcases ready with ⟨⟨i, started⟩, supplied⟩
    rcases List.exists_cons_of_ne_nil (supplied i started) with
      ⟨a, others, queued⟩
    rw [total, gt_iff_lt, List.countP_pos_iff]
    refine ⟨i, Streams.mem_slots i, ?_⟩
    rw [same]
    simp [nextAudioData, Stream.shownAudio, started, queued, audioValid,
      AudioRawData.mark]
  have result := Encoders.mixAudioInstant_result small l audioPts holds mixable
    mobile
  rw [total, same] at result
  cases rest
  exact result

theorem videoOutput_result {e : Encoders σ} (small : e.SmallPackets)
    {m m' : MixCoder V A (σ × Except Abort FLVSegmentOutput)}
    {videoPts : UInt32} {out : Output}
    (holds : FLVSegmentOutput.Holds m.output.2 false)
    (taken : m.videoOutput e.backend videoPts = (m', out)) :
    (out.resultFlvPacket.isSome = true ↔
        (∃ i, videoValid (m.nextVideoData videoPts i) = true) ∧
          e.hasVideoPacket m.output.1 (m.nextVideoMix videoPts) = true) ∧
      FLVSegmentOutput.Holds m'.output.2 false := by
  have shown := VideoLoop.finished videoPts
    { stream := m.streams.stream, rawVideoData := m.rawVideoData }
  have total := VideoLoop.total videoPts
    { stream := m.streams.stream, rawVideoData := m.rawVideoData }
  unfold videoOutput at taken
  generalize Streams.slots.foldl (VideoLoop.turn videoPts) _ = l
    at taken shown total
  have same : l.rawVideoData = m.nextVideoData videoPts := by
    funext i
    rw [(shown i).shown, (shown i).taken]
    rfl
  have result := Encoders.mixVideoInstant_result small l videoPts holds
  rw [total, same, gt_iff_lt, Nat.zero_add, List.countP_pos_iff] at result
  rcases mixed : mixVideoInstant e.backend m.output l videoPts with
    ⟨b, mixes, resultFlvPacket⟩
  rw [mixed] at result
  simp only [mixed] at taken
  cases taken
  refine ⟨?_, result.2⟩
  simpa [nextVideoMix, Streams.mem_slots] using result.1

/-- What a `getOutput` call is to leave nothing mixable behind for: an audio
instant takes the last frame of a started queue or has a packet, a video
instant has a valid picture and a packet. -/
def Delivers (e : Encoders σ)
    (m : MixCoder V A (σ × Except Abort FLVSegmentOutput)) : Prop :=
  match m.streams.nextInstant with
  | .error _ => True
  | .ok (.none, _) => True
  | .ok (.audio _, _) =>
      (∃ i, (m.streams.stream i).audioStarted = true ∧
        (m.streams.stream i).audioQueue.length = 1) ∨
      e.hasAudioPacket m.output.1 m.nextAudioMixes = true
  | .ok (.video videoPts, _) =>
      (∃ i, videoValid (m.nextVideoData videoPts i) = true) ∧
        e.hasVideoPacket m.output.1 (m.nextVideoMix videoPts) = true

/-- A null output leaves no audio instant behind. -/
def NullMeansDrained (backend : Backend β) (m : MixCoder V A β) : Prop :=
  ∀ m' out, m.getOutput backend = .ok (m', out) →
    out.resultFlvPacket = none → m'.streams.isNextAudioStreamReady = none

/-- After an audio instant there is another one exactly when no started queue
had just one frame. -/
theorem audioReady_after {m m' : MixCoder V A β} {out : Output}
    (took : AudioTaken m m' out) (ready : m.streams.AudioReady) :
    m'.streams.isNextAudioStreamReady = none ↔
      ∃ i, (m.streams.stream i).audioStarted = true ∧
        (m.streams.stream i).audioQueue.length = 1 := by
  have status : ∀ i, (m'.streams.stream i).audioStarted =
      (m.streams.stream i).audioStarted := by
    intro i
    cases started : (m.streams.stream i).audioStarted with
    | true =>
        rcases took.started started with ⟨a, rest, _, _, left, _⟩
        rw [left]
        exact started
    | false => rw [(took.notStarted started).2.1, started]
  rw [← Option.not_isSome_iff_eq_none, Streams.isNextAudioStreamReady_isSome]
  constructor
  · intro notReady
    by_contra longer
    apply notReady
    rcases ready with ⟨⟨i, started⟩, supplied⟩
    refine ⟨⟨i, (status i).trans started⟩, ?_⟩
    intro j startedAfter empty
    have started := (status j).symm.trans startedAfter
    rcases took.started started with ⟨a, rest, queued, _, left, _⟩
    rw [left] at empty
    have isEmpty : rest = [] := empty
    exact longer ⟨j, started, by rw [queued, isEmpty]; rfl⟩
  · rintro ⟨i, started, single⟩ ⟨_, supplied⟩
    rcases took.started started with ⟨a, rest, queued, _, left, _⟩
    rw [queued, List.length_cons] at single
    have isEmpty : rest = [] := List.eq_nil_of_length_eq_zero (by omega)
    apply supplied i ((status i).trans started)
    rw [left]
    exact isEmpty

/-- A video instant leaves the audio queues alone. -/
theorem audioReady_kept {backend : Backend β} {m m' : MixCoder V A β}
    {videoPts : UInt32} {out : Output}
    (taken : m.videoOutput backend videoPts = (m', out)) :
    m'.streams.AudioReady ↔ m.streams.AudioReady := by
  have same := (videoOutput_taken taken).audio
  simp only [Streams.AudioReady, same]

theorem isNextAudioStreamReady_of_none {p p' : Streams V A}
    (decided : p.nextInstant = .ok (.none, p')) :
    p'.isNextAudioStreamReady = none := by
  have sameStream := Streams.nextInstant_stream decided
  have idle : p.isNextAudioStreamReady = none := by
    cases ready : p.isNextAudioStreamReady with
    | none => rfl
    | some audioPts =>
        simp only [Streams.nextInstant, ready] at decided
        rcases bind_ok.mp decided with ⟨⟨video, asked⟩, _, rest⟩
        cases video with
        | none => cases rest
        | some videoPts =>
            have chosen := congrArg Prod.fst (Except.ok.inj rest)
            simp only at chosen
            split at chosen <;> cases chosen
  rw [← Option.not_isSome_iff_eq_none,
    Streams.isNextAudioStreamReady_isSome] at idle ⊢
  simpa only [Streams.AudioReady, sameStream] using idle

theorem nextAudioMixes_setStreams {m : MixCoder V A β} {streams : Streams V A}
    (same : streams.stream = m.streams.stream) :
    (m.setStreams streams).nextAudioMixes = m.nextAudioMixes := by
  have data : (m.setStreams streams).nextAudioData = m.nextAudioData := by
    funext i
    simp only [nextAudioData, setStreams_streams, same]
    rfl
  rw [nextAudioMixes, nextAudioMixes, data]

theorem nextVideoData_setStreams {m : MixCoder V A β} {streams : Streams V A}
    (same : streams.stream = m.streams.stream) (videoPts : UInt32) :
    (m.setStreams streams).nextVideoData videoPts =
      m.nextVideoData videoPts := by
  funext i
  simp only [nextVideoData, setStreams_streams, same]
  rfl

variable {e : Encoders σ}
  {m : MixCoder V A (σ × Except Abort FLVSegmentOutput)}

theorem nextInstant_audioReady {m : MixCoder V A β} {instant : Instant}
    {streams : Streams V A}
    (decided : m.streams.nextInstant = .ok (instant, streams))
    (some : instant ≠ .none) : (m.setStreams streams).streams.AudioReady := by
  rcases Streams.nextInstant_ok decided with ⟨same, asked⟩
  rcases asked some with ⟨audioPts, ready⟩
  have before : m.streams.AudioReady := by
    rw [← Streams.isNextAudioStreamReady_isSome, ready]
    rfl
  have sameStream := Streams.nextInstant_stream decided
  rw [setStreams_streams]
  simpa only [Streams.AudioReady, sameStream] using before

/-- Between two calls no stream has bytes to send. -/
theorem holds_getOutput (small : e.SmallPackets)
    (holds : FLVSegmentOutput.Holds m.output.2 false)
    {m' : MixCoder V A (σ × Except Abort FLVSegmentOutput)} {out : Output}
    (taken : m.getOutput e.backend = .ok (m', out)) :
    FLVSegmentOutput.Holds m'.output.2 false := by
  rcases getOutput_ok taken with ⟨instant, streams, decided, carriedOut⟩
  cases instant with
  | none =>
      rw [carriedOut.1]
      exact holds
  | audio audioPts =>
      have ready := nextInstant_audioReady decided (by simp)
      exact (audioOutput_result (m := m.setStreams streams) small holds ready
        carriedOut).2
  | video videoPts =>
      exact (videoOutput_result (m := m.setStreams streams) small holds
        carriedOut).2

theorem nullMeansDrained_of_ok {backend : Backend β} {m m' : MixCoder V A β}
    {out : Output} (taken : m.getOutput backend = .ok (m', out)) :
    m.NullMeansDrained backend ↔
      (out.resultFlvPacket = none →
        m'.streams.isNextAudioStreamReady = none) := by
  constructor
  · intro drained
    exact drained m' out taken
  · intro drained other otherOut takenToo
    cases taken.symm.trans takenToo
    exact drained

/-- One call: a null output leaves no audio instant behind exactly when the
call delivers. -/
theorem nullMeansDrained_iff (small : e.SmallPackets)
    (holds : FLVSegmentOutput.Holds m.output.2 false) :
    m.NullMeansDrained e.backend ↔ m.Delivers e := by
  rw [Delivers]
  cases decided : m.streams.nextInstant with
  | error stopped =>
      refine iff_of_true ?_ trivial
      intro m' out taken
      rcases getOutput_ok taken with ⟨_, _, decidedToo, _⟩
      rw [decided] at decidedToo
      cases decidedToo
  | ok next =>
      rcases next with ⟨instant, streams⟩
      have same := Streams.nextInstant_stream decided
      cases instant with
      | none =>
          have taken : m.getOutput e.backend = .ok (m.setStreams streams, {}) := by
            rw [getOutput, decided]
            rfl
          rw [nullMeansDrained_of_ok taken]
          exact iff_of_true
            (fun _ => isNextAudioStreamReady_of_none decided) trivial
      | audio audioPts =>
          have ready := nextInstant_audioReady decided (by simp)
          rcases audioOutput_of_decided e.backend decided with
            ⟨⟨m', out⟩, carriedOut⟩
          have taken : m.getOutput e.backend = .ok (m', out) := by
            rw [getOutput, decided]
            exact carriedOut
          have packet := (audioOutput_result (m := m.setStreams streams) small
            holds ready carriedOut).1
          have left := audioReady_after (audioOutput_ok carriedOut).1 ready
          rw [nextAudioMixes_setStreams same] at packet
          rw [setStreams_streams, same] at left
          rw [nullMeansDrained_of_ok taken, left,
            ← Option.not_isSome_iff_eq_none, packet, imp_iff_not_or, not_not,
            or_comm]
          exact Iff.rfl
      | video videoPts =>
          rcases carriedOut : (m.setStreams streams).videoOutput e.backend
            videoPts with ⟨m', out⟩
          have taken : m.getOutput e.backend = .ok (m', out) := by
            rw [getOutput, decided, ← carriedOut]
            rfl
          have ready := nextInstant_audioReady decided (by simp)
          have packet := (videoOutput_result (m := m.setStreams streams) small
            holds carriedOut).1
          have still := (audioReady_kept carriedOut).mpr ready
          rw [← Streams.isNextAudioStreamReady_isSome] at still
          have notNone : m'.streams.isNextAudioStreamReady ≠ none := by
            rw [← Option.isSome_iff_ne_none]
            exact still
          have mixes : (m.setStreams streams).nextVideoMix videoPts =
              m.nextVideoMix videoPts := by
            rw [nextVideoMix, nextVideoMix, nextVideoData_setStreams same]
          rw [nextVideoData_setStreams same, mixes] at packet
          rw [nullMeansDrained_of_ok taken]
          refine Iff.trans ?_ packet
          rw [← Option.not_isSome_iff_eq_none]
          constructor
          · intro drained
            by_contra isNull
            exact notNone (drained isNull)
          · intro isSome isNull
            exact absurd isSome isNull

end MixCoder

/-! ## Over a run -/

namespace Session

variable (codecs : Codecs V A) {e : Encoders σ}

/-- Every reachable state has a writer with nothing left to send. -/
theorem holds_step (small : e.SmallPackets)
    {session session' : Session V A (σ × Except Abort FLVSegmentOutput)}
    {call : MixCall}
    (holds : FLVSegmentOutput.Holds session.mixCoder.output.2 false)
    (stepped : session.step codecs e.backend call = .ok session') :
    FLVSegmentOutput.Holds session'.mixCoder.output.2 false := by
  cases call with
  | newInput inputBuf =>
      rcases bind_ok.mp stepped with ⟨mixCoder, fed, rest⟩
      rcases bind_ok.mp fed with ⟨flvSegParser, _, same⟩
      cases same
      cases rest
      exact holds
  | getOutput =>
      rcases bind_ok.mp stepped with ⟨⟨mixCoder, out⟩, taken, rest⟩
      cases rest
      exact MixCoder.holds_getOutput small holds taken

/-- A session with encoders in state `s` and a fresh writer. -/
def startEncoders (streamSource : Slot → StreamSource) (s : σ) (acid : UInt8) :
    Session V A (σ × Except Abort FLVSegmentOutput) :=
  start streamSource (s, .ok (FLVSegmentOutput.start acid))

/-- A drain loop that ends leaves no audio instant behind. -/
theorem drained (small : e.SmallPackets) (turns : Nat) :
    ∀ {session : Session V A (σ × Except Abort FLVSegmentOutput)}
      {m : MixCoder V A (σ × Except Abort FLVSegmentOutput)},
      FLVSegmentOutput.Holds session.mixCoder.output.2 false →
      EveryStep (step codecs e.backend)
        (fun session call => call = .getOutput → session.mixCoder.Delivers e)
        session (List.replicate turns .getOutput) →
      session.mixCoder.drain e.backend turns = .ok (m, true) →
      m.streams.isNextAudioStreamReady = none := by
  induction turns with
  | zero =>
      intro session m _ _ ended
      cases ended
  | succ turns inductionHypothesis =>
      intro session m holds delivers ended
      rcases bind_ok.mp ended with ⟨⟨next, out⟩, taken, rest⟩
      rcases delivers with ⟨delivers, later⟩
      cases result : out.resultFlvPacket with
      | some packet =>
          simp only [result] at rest
          have stepped : session.step codecs e.backend .getOutput = .ok
              { mixCoder := next, outputs := session.outputs ++ [out] } :=
            bind_ok.mpr ⟨_, taken, rfl⟩
          exact inductionHypothesis (holds_step codecs small holds stepped)
            (later _ stepped) rest
      | none =>
          simp only [result] at rest
          cases rest
          exact (MixCoder.nullMeansDrained_iff small holds).mpr (delivers rfl)
            m out taken result

/-- In every run a null output leaves no audio instant behind exactly when
every `getOutput` call delivers.  Then a drain loop that ends leaves none
behind either. -/
theorem drain_complete_iff (small : e.SmallPackets)
    (streamSource : Slot → StreamSource) (s : σ) (acid : UInt8)
    (calls : List MixCall) :
    (EveryStep (step codecs e.backend)
        (fun session call => call = .getOutput →
          session.mixCoder.NullMeansDrained e.backend)
        (startEncoders streamSource s acid) calls ↔
      EveryStep (step codecs e.backend)
        (fun session call => call = .getOutput →
          session.mixCoder.Delivers e)
        (startEncoders streamSource s acid) calls) ∧
      ∀ (turns : Nat)
        (session : Session V A (σ × Except Abort FLVSegmentOutput))
        (m : MixCoder V A (σ × Except Abort FLVSegmentOutput)),
        EveryStep (step codecs e.backend)
          (fun session call => call = .getOutput →
            session.mixCoder.Delivers e)
          (startEncoders streamSource s acid)
          (calls ++ List.replicate turns .getOutput) →
        run (step codecs e.backend) (startEncoders streamSource s acid) calls =
          .ok session →
        session.mixCoder.drain e.backend turns = .ok (m, true) →
        m.streams.isNextAudioStreamReady = none := by
  have fresh : FLVSegmentOutput.Holds
      (startEncoders (V := V) (A := A) streamSource s acid).mixCoder.output.2
      false := FLVSegmentOutput.start_holds acid
  constructor
  · apply everyStep_congr (fun session =>
      FLVSegmentOutput.Holds session.mixCoder.output.2 false)
    · intro session call holds
      exact imp_congr_right fun _ => MixCoder.nullMeansDrained_iff small holds
    · intro session call next holds _ stepped
      exact holds_step codecs small holds stepped
    · exact fresh
  · intro turns session m delivers reached ended
    have holds : FLVSegmentOutput.Holds session.mixCoder.output.2 false :=
      run_invariant
        (fun session : Session V A (σ × Except Abort FLVSegmentOutput) =>
          FLVSegmentOutput.Holds session.mixCoder.output.2 false)
        (fun _ _ _ holds stepped => holds_step codecs small holds stepped)
        fresh reached
    exact drained codecs small turns holds (delivers.of_append reached) ended

/-- An encoder that keeps the first sound it gets. -/
def delayingEncoder : Encoders Bool where
  mixVideo s _ := (s, [], fun _ => ⟨0, 0, 0, 0⟩)
  encodeVideo s _ := (s, none, false)
  mixAudio s _ := (s, [])
  encodeAudio s _ _ := (true, if s then some [1] else none)

theorem delayingEncoder_small : delayingEncoder.SmallPackets := by
  constructor
  · intro s raw packet nothing
    cases nothing
  · intro s mixer raw packet encoded
    cases s with
    | false => cases encoded
    | true =>
        cases encoded
        decide

def startDelaying : Session Unit Unit (Bool × Except Abort FLVSegmentOutput) :=
  startEncoders (fun _ => .kDesktopStreamSource) false kMP3

def twoSounds : List MixCall :=
  [.newInput (audioSample 0), .newInput (audioSample 26)]

theorem drain_complete_oneSound :
    (EveryStep (step Codecs.echo delayingEncoder.backend)
        (fun session call => call = .getOutput →
          session.mixCoder.NullMeansDrained delayingEncoder.backend)
        startDelaying [.newInput (audioSample 0), .getOutput] ↔
      EveryStep (step Codecs.echo delayingEncoder.backend)
        (fun session call => call = .getOutput →
          session.mixCoder.Delivers delayingEncoder)
        startDelaying [.newInput (audioSample 0), .getOutput]) :=
  (drain_complete_iff Codecs.echo delayingEncoder_small
    (fun _ => .kDesktopStreamSource) false kMP3
    [.newInput (audioSample 0), .getOutput]).1

/-- The call returns nothing for the sound at 0 ms, and the one at 26 ms is
ready. -/
theorem drain_incomplete_twoSounds :
    delayingEncoder.SmallPackets ∧
      ¬ EveryStep (step Codecs.echo delayingEncoder.backend)
        (fun session call => call = .getOutput →
          session.mixCoder.NullMeansDrained delayingEncoder.backend)
        startDelaying (twoSounds ++ [.getOutput]) := by
  refine ⟨delayingEncoder_small, ?_⟩
  intro holds
  have whole : (run (step Codecs.echo delayingEncoder.backend) startDelaying
      twoSounds).bind (fun session =>
        (session.mixCoder.getOutput delayingEncoder.backend).map fun taken =>
          (taken.2.resultFlvPacket.isNone,
            taken.1.streams.isNextAudioStreamReady.isSome)) =
      .ok (true, true) := by
    decide +kernel
  rcases bind_ok.mp whole with ⟨session, reached, called⟩
  rcases map_ok.mp called with ⟨⟨m', out⟩, taken, seen⟩
  rcases Prod.mk.inj seen with ⟨isNull, isReady⟩
  have drained := everyStep_iff_forall_prefix.mp holds twoSounds .getOutput []
    session rfl reached rfl m' out taken (Option.isNone_iff_eq_none.mp isNull)
  rw [drained] at isReady
  cases isReady

end Session

end GroupVoip
