import GroupVoip.Instants
import GroupVoip.ReaderCalls

/-!
# What a tag does to its slot

One description for each function between a tag and the queues: the message
that the parser makes of it, what the decoders do with the message, and what
is queued.
-/

namespace GroupVoip

open Library.Runs

variable {V A : Type}

/-! ## The message of a tag -/

/-- What the body of a tag says about the message, once it is ready. -/
structure ReadyBody (st : StreamType) (body : TagBody) : Prop where
  payload : body.accessUnit.payload ≠ none
  kinds :
    (st = .kVideoStreamType ∧ body.accessUnit.ctype = kAVCVideoPacket ∧
      (body.accessUnit.sp = .kRawData ∨ body.accessUnit.sp = .kSpsPps)) ∨
    (st = .kAudioStreamType ∧ body.accessUnit.sp ≠ .kSpsPps)

theorem readVideoData_ok {bsParser : BitStreamParser} {avcPacketType : UInt8}
    {dataSize : UInt64} {inputData : Bytes} {sp : SpecialProperty}
    (read : readVideoData bsParser avcPacketType dataSize =
      .ok (inputData, sp)) :
    inputData = [] ∨ sp = .kRawData ∨ sp = .kSpsPps := by
  unfold readVideoData at read
  split at read
  · obtain ⟨_, _, finished⟩ := bind_ok.mp read
    cases finished
    exact Or.inr (Or.inr rfl)
  · split at read
    · obtain ⟨_, _, finished⟩ := bind_ok.mp read
      cases finished
      exact Or.inr (Or.inl rfl)
    · split at read
      · cases read
        exact Or.inl rfl
      · cases read
        exact Or.inl rfl

theorem readVideoBody_ok {curSpsPps : Bytes} {bsParser : BitStreamParser}
    {dataSize : UInt64} {body : TagBody}
    (read : readVideoBody curSpsPps bsParser dataSize = .ok body) :
    body.accessUnit.st = .kVideoStreamType ∧
      (body.frameReady = true → ReadyBody .kVideoStreamType body) := by
  obtain ⟨_, codec, rest⟩ := bind_ok.mp read
  obtain ⟨_, _, rest⟩ := bind_ok.mp rest
  obtain ⟨⟨inputData, sp⟩, data, rest⟩ := bind_ok.mp rest
  cases rest
  refine ⟨rfl, ?_⟩
  intro ready
  have isAvc := of_decide_eq_true (assertThat_ok.mp codec)
  have isReady : videoReady curSpsPps inputData sp = true := ready
  constructor
  · simp [isReady]
  · rcases readVideoData_ok data with empty | property
    · simp [videoReady, empty] at isReady
    · exact Or.inl ⟨rfl, isAvc, property⟩

theorem readAudioBody_ok {curSpsPps : Bytes} {bsParser : BitStreamParser}
    {dataSize : UInt64} {body : TagBody}
    (read : readAudioBody curSpsPps bsParser dataSize = .ok body) :
    body.accessUnit.st = .kAudioStreamType ∧
      (body.frameReady = true → ReadyBody .kAudioStreamType body) ∧
      body.accessUnit.sp ≠ .kSpsPps := by
  obtain ⟨payload, _, rest⟩ := bind_ok.mp read
  have property : ∀ soundFormat : UInt32, ∀ size : UInt64,
      ∀ parser : BitStreamParser,
        (readAudioProperty parser soundFormat size).1 ≠ .kSpsPps := by
    intro soundFormat size parser
    simp only [readAudioProperty]
    split
    · split
      · simp
      · simp
    · simp
  cases rest
  refine ⟨rfl, ?_, property _ _ _⟩
  intro ready
  constructor
  · intro missing
    have missing : payload = none := missing
    rw [missing] at ready
    cases ready
  · exact Or.inr ⟨rfl, property _ _ _⟩

/-- The body of a tag keeps the type of the tag, and audio and other tags
never carry an SPS/PPS header. -/
theorem readBody_ok {curSpsPps : Bytes} {st : StreamType}
    {bsParser : BitStreamParser} {dataSize : UInt64} {body : TagBody}
    (read : readBody curSpsPps st bsParser dataSize = .ok body) :
    body.accessUnit.st = st ∧
      (body.frameReady = true → ReadyBody st body) ∧
      (body.accessUnit.sp = .kSpsPps → st = .kVideoStreamType) := by
  unfold readBody at read
  split at read
  · obtain ⟨same, ready⟩ := readVideoBody_ok read
    exact ⟨same, ready, fun _ => rfl⟩
  · obtain ⟨same, ready, notHeader⟩ := readAudioBody_ok read
    exact ⟨same, ready, fun header => absurd header notHeader⟩
  · cases read
    refine ⟨rfl, ?_, ?_⟩
    · intro ready
      cases ready
    · intro header
      cases header

theorem readTag_ok {curSpsPps : Bytes} {tag : FLVTag} {timestamp : UInt32}
    {body : TagBody}
    (read : readTag curSpsPps tag = .ok (timestamp, some body)) :
    body.accessUnit.st = tag.curStreamType ∧
      (body.frameReady = true → ReadyBody tag.curStreamType body) ∧
      (body.accessUnit.sp = .kSpsPps →
        tag.curStreamType = .kVideoStreamType) := by
  obtain ⟨⟨_, _⟩, _, rest⟩ := bind_ok.mp read
  simp only at rest
  split at rest
  · obtain ⟨_, bodyRead, finished⟩ := bind_ok.mp rest
    cases finished
    exact readBody_ok bodyRead
  · cases rest

/-- A tag leaves the clock alone, or its body is timed and delivered. -/
theorem parseNextFLVFrame_ok {clock clock' : FLVClock}
    {globalAudioTimestamp : UInt32} {tag : FLVTag}
    {message : Option AccessUnit}
    (parsed : parseNextFLVFrame clock globalAudioTimestamp tag =
      .ok (clock', message)) :
    (clock' = clock ∧ message = none) ∨
      ∃ timestamp body, readTag clock.curSpsPps tag = .ok (timestamp, some body) ∧
        clock.deliver globalAudioTimestamp timestamp body = (clock', message) := by
  obtain ⟨⟨timestamp, body⟩, read, rest⟩ := bind_ok.mp parsed
  cases body with
  | none =>
      cases rest
      exact Or.inl ⟨rfl, rfl⟩
  | some body =>
      exact Or.inr ⟨timestamp, body, read, Except.ok.inj rest⟩

theorem deliver_message {clock clock' : FLVClock}
    {globalAudioTimestamp timestamp : UInt32} {body : TagBody}
    {au : AccessUnit}
    (delivered : clock.deliver globalAudioTimestamp timestamp body =
      (clock', some au)) :
    body.frameReady = true ∧ au = { body.accessUnit with pts := au.pts } := by
  simp only [FLVClock.deliver, Prod.mk.injEq] at delivered
  obtain ⟨_, message⟩ := delivered
  split at message
  · rename_i ready
    cases message
    exact ⟨ready, rfl⟩
  · cases message

/-! ## The video decoder -/

/-- The time of the first picture since the last SPS/PPS header, as far as the
decoder has come. -/
def VideoDecoder.mark (d : VideoDecoder V) : Option UInt32 :=
  if d.bHasFirstFrameStarted then some d.firstFramePts else none

/-- A header takes the mark away, and the first picture sets it. -/
def markAfter (mark : Option UInt32) (v : VideoRawData) : Option UInt32 :=
  if v.sp = .kSpsPps then none else mark.or (some v.pts)

def VideoRawData.hasPlanes (v : VideoRawData) : Prop :=
  ∀ plane, v.rawVideoPlanes plane ≠ none

namespace VideoDecoder

theorem hasFirstFrameDecoded_iff {d : VideoDecoder V} {pts : UInt32} :
    d.hasFirstFrameDecoded pts = true ↔ ∃ first, d.mark = some first ∧ first ≤ pts := by
  cases started : d.bHasFirstFrameStarted <;>
    simp [hasFirstFrameDecoded, mark, started]

theorem finish_ok {d d' : VideoDecoder V} {au : AccessUnit}
    {v v' : VideoRawData} {frame : AVFrame}
    (finished : d.finish au v frame = .ok (d', v')) :
    v'.sp = v.sp ∧ v'.pts = v.pts ∧ v'.hasPlanes ∧
      d'.mark = d.mark.or (some au.pts) := by
  obtain ⟨_, _, rest⟩ := bind_ok.mp finished
  obtain ⟨_, _, rest⟩ := bind_ok.mp rest
  cases rest
  refine ⟨rfl, rfl, ?_, ?_⟩
  · intro plane
    simp
  · cases started : d.bHasFirstFrameStarted <;> simp [mark, started]

/-- A picture comes out with planes and may set the mark; otherwise nothing
that matters changes. -/
theorem decode_ok {codecs : Codecs V A} {d d' : VideoDecoder V}
    {au : AccessUnit} {v v' : VideoRawData} {valid : Bool}
    (decoded : d.decode codecs au v = .ok (valid, d', v')) :
    v'.sp = v.sp ∧ v'.pts = v.pts ∧
      ((valid = true ∧ v'.hasPlanes ∧ d'.mark = d.mark.or (some au.pts)) ∨
        (valid = false ∧ d'.mark = d.mark)) := by
  obtain ⟨_, _, rest⟩ := bind_ok.mp decoded
  split at rest
  · cases rest
    exact ⟨rfl, rfl, Or.inr ⟨rfl, rfl⟩⟩
  · split at rest
    · simp only at rest
      split at rest
      · cases rest
        exact ⟨rfl, rfl, Or.inr ⟨rfl, rfl⟩⟩
      · obtain ⟨⟨d'', v''⟩, finished, last⟩ := bind_ok.mp rest
        cases last
        obtain ⟨sp, pts, planes, marked⟩ := finish_ok finished
        exact ⟨sp, pts, Or.inl ⟨rfl, planes, marked⟩⟩
    · cases rest

theorem newAccessUnit_ok {codecs : Codecs V A} {d d' : VideoDecoder V}
    {au : AccessUnit} {v : VideoRawData} {valid : Bool}
    (decoded : d.newAccessUnit codecs au {} = .ok (valid, d', v)) :
    v.sp = au.sp ∧ v.pts = au.pts ∧
      ((valid || v.sp = .kSpsPps) = true ∧
          (v.sp ≠ .kSpsPps → v.hasPlanes) ∧
          d'.mark = markAfter d.mark v ∨
        (valid || v.sp = .kSpsPps) = false ∧ d'.mark = d.mark) := by
  obtain ⟨_, _, rest⟩ := bind_ok.mp decoded
  obtain ⟨_, _, rest⟩ := bind_ok.mp rest
  simp only at rest
  split at rest
  · rename_i header
    obtain ⟨⟨d'', v''⟩, started, last⟩ := bind_ok.mp rest
    cases last
    unfold start at started
    split at started
    · cases started
    · cases started
      refine ⟨rfl, rfl, Or.inl ⟨?_, ?_, ?_⟩⟩
      · simp [header]
      · intro notHeader
        exact absurd header notHeader
      · simp [mark, markAfter, header]
  · rename_i raw
    obtain ⟨sp, pts, outcome⟩ := decode_ok rest
    have spRaw : v.sp = .kRawData := by rw [sp, raw]
    refine ⟨sp, pts, ?_⟩
    rcases outcome with ⟨isValid, planes, marked⟩ | ⟨notValid, same⟩
    · refine Or.inl ⟨by simp [isValid], fun _ => planes, ?_⟩
      rw [marked, markAfter, spRaw, pts]
      simp
    · exact Or.inr ⟨by simp [notValid, spRaw], same⟩
  · rename_i notHeader notRaw
    cases rest
    refine ⟨rfl, rfl, Or.inr ⟨?_, rfl⟩⟩
    simpa using notHeader

/-- Whether a picture comes out does not depend on the time of the message. -/
theorem finish_stops (d : VideoDecoder V) (au : AccessUnit)
    (v v' : VideoRawData) (frame : AVFrame) (pts : UInt32) :
    (d.finish { au with pts := pts } v' frame).map (fun _ => true) =
      (d.finish au v frame).map fun _ => true := by
  simp only [finish]
  cases assertThat (d.inWidth = frame.width) .frameWidthMatches with
  | error stopped => rfl
  | ok _ =>
      cases assertThat (d.inHeight = frame.height) .frameHeightMatches with
      | error stopped => rfl
      | ok _ => rfl

theorem pictured_fst {x y : Except Abort (VideoDecoder V × VideoRawData)}
    (same : x.map (fun _ => true) = y.map fun _ => true) :
    (x.bind fun r => Except.ok (true, r.1, r.2)).map Prod.fst =
      (y.bind fun r => Except.ok (true, r.1, r.2)).map Prod.fst := by
  cases x <;> cases y <;> cases same <;> rfl

theorem decode_fst (codecs : Codecs V A) (d : VideoDecoder V)
    (au : AccessUnit) (v v' : VideoRawData) (pts : UInt32) :
    (d.decode codecs { au with pts := pts } v').map Prod.fst =
      (d.decode codecs au v).map Prod.fst := by
  simp only [decode]
  cases assertThat (d.inWidth ≠ 0 && d.inHeight ≠ 0) .decoderSizeKnown with
  | error stopped => rfl
  | ok _ =>
      rcases d.spspps with _ | spspps
      · rfl
      · rcases au.payload with _ | payload
        · rfl
        · rcases d.codecCtx with _ | codecCtx
          · rfl
          · simp only [bind, Except.bind]
            split
            · rename_i noPicture
              rw [noPicture]
              rfl
            · rename_i frame gotPicture
              rw [gotPicture]
              exact pictured_fst (finish_stops _ au v v' frame pts)

theorem newAccessUnit_fst (codecs : Codecs V A) (d : VideoDecoder V)
    (au : AccessUnit) (pts : UInt32) :
    (d.newAccessUnit codecs { au with pts := pts } {}).map Prod.fst =
      (d.newAccessUnit codecs au {}).map Prod.fst := by
  simp only [newAccessUnit]
  cases assertThat (au.st = .kVideoStreamType) .videoAccessUnit with
  | error stopped => rfl
  | ok _ =>
      cases assertThat (au.ctype = kAVCVideoPacket) .avcAccessUnit with
      | error stopped => rfl
      | ok _ =>
          simp only [bind, Except.bind]
          split
          · simp only [start]
            cases au.payload <;> rfl
          · exact decode_fst codecs d au _ _ pts
          · rfl

end VideoDecoder

/-! ## The drain loop -/

/-- The frames of one audio message, stamped one after the other. -/
def stampFrames (origPts : UInt32) (m : AudioTimestampMapper) :
    List (Bytes × Bool) → List AudioRawData × AudioTimestampMapper
  | [] => ([], m)
  | frame :: rest =>
      let (pts, next) := m.getNextTimestamp origPts
      let (others, last) := stampFrames origPts next rest
      ({ rawAudioFrame := frame.1, bIsStereo := frame.2, pts := pts } :: others,
        last)

/-- The drain loop queues the stamped frames, and the last stamp becomes the
global audio timestamp. -/
theorem foldl_pushAudio (origPts : UInt32) (frames : List (Bytes × Bool)) :
    ∀ (s : Stream V A) (globalAudioTimestamp : UInt32),
      frames.foldl (Stream.pushAudio origPts) (s, globalAudioTimestamp) =
        ({ s with
            audioTsMapper := (stampFrames origPts s.audioTsMapper frames).2
            audioQueue := s.audioQueue ++
              (stampFrames origPts s.audioTsMapper frames).1 },
          (((stampFrames origPts s.audioTsMapper frames).1.getLast?).map
            AudioRawData.pts).getD globalAudioTimestamp) := by
  induction frames with
  | nil =>
      intro s globalAudioTimestamp
      simp [stampFrames]
  | cons frame rest inductionHypothesis =>
      intro s globalAudioTimestamp
      rw [List.foldl_cons]
      simp only [Stream.pushAudio]
      rw [inductionHypothesis]
      simp only [stampFrames, List.append_assoc, List.singleton_append]
      congr 1
      rw [List.getLast?_cons]
      cases (stampFrames origPts _ rest).1.getLast? <;> rfl

/-! ## The effects of a tag on its slot -/

/-- All that a tag can do to its slot and to the global audio timestamp. -/
inductive TagEffect (codecs : Codecs V A) (s : Stream V A)
    (globalAudioTimestamp : UInt32) (tag : FLVTag) :
    Stream V A → UInt32 → Prop
  | silent (clock : FLVClock)
      (parsed : parseNextFLVFrame s.clock globalAudioTimestamp tag =
        .ok (clock, none)) :
      TagEffect codecs s globalAudioTimestamp tag
        { s with clock := clock } globalAudioTimestamp
  | undecoded (clock : FLVClock) (au : AccessUnit) (decoder : VideoDecoder V)
      (v : VideoRawData)
      (parsed : parseNextFLVFrame s.clock globalAudioTimestamp tag =
        .ok (clock, some au))
      (isVideo : au.st = .kVideoStreamType)
      (decoded : s.videoDecoder.newAccessUnit codecs au {} =
        .ok (false, decoder, v))
      (sp : v.sp = au.sp) (notHeader : v.sp ≠ .kSpsPps)
      (sameMark : decoder.mark = s.videoDecoder.mark) :
      TagEffect codecs s globalAudioTimestamp tag
        { s with clock := clock, videoDecoder := decoder } globalAudioTimestamp
  | video (clock : FLVClock) (au : AccessUnit) (decoder : VideoDecoder V)
      (v : VideoRawData) (valid : Bool)
      (parsed : parseNextFLVFrame s.clock globalAudioTimestamp tag =
        .ok (clock, some au))
      (isVideo : au.st = .kVideoStreamType)
      (decoded : s.videoDecoder.newAccessUnit codecs au {} =
        .ok (valid, decoder, v))
      (ready : valid = true ∨ v.sp = .kSpsPps)
      (sp : v.sp = au.sp) (pts : v.pts = au.pts)
      (planes : v.sp ≠ .kSpsPps → v.hasPlanes)
      (marked : decoder.mark = markAfter s.videoDecoder.mark v) :
      TagEffect codecs s globalAudioTimestamp tag
        { s with
          clock := clock
          videoDecoder := decoder
          videoQueue := s.videoQueue ++ [v]
          videoStreamStatus := .kStreamOnlineStarted }
        globalAudioTimestamp
  | audio (clock : FLVClock) (au : AccessUnit) (decoder : AudioDecoder A)
      (frames : List (Bytes × Bool))
      (parsed : parseNextFLVFrame s.clock globalAudioTimestamp tag =
        .ok (clock, some au))
      (isAudio : au.st = .kAudioStreamType)
      (decoded : (AudioDecoderFactory.decoderFor codecs au
        s.audioDecoder).newAccessUnit codecs au = .ok (decoder, frames)) :
      TagEffect codecs s globalAudioTimestamp tag
        { s with
          clock := clock
          audioDecoder := some decoder
          audioTsMapper := (stampFrames au.pts s.audioTsMapper frames).2
          audioQueue := s.audioQueue ++
            (stampFrames au.pts s.audioTsMapper frames).1
          audioStreamStatus := .kStreamOnlineStarted }
        (((stampFrames au.pts s.audioTsMapper frames).1.getLast?.map
          AudioRawData.pts).getD globalAudioTimestamp)

theorem Stream.onTag_ok {codecs : Codecs V A} {s s' : Stream V A}
    {globalAudioTimestamp globalAudioTimestamp' : UInt32} {tag : FLVTag}
    (done : s.onTag codecs globalAudioTimestamp tag =
      .ok (s', globalAudioTimestamp')) :
    TagEffect codecs s globalAudioTimestamp tag s' globalAudioTimestamp' := by
  obtain ⟨⟨clock, message⟩, parsed, rest⟩ := bind_ok.mp done
  simp only at rest
  cases message with
  | none =>
      cases rest
      exact TagEffect.silent clock parsed
  | some au =>
      simp only [onFLVFrameParsed] at rest
      split at rest
      · rename_i isVideo
        obtain ⟨s'', video, last⟩ := bind_ok.mp rest
        cases last
        obtain ⟨⟨valid, decoder, v⟩, decoded, queued⟩ := bind_ok.mp video
        obtain ⟨sp, pts, outcome⟩ := VideoDecoder.newAccessUnit_ok decoded
        simp only at queued
        rcases outcome with ⟨ready, planes, marked⟩ | ⟨notReady, same⟩
        · rw [if_pos ready] at queued
          cases queued
          exact TagEffect.video clock au decoder v valid parsed isVideo decoded
            (by simpa using ready) sp pts planes marked
        · rw [if_neg (by simp [notReady])] at queued
          cases queued
          obtain ⟨invalid, notHeader⟩ : valid = false ∧ v.sp ≠ .kSpsPps := by
            simpa using notReady
          rw [invalid] at decoded
          exact TagEffect.undecoded clock au decoder v parsed isVideo decoded
            sp notHeader same
      · rename_i isAudio
        obtain ⟨⟨decoder, frames⟩, decoded, queued⟩ := bind_ok.mp rest
        simp only [foldl_pushAudio] at queued
        cases queued
        exact TagEffect.audio clock au decoder frames parsed isAudio decoded
      · rename_i notVideo notAudio
        obtain ⟨_, nothing⟩ | ⟨timestamp, body, read, delivered⟩ :=
          parseNextFLVFrame_ok parsed
        · cases nothing
        · obtain ⟨ready, same⟩ := deliver_message delivered
          obtain ⟨st, kinds, _⟩ := readTag_ok read
          have streamType : au.st = tag.curStreamType := by rw [same, st]
          rcases (kinds ready).kinds with ⟨isVideo, _⟩ | ⟨isAudio, _⟩
          · exact absurd (streamType.trans isVideo) notVideo
          · exact absurd (streamType.trans isAudio) notAudio

end GroupVoip
