import GroupVoip.FLVOutput
import GroupVoip.FLVSegmentParser

/-!
# MixCoder

The loop around the parser: `newInput` passes bytes on, and `getOutput` takes
the frames of the next audio or video instant, mixes the valid ones and
returns the encoded packets.  Mixers, encoders and the output writer are a
parameter; which frames they get is the program's.
-/

namespace GroupVoip

open Library.Runs

variable {V A β : Type}

/-- The arguments of an `AudioMixer::mixStreams` call on mixer `mixer`. -/
structure AudioMix where
  mixer : Nat
  rawData : Slot → Option AudioRawData
  totalStreams : Nat
  excludeStreamId : UInt32

/-- The arguments of a `VideoMixer::mixStreams` call. -/
structure VideoMix where
  rawData : Slot → Option VideoRawData
  totalStreams : Nat

/-- Mixers, encoders and `FLVSegmentOutput`, with their state in `β`. -/
structure Backend (β : Type) where
  mixVideo : β → VideoMix → β × Bytes × (Slot → VideoRect)
  encodeVideo : β → Bytes → β × Option Bytes × Bool
  packageVideo : β → Bytes → UInt32 → Bool → Nat → Option VideoRect → β
  mixAudio : β → AudioMix → β × Bytes
  encodeAudio : β → Nat → Bytes → β × Option Bytes
  packageAudio : β → Bytes → UInt32 → Nat → β
  getOneFrameForAllStreams : β → β × Option Bytes

/-- A backend without output, to run the model with. -/
def Backend.silent : Backend Unit where
  mixVideo _ _ := ((), [], fun _ => ⟨0, 0, 0, 0⟩)
  encodeVideo _ _ := ((), none, false)
  packageVideo _ _ _ _ _ _ := ()
  mixAudio _ _ := ((), [])
  encodeAudio _ _ _ := ((), none)
  packageAudio _ _ _ _ := ()
  getOneFrameForAllStreams _ := ((), none)

structure MixCoder (V A β : Type) where
  flvSegParser : FLVSegmentParser V A
  rawVideoData : Slot → Option VideoRawData := fun _ => none
  rawAudioData : Slot → Option AudioRawData := fun _ => none
  output : β

/-- The instant that a `getOutput` call is for. -/
inductive Instant where
  | none
  | audio (audioPts : UInt32)
  | video (videoPts : UInt32)
deriving DecidableEq, Repr

/-- What one `getOutput` call did: its instant, the frames taken from the
queues, the counts at the end of its first loop, the mixer calls and the
packet it returns. -/
structure Output where
  instant : Instant := .none
  poppedVideo : Slot → List VideoRawData := fun _ => []
  poppedAudio : Slot → Option AudioRawData := fun _ => .none
  totalStreams : Nat := 0
  totalMobileStreams : Nat := 0
  videoMixes : List VideoMix := []
  audioMixes : List AudioMix := []
  resultFlvPacket : Option Bytes := .none

/-! ## Which instant is next -/

/-- Audio leads: video is asked only when audio is ready, and comes first
unless the audio time is smaller. -/
def Streams.nextInstant (p : Streams V A) :
    Except Abort (Instant × Streams V A) := do
  let audio := p.isNextAudioStreamReady
  let (video, p) ←
    match audio with
    | some audioPts => p.isNextVideoStreamReady audioPts
    | none => .ok (none, p)
  match audio, video with
  | some audioPts, some videoPts =>
      return (if audioPts < videoPts then .audio audioPts else .video videoPts, p)
  | some audioPts, none => return (.audio audioPts, p)
  | none, some _ => .error (.assertion .audioReadyWithVideo)
  | none, none => return (.none, p)

/-! ## The video branch -/

/-- The `do`-`while` loop over `getNextVideoFrame`. -/
def Stream.popVideoFrames : Nat → Stream V A → UInt32 →
    List VideoRawData × Stream V A
  | 0, s, _ => ([], s)
  | turns + 1, s, videoPts =>
      match s.getNextVideoFrame videoPts with
      | (some v, s) =>
          let (popped, s) := popVideoFrames turns s videoPts
          (v :: popped, s)
      | (none, s) => ([], s)

def VideoRawData.mark (v : VideoRawData) (ss : StreamSource)
    (bIsValid : Bool) : VideoRawData :=
  { v with rawVideoSettings :=
      { v.rawVideoSettings with ss := ss, bIsValid := bIsValid } }

structure VideoLoop (V A : Type) where
  stream : Slot → Stream V A
  rawVideoData : Slot → Option VideoRawData
  totalStreams : Nat := 0
  totalMobileStreams : Nat := 0
  popped : Slot → List VideoRawData := fun _ => []

/-- One slot's turn: what it pops, its stream and its cached frame
afterwards. -/
def Stream.showVideo (s : Stream V A) (cached : Option VideoRawData)
    (videoPts : UInt32) :
    List VideoRawData × Stream V A × Option VideoRawData :=
  let bIsStreamStarted := s.isStreamOnlineStarted .kVideoStreamType
  let (popped, s) :=
    if bIsStreamStarted then
      s.popVideoFrames (s.videoQueue.length + 1) videoPts
    else ([], s)
  let bIsValidFrame :=
    bIsStreamStarted && s.videoDecoder.hasFirstFrameDecoded videoPts
  (popped, s, (popped.getLast?.or cached).map fun v =>
    v.mark s.streamSource (bIsStreamStarted && bIsValidFrame))

def videoValid (cached : Option VideoRawData) : Bool :=
  cached.any fun v => v.rawVideoSettings.bIsValid

theorem videoValid_iff {cached : Option VideoRawData} :
    videoValid cached = true ↔
      ∃ v, cached = some v ∧ v.rawVideoSettings.bIsValid = true :=
  Option.any_eq_true _ _

def videoMobile (cached : Option VideoRawData) : Bool :=
  cached.any fun v =>
    v.rawVideoSettings.bIsValid &&
      v.rawVideoSettings.ss = .kMobileStreamSource

def VideoLoop.turn (videoPts : UInt32) (l : VideoLoop V A) (i : Slot) :
    VideoLoop V A :=
  let (popped, s, cached) := (l.stream i).showVideo (l.rawVideoData i) videoPts
  { stream := Function.update l.stream i s
    rawVideoData := Function.update l.rawVideoData i cached
    totalStreams :=
      if videoValid cached then l.totalStreams + 1 else l.totalStreams
    totalMobileStreams :=
      if videoMobile cached then l.totalMobileStreams + 1
      else l.totalMobileStreams
    popped := Function.update l.popped i popped }

/-- Mix, encode and package the pictures of a video instant. -/
def mixVideoInstant (backend : Backend β) (b : β) (l : VideoLoop V A)
    (videoPts : UInt32) : β × List VideoMix × Option Bytes :=
  if l.totalStreams > 0 then
    let mix : VideoMix :=
      { rawData := l.rawVideoData, totalStreams := l.totalStreams }
    let (b, rawFrameMixed, videoRect) := backend.mixVideo b mix
    let (b, encodedFrame, bIsKeyFrame) := backend.encodeVideo b rawFrameMixed
    match encodedFrame with
    | none => (b, [mix], none)
    | some encodedFrame =>
        let packageMobile (b : β) (i : Slot) : β :=
          if videoMobile (l.rawVideoData i) then
            backend.packageVideo b encodedFrame videoPts bIsKeyFrame i.val
              (some (videoRect i))
          else b
        let b :=
          if l.totalMobileStreams > 0 then Streams.slots.foldl packageMobile b
          else b
        let b := backend.packageVideo b encodedFrame videoPts bIsKeyFrame
          MAX_XCODING_INSTANCES none
        let (b, resultFlvPacket) := backend.getOneFrameForAllStreams b
        (b, [mix], resultFlvPacket)
  else (b, [], none)

/-! ## The audio branch -/

def AudioRawData.mark (a : AudioRawData) (ss : StreamSource)
    (bIsValid : Bool) : AudioRawData :=
  { a with ss := ss, bIsValid := bIsValid }

structure AudioLoop (V A : Type) where
  stream : Slot → Stream V A
  rawAudioData : Slot → Option AudioRawData
  totalStreams : Nat := 0
  totalMobileStreams : Nat := 0
  popped : Slot → Option AudioRawData := fun _ => none

/-- One slot's turn.  A started stream without a frame ends in `a->pts` for a
null `a`. -/
def Stream.showAudio (s : Stream V A) (cached : Option AudioRawData) :
    Except Abort (Option AudioRawData × Stream V A × Option AudioRawData) :=
  if s.isStreamOnlineStarted .kAudioStreamType then
    match s.getNextAudioFrame with
    | (some a, s) => .ok (some a, s, some (a.mark s.streamSource true))
    | (none, _) => .error .undefinedBehaviour
  else .ok (none, s, cached.map fun a => a.mark s.streamSource false)

def audioValid (cached : Option AudioRawData) : Bool :=
  cached.any fun a => a.bIsValid

def audioMobile (cached : Option AudioRawData) : Bool :=
  cached.any fun a => a.bIsValid && a.ss = .kMobileStreamSource

def AudioLoop.turn (l : AudioLoop V A) (i : Slot) :
    Except Abort (AudioLoop V A) := do
  let (popped, s, cached) ← (l.stream i).showAudio (l.rawAudioData i)
  return {
    stream := Function.update l.stream i s
    rawAudioData := Function.update l.rawAudioData i cached
    totalStreams :=
      if audioValid cached then l.totalStreams + 1 else l.totalStreams
    totalMobileStreams :=
      if audioMobile cached then l.totalMobileStreams + 1
      else l.totalMobileStreams
    popped := Function.update l.popped i popped }

/-- Mix, encode and package one audio stream. -/
def mixAudioStream (backend : Backend β) (l : AudioLoop V A)
    (audioPts : UInt32) (state : β × List AudioMix) (mixer : Nat)
    (excludeStreamId : UInt32) : β × List AudioMix :=
  let mix : AudioMix :=
    { mixer := mixer, rawData := l.rawAudioData
      totalStreams := l.totalStreams, excludeStreamId := excludeStreamId }
  let (b, rawFrameMixed) := backend.mixAudio state.1 mix
  let (b, encodedFrame) := backend.encodeAudio b mixer rawFrameMixed
  match encodedFrame with
  | none => (b, state.2 ++ [mix])
  | some encodedFrame =>
      (backend.packageAudio b encodedFrame audioPts mixer, state.2 ++ [mix])

/-- A mobile stream gets a mix of its own, without itself. -/
def mixMobile (backend : Backend β) (l : AudioLoop V A) (audioPts : UInt32)
    (state : β × List AudioMix) (i : Slot) : β × List AudioMix :=
  if audioMobile (l.rawAudioData i) then
    mixAudioStream backend l audioPts state i.val (UInt32.ofNat i.val)
  else state

def mixAudioInstant (backend : Backend β) (b : β) (l : AudioLoop V A)
    (audioPts : UInt32) : β × List AudioMix × Option Bytes :=
  if l.totalStreams > 0 then
    let state :=
      if l.totalMobileStreams > 0 then
        Streams.slots.foldl (mixMobile backend l audioPts) (b, [])
      else (b, [])
    let state := mixAudioStream backend l audioPts state
      MAX_XCODING_INSTANCES MAX_U32
    let (b, resultFlvPacket) := backend.getOneFrameForAllStreams state.1
    (b, state.2, resultFlvPacket)
  else (b, [], none)

/-! ## The two entry points -/

namespace MixCoder

def streams (m : MixCoder V A β) : Streams V A :=
  m.flvSegParser.streams

def setStreams (m : MixCoder V A β) (streams : Streams V A) :
    MixCoder V A β :=
  { m with flvSegParser := { m.flvSegParser with streams := streams } }

def start (streamSource : Slot → StreamSource) (output : β) :
    MixCoder V A β where
  flvSegParser := FLVSegmentParser.start streamSource
  output := output

def newInput (codecs : Codecs V A) (m : MixCoder V A β)
    (inputBuf : SmartBuffer) : Except Abort (MixCoder V A β) := do
  let flvSegParser ← m.flvSegParser.readData codecs inputBuf
  return { m with flvSegParser := flvSegParser }

def videoOutput (backend : Backend β) (m : MixCoder V A β)
    (videoPts : UInt32) : MixCoder V A β × Output :=
  let l := Streams.slots.foldl (VideoLoop.turn videoPts)
    { stream := m.streams.stream, rawVideoData := m.rawVideoData }
  let (b, mixes, resultFlvPacket) :=
    mixVideoInstant backend m.output l videoPts
  ({ m.setStreams { m.streams with stream := l.stream } with
      rawVideoData := l.rawVideoData, output := b },
    { instant := .video videoPts
      poppedVideo := l.popped
      totalStreams := l.totalStreams
      totalMobileStreams := l.totalMobileStreams
      videoMixes := mixes
      resultFlvPacket := resultFlvPacket })

def audioOutput (backend : Backend β) (m : MixCoder V A β)
    (audioPts : UInt32) : Except Abort (MixCoder V A β × Output) := do
  let l ← run AudioLoop.turn
    { stream := m.streams.stream, rawAudioData := m.rawAudioData }
    Streams.slots
  let (b, mixes, resultFlvPacket) :=
    mixAudioInstant backend m.output l audioPts
  return ({ m.setStreams { m.streams with stream := l.stream } with
      rawAudioData := l.rawAudioData, output := b },
    { instant := .audio audioPts
      poppedAudio := l.popped
      totalStreams := l.totalStreams
      totalMobileStreams := l.totalMobileStreams
      audioMixes := mixes
      resultFlvPacket := resultFlvPacket })

def getOutput (backend : Backend β) (m : MixCoder V A β) :
    Except Abort (MixCoder V A β × Output) := do
  let (instant, streams) ← m.streams.nextInstant
  let m := m.setStreams streams
  match instant with
  | .none => return (m, {})
  | .audio audioPts => m.audioOutput backend audioPts
  | .video videoPts => return m.videoOutput backend videoPts

end MixCoder

/-! ## Runs -/

inductive MixCall where
  | newInput (inputBuf : SmartBuffer)
  | getOutput

/-- A mixer and what its `getOutput` calls did so far. -/
structure Session (V A β : Type) where
  mixCoder : MixCoder V A β
  outputs : List Output := []

namespace Session

def start (streamSource : Slot → StreamSource) (output : β) :
    Session V A β where
  mixCoder := MixCoder.start streamSource output

def step (codecs : Codecs V A) (backend : Backend β) (session : Session V A β) :
    MixCall → Except Abort (Session V A β)
  | .newInput inputBuf => do
      let mixCoder ← session.mixCoder.newInput codecs inputBuf
      return { session with mixCoder := mixCoder }
  | .getOutput => do
      let (mixCoder, output) ← session.mixCoder.getOutput backend
      return { mixCoder := mixCoder, outputs := session.outputs ++ [output] }

end Session

end GroupVoip
