import GroupVoip.AudioTimestampMapper
import GroupVoip.Decoders
import GroupVoip.SegmentReader

/-!
# FLVSegmentParser

The queues between the readers and the mixer.  A tag of a slot is timed,
decoded and queued; a stream mask takes slots online and offline; the mixer
asks whether the next audio or video instant is ready and takes the frames
that are due.
-/

namespace GroupVoip

variable {V A : Type}

/-- What `FLVSegmentParser` keeps for one slot, and the clock of the slot's
`FLVParser`. -/
structure Stream (V A : Type) where
  audioQueue : List AudioRawData := []
  audioStreamStatus : StreamStatus := .kStreamOffline
  videoQueue : List VideoRawData := []
  videoStreamStatus : StreamStatus := .kStreamOffline
  clock : FLVClock := {}
  streamSource : StreamSource
  audioDecoder : Option (AudioDecoder A) := none
  videoDecoder : VideoDecoder V := {}
  audioTsMapper : AudioTimestampMapper := {}

/-- The slots and what they share. -/
structure Streams (V A : Type) where
  stream : Slot → Stream V A
  hasStarted : Bool := false
  lastBucketTimestamp : ℚ := 0
  globalAudioTimestamp : UInt32 := 0

/-- The streams of a new parser.  Nothing initialises `streamSource`. -/
def Streams.start (streamSource : Slot → StreamSource) : Streams V A where
  stream i := { streamSource := streamSource i }

namespace Stream

/-! ## Messages -/

/-- The video case of `onFLVFrameParsed`. -/
def onVideoParsed (codecs : Codecs V A) (s : Stream V A) (au : AccessUnit) :
    Except Abort (Stream V A) := do
  let (bIsValidFrame, videoDecoder, v) ←
    s.videoDecoder.newAccessUnit codecs au {}
  if bIsValidFrame || v.sp = .kSpsPps then
    return { s with
      videoDecoder := videoDecoder
      videoQueue := s.videoQueue ++ [v]
      videoStreamStatus := .kStreamOnlineStarted }
  else
    return { s with videoDecoder := videoDecoder }

/-- One turn of the drain loop: stamp a frame and queue it.  The second
component is the global audio timestamp. -/
def pushAudio (origPts : UInt32) (state : Stream V A × UInt32)
    (frame : Bytes × Bool) : Stream V A × UInt32 :=
  let (pts, audioTsMapper) :=
    state.1.audioTsMapper.getNextTimestamp origPts
  ({ state.1 with
      audioTsMapper := audioTsMapper
      audioQueue := state.1.audioQueue ++
        [{ rawAudioFrame := frame.1, bIsStereo := frame.2, pts := pts }] },
    pts)

/-- The audio case of `onFLVFrameParsed`. -/
def onAudioParsed (codecs : Codecs V A) (s : Stream V A)
    (globalAudioTimestamp : UInt32) (au : AccessUnit) :
    Except Abort (Stream V A × UInt32) := do
  let audioDecoder := AudioDecoderFactory.decoderFor codecs au s.audioDecoder
  let (audioDecoder, frames) ← audioDecoder.newAccessUnit codecs au
  let s := { s with audioDecoder := some audioDecoder }
  let (s, globalAudioTimestamp) :=
    frames.foldl (pushAudio au.pts) (s, globalAudioTimestamp)
  return ({ s with audioStreamStatus := .kStreamOnlineStarted },
    globalAudioTimestamp)

/-- `FLVSegmentParser::onFLVFrameParsed` on the slot's state and the global
audio timestamp. -/
def onFLVFrameParsed (codecs : Codecs V A) (s : Stream V A)
    (globalAudioTimestamp : UInt32) (au : AccessUnit) :
    Except Abort (Stream V A × UInt32) :=
  match au.st with
  | .kVideoStreamType => do
      return (← s.onVideoParsed codecs au, globalAudioTimestamp)
  | .kAudioStreamType => s.onAudioParsed codecs globalAudioTimestamp au
  | _ => return (s, globalAudioTimestamp)

/-- A tag of the slot: parse it, and pass on the message if there is one. -/
def onTag (codecs : Codecs V A) (s : Stream V A)
    (globalAudioTimestamp : UInt32) (tag : FLVTag) :
    Except Abort (Stream V A × UInt32) := do
  let (clock, message) ← parseNextFLVFrame s.clock globalAudioTimestamp tag
  let s := { s with clock := clock }
  match message with
  | none => return (s, globalAudioTimestamp)
  | some au => s.onFLVFrameParsed codecs globalAudioTimestamp au

/-! ## The stream mask -/

def maskStatus (online : Bool) (status : StreamStatus) : StreamStatus :=
  if online then
    if status = .kStreamOffline then .kStreamOnlineNotStarted else status
  else .kStreamOffline

def setOnline (s : Stream V A) (online : Bool) : Stream V A :=
  { s with
    videoStreamStatus := maskStatus online s.videoStreamStatus
    audioStreamStatus := maskStatus online s.audioStreamStatus }

/-! ## Frames that are due -/

def videoStarted (s : Stream V A) : Bool :=
  s.videoStreamStatus = .kStreamOnlineStarted

def audioStarted (s : Stream V A) : Bool :=
  s.audioStreamStatus = .kStreamOnlineStarted

def isStreamOnlineStarted (s : Stream V A) (streamType : StreamType) : Bool :=
  match streamType with
  | .kVideoStreamType => s.videoStarted
  | .kAudioStreamType => s.audioStarted
  | _ => false

/-- At most the frame at the front, and only if it is not late for
`timestamp`. -/
def getNextVideoFrame (s : Stream V A) (timestamp : UInt32) :
    Option VideoRawData × Stream V A :=
  match s.videoQueue with
  | v :: rest =>
      if v.pts ≤ timestamp then (some v, { s with videoQueue := rest })
      else (none, s)
  | [] => (none, s)

def getNextAudioFrame (s : Stream V A) : Option AudioRawData × Stream V A :=
  match s.audioQueue with
  | a :: rest => (some a, { s with audioQueue := rest })
  | [] => (none, s)

end Stream

namespace Streams

/-- Bit `i` of a mask after `i` shifts, all other bits masked off. -/
def maskBit (streamMask : UInt32) (i : Slot) : Bool :=
  (((streamMask >>> UInt32.ofNat i.val) <<< 31) >>> 31) ≠ 0

/-- The loop over the bits of a stream mask. -/
def applyMask (p : Streams V A) (streamMask : UInt32) : Streams V A :=
  { p with stream := fun i => (p.stream i).setOnline (maskBit streamMask i) }

def setSource (p : Streams V A) (id : Slot) (source : StreamSource) :
    Streams V A :=
  let s := { p.stream id with streamSource := source }
  { p with stream := Function.update p.stream id s }

def onTag (codecs : Codecs V A) (p : Streams V A) (id : Slot) (tag : FLVTag) :
    Except Abort (Streams V A) := do
  let (s, globalAudioTimestamp) ←
    (p.stream id).onTag codecs p.globalAudioTimestamp tag
  return { p with
    stream := Function.update p.stream id s
    globalAudioTimestamp := globalAudioTimestamp }

def act (codecs : Codecs V A) (p : Streams V A) :
    StreamCall → Except Abort (Streams V A)
  | .streamMask streamMask => .ok (p.applyMask streamMask)
  | .streamSource id source => .ok (p.setSource id source)
  | .flvTag id tag => p.onTag codecs id tag

def slots : List Slot :=
  List.finRange MAX_XCODING_INSTANCES

/-! ## The next audio instant -/

/-- The loop of `isNextAudioStreamReady`: whether it runs to its end, the
smallest time at the front of a started queue and the number of started
queues. -/
def scanAudio (p : Streams V A) :
    List Slot → UInt32 → Nat → Bool × UInt32 × Nat
  | [], audioTimestamp, totalStreams => (true, audioTimestamp, totalStreams)
  | i :: rest, audioTimestamp, totalStreams =>
      if (p.stream i).audioStarted then
        match (p.stream i).audioQueue with
        | a :: _ =>
            scanAudio p rest
              (if a.pts < audioTimestamp then a.pts else audioTimestamp)
              (totalStreams + 1)
        | [] => (false, audioTimestamp, totalStreams)
      else scanAudio p rest audioTimestamp totalStreams

/-- The time of the next audio instant, if it is ready. -/
def isNextAudioStreamReady (p : Streams V A) : Option UInt32 :=
  match p.scanAudio slots MAX_U32 0 with
  | (isReady, audioTimestamp, totalStreams) =>
      if totalStreams ≠ 0 && isReady then some audioTimestamp else none

/-! ## The next video instant -/

def frameInterval : ℚ :=
  1000 / 30

def nextBucketTimestamp (p : Streams V A) : ℚ :=
  p.lastBucketTimestamp + frameInterval

/-- The bucket under which the audio time falls. -/
def audioBucketTimestamp (p : Streams V A) (audioTimestamp : UInt32) : ℚ :=
  p.lastBucketTimestamp + frameInterval *
    truncInt ((audioTimestamp.toNat - p.lastBucketTimestamp) / frameInterval)

def nextLimitTimestamp (p : Streams V A) (audioTimestamp : UInt32) : UInt32 :=
  truncU32 <|
    if p.nextBucketTimestamp > p.audioBucketTimestamp audioTimestamp then
      p.nextBucketTimestamp
    else p.audioBucketTimestamp audioTimestamp

/-- What the loop over the fronts of the video queues finds out. -/
structure FrontScan where
  frameTimestamp : UInt32 := MAX_U32
  hasAnyStreamStartedAndReady : Bool := false
  hasSpsPps : Bool := false
  spsPpsTimestamp : UInt32 := 0
deriving DecidableEq, Repr

/-- Keep the largest time; `0xffffffff` stands for none so far. -/
def FrontScan.record (f : FrontScan) (pts : UInt32) : FrontScan :=
  { f with frameTimestamp :=
      if f.frameTimestamp = MAX_U32 then pts
      else if pts > f.frameTimestamp then pts else f.frameTimestamp }

/-- The front of one queue.  An SPS/PPS header is recorded whatever its time;
a picture beyond the limit is not, once the output has started. -/
def FrontScan.front (hasStarted : Bool) (limit : UInt32) (f : FrontScan)
    (v : VideoRawData) : FrontScan :=
  if v.sp = .kSpsPps then
    { f with hasSpsPps := true, spsPpsTimestamp := v.pts }.record v.pts
  else if hasStarted && v.pts > limit then
    { f with hasAnyStreamStartedAndReady := true }
  else
    { f with hasAnyStreamStartedAndReady := true }.record v.pts

def scanFront (p : Streams V A) (limit : UInt32) (f : FrontScan) (i : Slot) :
    FrontScan :=
  if (p.stream i).videoStarted then
    match (p.stream i).videoQueue with
    | v :: _ => f.front p.hasStarted limit v
    | [] => f
  else f

def scanFronts (p : Streams V A) (limit : UInt32) : FrontScan :=
  slots.foldl (p.scanFront limit) {}

/-- The decision once the output has started. -/
def nextBucket (p : Streams V A) (audioTimestamp frameTimestamp : UInt32) :
    Except Abort (Option UInt32 × Streams V A) :=
  if frameTimestamp ≤ truncU32 p.nextBucketTimestamp then
    if p.audioBucketTimestamp audioTimestamp ≥ p.nextBucketTimestamp then
      .ok (some (truncU32 p.nextBucketTimestamp),
        { p with lastBucketTimestamp := p.nextBucketTimestamp })
    else .ok (none, p)
  else do
    assertThat (p.audioBucketTimestamp audioTimestamp ≥ frameTimestamp.toNat)
      .frameWithinAudioBucket
    assertThat (p.audioBucketTimestamp audioTimestamp > p.nextBucketTimestamp)
      .audioBucketAhead
    return (some (truncU32 (p.audioBucketTimestamp audioTimestamp)),
      { p with lastBucketTimestamp := p.audioBucketTimestamp audioTimestamp })

/-- The decision before the first video instant. -/
def firstBucket (p : Streams V A) (audioTimestamp : UInt32) (f : FrontScan) :
    Option UInt32 × Streams V A :=
  if f.hasAnyStreamStartedAndReady then
    (some f.frameTimestamp,
      { p with
        hasStarted := true
        lastBucketTimestamp := f.frameTimestamp.toNat })
  else if f.hasSpsPps then
    (some f.spsPpsTimestamp,
      { p with lastBucketTimestamp := p.audioBucketTimestamp audioTimestamp })
  else (none, p)

/-- The time of the next video instant, if it is ready, and the bucket
clock. -/
def isNextVideoStreamReady (p : Streams V A) (audioTimestamp : UInt32) :
    Except Abort (Option UInt32 × Streams V A) :=
  let f := p.scanFronts (p.nextLimitTimestamp audioTimestamp)
  if p.hasStarted then
    if f.frameTimestamp ≠ MAX_U32 then p.nextBucket audioTimestamp f.frameTimestamp
    else .ok (none, p)
  else .ok (p.firstBucket audioTimestamp f)

end Streams

/-- The input side with the streams of this program. -/
abbrev FLVSegmentParser (V A : Type) : Type := InputSide (Streams V A)

namespace FLVSegmentParser

def start (streamSource : Slot → StreamSource) : FLVSegmentParser V A :=
  InputSide.start (Streams.start streamSource)

def readData (codecs : Codecs V A) (p : FLVSegmentParser V A)
    (input : SmartBuffer) : Except Abort (FLVSegmentParser V A) :=
  InputSide.readData (Streams.act codecs) p input

end FLVSegmentParser

end GroupVoip
