import GroupVoip.CodecInfo

/-!
# Decoders

The decoders around the codecs.  What the codec libraries compute is a
parameter; which of their results is used, and what is remembered between two
messages, is the program's.
-/

namespace GroupVoip

/-- A decoded picture as the codec hands it over. -/
structure AVFrame where
  width : Int
  height : Int
  linesize : Fin 3 → Int
  data : Fin 3 → Bytes

structure AudioStreamSetting where
  acid : UInt8
  ar : UInt8
  at_ : UInt8
  as_ : UInt8
deriving DecidableEq, Repr

/-- The codec libraries.  `V` is the state of an H.264 decoder, and `A` that
of an audio decoder together with its resampler, which for the special
property and the payload of a message yields frames with their stereo flags,
or gives up. -/
structure Codecs (V A : Type) where
  openVideo : Bytes → V
  decodeVideo : V → Bytes → V × Option AVFrame
  openAudio : AudioStreamSetting → A
  decodeAudio : A → SpecialProperty → Option Bytes →
    Option (A × List (Bytes × Bool))

/-- Codecs that hand a message back as one frame, to run the model with.  A
picture with a byte `0xff` in it does not decode. -/
def Codecs.echo : Codecs Unit Unit where
  openVideo _ := ()
  decodeVideo _ buf := ((),
    if 0xff ∈ buf then none
    else some
      { width := 640, height := 480, linesize := fun _ => 1
        data := fun _ => buf })
  openAudio _ := ()
  decodeAudio _ _ payload := some ((), [(payload.getD [], true)])

variable {V A : Type}

/-! ## Video -/

structure VideoDecoder (V : Type) where
  codecCtx : Option V := none
  inWidth : Int := 0
  inHeight : Int := 0
  bHasFirstFrameStarted : Bool := false
  firstFramePts : UInt32 := MAX_U32
  spspps : Option Bytes := none

namespace VideoDecoder

def hasFirstFrameDecoded (d : VideoDecoder V) (pts : UInt32) : Bool :=
  d.bHasFirstFrameStarted && d.firstFramePts ≤ pts

/-- A new SPS/PPS header opens the codec again, and the decoder waits for its
first picture. -/
def start (codecs : Codecs V A) (d : VideoDecoder V) (au : AccessUnit)
    (v : VideoRawData) : Except Abort (VideoDecoder V × VideoRawData) :=
  match au.payload with
  | none => .error .undefinedBehaviour
  | some spspps => .ok
      ({ d with
          bHasFirstFrameStarted := false
          spspps := some spspps
          codecCtx := some (codecs.openVideo spspps)
          inWidth := 640
          inHeight := 480 },
        { v with rawVideoSettings :=
            { v.rawVideoSettings with width := 640, height := 480 } })

/-- Copy the picture out of the codec and note the first one. -/
def finish (d : VideoDecoder V) (au : AccessUnit) (v : VideoRawData)
    (frame : AVFrame) : Except Abort (VideoDecoder V × VideoRawData) := do
  assertThat (d.inWidth = frame.width) .frameWidthMatches
  assertThat (d.inHeight = frame.height) .frameHeightMatches
  return (
    if d.bHasFirstFrameStarted then d
    else { d with bHasFirstFrameStarted := true, firstFramePts := au.pts },
    { v with
      rawVideoPlanes := fun plane => some <|
        (frame.data plane).take (frame.linesize plane * d.inHeight).toNat
      rawVideoStrides := frame.linesize
      rawVideoSettings :=
        { v.rawVideoSettings with width := d.inWidth, height := d.inHeight } })

/-- Decode the slices of one picture.  A key frame goes in behind the SPS/PPS
header. -/
def decode (codecs : Codecs V A) (d : VideoDecoder V) (au : AccessUnit)
    (v : VideoRawData) :
    Except Abort (Bool × VideoDecoder V × VideoRawData) := do
  assertThat (d.inWidth ≠ 0 && d.inHeight ≠ 0) .decoderSizeKnown
  match d.spspps with
  | none => return (false, d, v)
  | some spspps =>
      match au.payload, d.codecCtx with
      | some payload, some codecCtx =>
          let buf := if au.isKey then spspps ++ payload else payload
          let (codecCtx, gotPic) := codecs.decodeVideo codecCtx buf
          let d := { d with codecCtx := some codecCtx }
          match gotPic with
          | none => return (false, d, v)
          | some frame => do
              let (d, v) ← d.finish au v frame
              return (true, d, v)
      | _, _ => .error .undefinedBehaviour

/-- `VideoDecoder::newAccessUnit`: whether a picture came out, the decoder
afterwards and what was written to `v`. -/
def newAccessUnit (codecs : Codecs V A) (d : VideoDecoder V)
    (au : AccessUnit) (v : VideoRawData) :
    Except Abort (Bool × VideoDecoder V × VideoRawData) := do
  assertThat (au.st = .kVideoStreamType) .videoAccessUnit
  assertThat (au.ctype = kAVCVideoPacket) .avcAccessUnit
  let v := { v with sp := au.sp, pts := au.pts }
  match au.sp with
  | .kSpsPps =>
      let (d, v) ← d.start codecs au v
      return (false, d, v)
  | .kRawData => d.decode codecs au v
  | _ => return (false, d, v)

end VideoDecoder

/-! ## Audio -/

structure AudioDecoder (A : Type) where
  setting : AudioStreamSetting
  codec : A

namespace AudioDecoderFactory

def codecType (au : AccessUnit) : UInt8 := (au.ctype &&& 0xf0) >>> 4
def audioRate (au : AccessUnit) : UInt8 := (au.ctype &&& 0x0c) >>> 2
def audioSize (au : AccessUnit) : UInt8 := (au.ctype &&& 0x02) >>> 1
def audioType (au : AccessUnit) : UInt8 := au.ctype &&& 0x01

/-- Speex has one setting whatever the message says. -/
def CreateAudioDecoder (codecs : Codecs V A) (au : AccessUnit) :
    AudioDecoder A :=
  let setting : AudioStreamSetting :=
    if codecType au = kSpeex then
      { acid := kSpeex, ar := k16kHz, as_ := kSnd16Bit, at_ := kSndMono }
    else
      { acid := codecType au, ar := audioRate au, as_ := audioSize au,
        at_ := audioType au }
  { setting := setting, codec := codecs.openAudio setting }

def isSameDecoder (au : AccessUnit) (origSetting : AudioStreamSetting) :
    Bool :=
  if codecType au = kSpeex && origSetting.acid = kSpeex then true
  else codecType au = origSetting.acid && audioRate au = origSetting.ar &&
    audioSize au = origSetting.as_ && audioType au = origSetting.at_

/-- The decoder that takes the next message: the one at hand unless there is
none or its settings differ. -/
def decoderFor (codecs : Codecs V A) (au : AccessUnit)
    (audioDecoder : Option (AudioDecoder A)) : AudioDecoder A :=
  match audioDecoder with
  | none => CreateAudioDecoder codecs au
  | some decoder =>
      if isSameDecoder au decoder.setting then decoder
      else CreateAudioDecoder codecs au

/-- A decoder just made for a message is not made again for it. -/
theorem isSameDecoder_create (codecs : Codecs V A) (au : AccessUnit) :
    isSameDecoder au (CreateAudioDecoder codecs au).setting = true := by
  by_cases speex : codecType au = kSpeex
  · simp [isSameDecoder, CreateAudioDecoder, speex]
  · simp [isSameDecoder, CreateAudioDecoder, speex]

end AudioDecoderFactory

/-- `newAccessUnit` of an audio decoder and the frames drained after it. -/
def AudioDecoder.newAccessUnit (codecs : Codecs V A) (decoder : AudioDecoder A)
    (au : AccessUnit) :
    Except Abort (AudioDecoder A × List (Bytes × Bool)) :=
  match codecs.decodeAudio decoder.codec au.sp au.payload with
  | none => .error .codec
  | some (codec, frames) => .ok ({ decoder with codec := codec }, frames)

end GroupVoip
