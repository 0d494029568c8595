import GroupVoip.BitStreamParser
import GroupVoip.Library.Emitter
import GroupVoip.Library.WireBytes

/-!
# FLVParser

One parser for each slot.  Its registers fall into two groups that never read
each other: `TagScan` cuts the slot's bytes into FLV tags, and `FLVClock`
turns the timestamp of a tag into the presentation time of its message.
-/

namespace GroupVoip

open Library.Framing Library.WireBytes

inductive ScanState where
  | SCAN_HEADER_TYPE_LEN
  | SCAN_REMAINING_TAG
deriving DecidableEq, Repr

structure TagScan where
  scanState : ScanState := .SCAN_HEADER_TYPE_LEN
  curFlvTagSize : UInt32 := 0
  curStreamType : StreamType := .kUnknownStreamType
deriving DecidableEq, Repr

/-- What `parseNextFLVFrame` is called with: the registers and the bytes of
the tag after the first four. -/
structure FLVTag where
  curStreamType : StreamType
  curFlvTagSize : UInt32
  strFlvTag : Bytes
deriving DecidableEq, Repr

def TagScan.need (s : TagScan) : Nat :=
  match s.scanState with
  | .SCAN_HEADER_TYPE_LEN => 4
  | .SCAN_REMAINING_TAG => s.curFlvTagSize.toNat

/-- The two cases of `FLVParser::readData` once the buffer is full. -/
def TagScan.emit (s : TagScan) (curBuf : Bytes) :
    List FLVTag × Except Abort TagScan :=
  match s.scanState with
  | .SCAN_HEADER_TYPE_LEN =>
      let dataSize := UInt32.ofNat <|
        ofLE [curBuf.getD 3 0, curBuf.getD 2 0, curBuf.getD 1 0, 0]
      ([], .ok
        { scanState := .SCAN_REMAINING_TAG
          curFlvTagSize := dataSize + (7 + 4)
          curStreamType := StreamType.ofByte (curBuf.getD 0 0) })
  | .SCAN_REMAINING_TAG =>
      ([⟨s.curStreamType, s.curFlvTagSize, curBuf⟩], .ok {})

/-- `FLVParser::readData` cuts a slot's bytes into tags. -/
def tagReader : Emitter UInt8 TagScan FLVTag Abort where
  need := TagScan.need
  emit := TagScan.emit
  progress := by
    intro s s' nothing fired
    cases state : s.scanState with
    | SCAN_HEADER_TYPE_LEN =>
        simp [TagScan.need, state] at nothing
    | SCAN_REMAINING_TAG =>
        simp only [TagScan.emit, state, Except.ok.injEq] at fired
        simp [← fired, TagScan.need]

/-! ## Reading one tag -/

/-- `tsUnion`: three bytes of timestamp, the extension byte, and three bytes
of stream id that are skipped. -/
def readTimestamp (bsParser : BitStreamParser) :
    Except Abort (UInt32 × BitStreamParser) := do
  let (tempStr, bsParser) ← bsParser.readBytes 3
  let (tempByte, bsParser) := bsParser.readByte
  let low ← charAt tempStr 2
  let middle ← charAt tempStr 1
  let high ← charAt tempStr 0
  let (_, bsParser) ← bsParser.readBytes 3
  return (UInt32.ofNat (ofLE [low, middle, high, tempByte]), bsParser)

def naluStarterCode : Bytes := [0, 0, 0, 1]

def stBytesPadding : Bytes := List.replicate 16 0

/-- `((u16)s[0]<<8)|s[1]`, where `s[1]` is a signed `char`. -/
def u16Length (s : Bytes) : Except Abort UInt16 := do
  let first ← charAt s 0
  let second ← charAt s 1
  return (first.toUInt16 <<< 8) ||| second.toInt8.toInt16.toUInt16

/-- The SPS and the PPS of an AVC sequence header, each behind a start
code. -/
def readSpsPps (bsParser : BitStreamParser) : Except Abort Bytes := do
  let (_, bsParser) ← bsParser.readBytes 6
  let (spsLenStr, bsParser) ← bsParser.readBytes 2
  let spsLen ← u16Length spsLenStr
  let (sps, bsParser) ← bsParser.readBytes spsLen.toNat
  let (_, bsParser) ← bsParser.readBytes 1
  let (ppsLenStr, bsParser) ← bsParser.readBytes 2
  let ppsLen ← u16Length ppsLenStr
  let (pps, _) ← bsParser.readBytes ppsLen.toNat
  return naluStarterCode ++ sps ++ naluStarterCode ++ pps

/-- One turn of the slice loop: a big-endian length and that many bytes. -/
def readNalu (bsParser : BitStreamParser) :
    Except Abort (UInt32 × Bytes × BitStreamParser) := do
  let (lenStr, bsParser) ← bsParser.readBytes 4
  let b3 ← charAt lenStr 3
  let b2 ← charAt lenStr 2
  let b1 ← charAt lenStr 1
  let b0 ← charAt lenStr 0
  let sliceSize := UInt32.ofNat (ofLE [b3, b2, b1, b0])
  let (slice, bsParser) ← bsParser.readBytes sliceSize.toNat
  return (sliceSize, slice, bsParser)

/-- The slice loop.  Every turn moves the cursor by four bytes or more, so
once the turns outnumber the bytes the next read is out of range. -/
def readNalus : Nat → BitStreamParser → UInt64 → Bytes → Except Abort Bytes
  | 0, _, dataSize, inputData =>
      if dataSize > 0 then .error .outOfRange else .ok inputData
  | turns + 1, bsParser, dataSize, inputData =>
      if dataSize > 0 then do
        let (sliceSize, slice, bsParser) ← readNalu bsParser
        let inputData :=
          if sliceSize > 0 then inputData ++ (naluStarterCode ++ slice)
          else inputData
        readNalus turns bsParser
          (dataSize - (4 + sliceSize).toUInt64) inputData
      else .ok inputData

/-- What the switch over the stream type leaves behind. -/
structure TagBody where
  accessUnit : AccessUnit
  frameReady : Bool
  curSpsPps : Bytes
deriving DecidableEq, Repr

/-- `inputData` and the special property of a video tag, `dataSize` being what
is left after the AVC header. -/
def readVideoData (bsParser : BitStreamParser) (avcPacketType : UInt8)
    (dataSize : UInt64) : Except Abort (Bytes × SpecialProperty) :=
  if avcPacketType = kAVCSeqHeader then do
    return (← readSpsPps bsParser, .kSpsPps)
  else if avcPacketType = kAVCNalu then do
    let turns := bsParser.byteStream.length + 1
    let inputData ← readNalus turns bsParser dataSize []
    return (inputData ++ stBytesPadding, .kRawData)
  else if avcPacketType = kAVCEndOfSeq then
    return ([], .kEndSeq)
  else
    return ([], .kRawData)

/-- The same SPS/PPS header is not delivered twice. -/
def videoReady (curSpsPps inputData : Bytes) (sp : SpecialProperty) : Bool :=
  inputData ≠ [] && (sp ≠ .kSpsPps || inputData ≠ curSpsPps)

def readVideoBody (curSpsPps : Bytes) (bsParser : BitStreamParser)
    (dataSize : UInt64) : Except Abort TagBody := do
  let (frameType, bsParser) := bsParser.readBits 4
  let (codecId, bsParser) := bsParser.readBits 4
  assertThat (codecId.toUInt8 = kAVCVideoPacket) .avcVideoOnly
  let (avcPacketType, bsParser) := bsParser.readByte
  let (_, bsParser) ← bsParser.readBytes 3
  let (inputData, sp) ←
    readVideoData bsParser avcPacketType (dataSize - 1 - 4)
  let ready := videoReady curSpsPps inputData sp
  return {
    accessUnit :=
      { st := .kVideoStreamType
        isKey := frameType = 1
        ctype := codecId.toUInt8
        sp := sp
        payload := if ready then some inputData else none }
    frameReady := ready
    curSpsPps := if ready && sp = .kSpsPps then inputData else curSpsPps }

/-- The special property of an audio tag and what is left of `dataSize`.  Only
AAC has a packet type byte. -/
def readAudioProperty (bsParser : BitStreamParser) (soundFormat : UInt32)
    (dataSize : UInt64) : SpecialProperty × UInt64 × BitStreamParser :=
  if soundFormat.toUInt8 = kAAC then
    let (aacPacketType, bsParser) := bsParser.readByte
    let sp := if aacPacketType = kAACSeqHeader then .kSeqHeader else .kRawData
    (sp, dataSize - 1, bsParser)
  else
    (.kRawData, dataSize, bsParser)

/-- `new SmartBuffer(dataSize, readBytes(dataSize).data())` copies `dataSize`
bytes, whether or not the string has them. -/
def readAudioPayload (bsParser : BitStreamParser) (dataSize : UInt64) :
    Except Abort (Option Bytes) :=
  if dataSize > 0 then do
    let (payload, _) ← bsParser.readBytes dataSize.toNat
    if payload.length < dataSize.toNat then .error .undefinedBehaviour
    else return some payload
  else return none

def readAudioBody (curSpsPps : Bytes) (bsParser : BitStreamParser)
    (dataSize : UInt64) : Except Abort TagBody := do
  let (soundFormat, bsParser) := bsParser.readBits 4
  let (soundRate, bsParser) := bsParser.readBits 2
  let (soundSize, bsParser) := bsParser.readBits 1
  let (soundType, bsParser) := bsParser.readBits 1
  let (sp, dataSize, bsParser) :=
    readAudioProperty bsParser soundFormat (dataSize - 1)
  let payload ← readAudioPayload bsParser dataSize
  return {
    accessUnit :=
      { st := .kAudioStreamType
        ctype := ((soundFormat <<< 4) ||| (soundRate <<< 2) |||
          (soundSize <<< 1) ||| soundType).toUInt8
        isKey := true
        sp := sp
        payload := payload }
    frameReady := payload.isSome
    curSpsPps := curSpsPps }

def readBody (curSpsPps : Bytes) (st : StreamType)
    (bsParser : BitStreamParser) (dataSize : UInt64) :
    Except Abort TagBody :=
  match st with
  | .kVideoStreamType => readVideoBody curSpsPps bsParser dataSize
  | .kAudioStreamType => readAudioBody curSpsPps bsParser dataSize
  | _ => return {
      accessUnit := { st := st }, frameReady := false, curSpsPps := curSpsPps }

/-! ## The clock -/

/-- `relTimeStampOffset` holds `MAX_S32` until it is first set. -/
structure FLVClock where
  relTimeStampOffset : Int32 := MAX_S32
  prevVideoAdjPts : UInt32 := 0
  prevAudioAdjPts : UInt32 := 0
  prevAudioOrigPts : UInt32 := 0
  curSpsPps : Bytes := []
deriving DecidableEq, Repr

namespace FLVClock

/-- The first audio message or picture sets the offset, and an audio gap of
more than 100 ms sets it again. -/
def rebases (clock : FLVClock) (st : StreamType) (sp : SpecialProperty)
    (timestamp : UInt32) : Bool :=
  if clock.relTimeStampOffset = MAX_S32 && st ≠ .kDataStreamType
      && sp ≠ .kSpsPps then true
  else st = .kAudioStreamType && timestamp > clock.prevAudioOrigPts + 100

def rebase (clock : FLVClock) (globalAudioTimestamp : UInt32)
    (st : StreamType) (sp : SpecialProperty) (timestamp : UInt32) : FLVClock :=
  if clock.rebases st sp timestamp then
    { clock with
      relTimeStampOffset := (globalAudioTimestamp - timestamp).toInt32 }
  else clock

/-- `relTimestampOffset`, the offset in force: none while the sentinel
stands. -/
def offset (clock : FLVClock) : Int32 :=
  if clock.relTimeStampOffset = MAX_S32 then 0 else clock.relTimeStampOffset

/-- The presentation time of a message.  SPS/PPS headers follow the last video
tag, and a time that would be negative follows the last one of its kind. -/
def pts (clock : FLVClock) (st : StreamType) (sp : SpecialProperty)
    (timestamp : UInt32) : UInt32 :=
  if sp = .kSpsPps then clock.prevVideoAdjPts + 1
  else if clock.offset ≥ 0 ||
      (timestamp + clock.offset.toUInt32).toInt32 ≥ 0 then
    timestamp + clock.offset.toUInt32
  else if st = .kVideoStreamType then clock.prevVideoAdjPts + 1
  else clock.prevAudioAdjPts + 1

def remember (clock : FLVClock) (st : StreamType) (timestamp pts : UInt32) :
    FLVClock :=
  match st with
  | .kVideoStreamType => { clock with prevVideoAdjPts := pts }
  | .kAudioStreamType =>
      { clock with prevAudioAdjPts := pts, prevAudioOrigPts := timestamp }
  | _ => clock

/-- Time one message: the clock afterwards and the presentation time. -/
def adjust (clock : FLVClock) (globalAudioTimestamp : UInt32)
    (st : StreamType) (sp : SpecialProperty) (timestamp : UInt32) :
    FLVClock × UInt32 :=
  let clock := clock.rebase globalAudioTimestamp st sp timestamp
  let pts := clock.pts st sp timestamp
  (clock.remember st timestamp pts, pts)

end FLVClock

/-- The timestamp and the body of a tag; a tag without data has no body. -/
def readTag (curSpsPps : Bytes) (tag : FLVTag) :
    Except Abort (UInt32 × Option TagBody) := do
  let dataSize := (tag.curFlvTagSize - 4).toUInt64 - 7
  let (timestamp, bsParser) ← readTimestamp ⟨tag.strFlvTag, 0⟩
  if dataSize > 0 then
    let body ← readBody curSpsPps tag.curStreamType bsParser dataSize
    return (timestamp, some body)
  else
    return (timestamp, none)

/-- Time a tag's message, and deliver it when it is ready. -/
def FLVClock.deliver (clock : FLVClock) (globalAudioTimestamp timestamp : UInt32)
    (body : TagBody) : FLVClock × Option AccessUnit :=
  let clock := { clock with curSpsPps := body.curSpsPps }
  let (clock, pts) := clock.adjust globalAudioTimestamp body.accessUnit.st
    body.accessUnit.sp timestamp
  (clock,
    if body.frameReady then some { body.accessUnit with pts := pts } else none)

/-- `FLVParser::parseNextFLVFrame`: the clock afterwards and the message handed
to `onFLVFrameParsed`, if one is. -/
def parseNextFLVFrame (clock : FLVClock) (globalAudioTimestamp : UInt32)
    (tag : FLVTag) : Except Abort (FLVClock × Option AccessUnit) := do
  match ← readTag clock.curSpsPps tag with
  | (timestamp, some body) =>
      return clock.deliver globalAudioTimestamp timestamp body
  | (_, none) => return (clock, none)

end GroupVoip
