import GroupVoip.ChunkHeader

/-!
# RTMPProtocolEncoder

A message becomes a header and its data in chunks.  How much of the header is
written depends on the last header of the channel; a time is written in full
at least every 250 ms, and as a difference in between.
-/

namespace GroupVoip

namespace RTMP

open Library.WireBytes

def TYPE_CHUNK_SIZE : UInt8 := 0x01
def TYPE_ABORT : UInt8 := 0x02
def TYPE_BYTES_READ : UInt8 := 0x03
def TYPE_PING : UInt8 := 0x04
def TYPE_SERVER_BANDWIDTH : UInt8 := 0x05
def TYPE_CLIENT_BANDWIDTH : UInt8 := 0x06
def TYPE_FLEX_STREAM_SEND : UInt8 := 0x0f
def TYPE_FLEX_SHARED_OBJECT : UInt8 := 0x10
def TYPE_FLEX_MESSAGE : UInt8 := 0x11
def TYPE_NOTIFY : UInt8 := 0x12
def TYPE_SHARED_OBJECT : UInt8 := 0x13
def TYPE_INVOKE : UInt8 := 0x14
def TYPE_AGGREGATE : UInt8 := 0x16

/-- An event by what `encodeMessage` makes of it.  The size of a chunk is
positive. -/
inductive Event where
  | chunkSize (size : Nat)
  | other (dataType : UInt8) (body : Bytes)
deriving DecidableEq, Repr

namespace Event

def dataType : Event → UInt8
  | .chunkSize _ => TYPE_CHUNK_SIZE
  | .other dataType _ => dataType

/-- The other cases of `encodeMessage`. -/
def encodedTypes : List UInt8 :=
  [TYPE_INVOKE, TYPE_NOTIFY, TYPE_PING, TYPE_BYTES_READ, TYPE_AGGREGATE,
    TYPE_AUDIO_DATA, TYPE_VIDEO_DATA, TYPE_FLEX_SHARED_OBJECT,
    TYPE_SHARED_OBJECT, TYPE_SERVER_BANDWIDTH, TYPE_CLIENT_BANDWIDTH,
    TYPE_FLEX_MESSAGE, TYPE_FLEX_STREAM_SEND]

def encodeMessage : Event → Option Bytes
  | .chunkSize size => some (toBE 4 size)
  | .other dataType body =>
      if dataType ∈ encodedTypes then some body else none

end Event

/-- `Channel.write`: every packet has a header of its own. -/
def channelHeader (id : Nat) (streamId : Int) (event : Event)
    (timestamp : UInt32) : Header where
  dataType := event.dataType
  channelId := id
  size := 0
  streamId := streamId
  timerBase := timestamp
  timerDelta := 0
  extendedTimestamp := 0

/-- The members of `ChannelInfo` for writing. -/
structure WriteChannel where
  writeHeader : Option Header := none
  writeTimestamp : UInt32 := 0
deriving DecidableEq, Repr

structure WriteState where
  channels : Nat → WriteChannel := fun _ => {}
  writeChunkSize : Nat := 128

/-- `timer < 0 || timer >= 0xffffff` -/
def isExtended (timer : UInt32) : Bool :=
  timer.toInt32 < 0 || timer.toInt32 ≥ 0xffffff

def writeTimer (timer : UInt32) : Bytes :=
  if isExtended timer then writeMediumInt 0xffffff else writeMediumInt timer

def putInt (value : UInt32) : Bytes :=
  toBE 4 value.toNat

def getHeaderType (w : WriteChannel) (header lastHeader : Header) :
    HeaderType :=
  let diff := diffTimestamps header.getTimer lastHeader.getTimer
  let timeSinceFullTs := diffTimestamps header.getTimer w.writeTimestamp
  if header.streamId ≠ lastHeader.streamId ∨ diff < 0 ∨ timeSinceFullTs ≥ 250
  then .HEADER_NEW
  else if header.size ≠ lastHeader.size ∨
    header.dataType ≠ lastHeader.dataType then .HEADER_SAME_SOURCE
  else if header.getTimer ≠ lastHeader.getTimer + lastHeader.timerDelta then
    .HEADER_TIMER_CHANGE
  else .HEADER_CONTINUE

/-- The difference of two timers as an `int`. -/
def timerSince (header lastHeader : Header) : UInt32 :=
  (Int32.ofInt
    (diffTimestamps header.getTimer lastHeader.getTimer)).toUInt32

/-- The fields of a new header, and the header afterwards. -/
def encodeNew (header : Header) : Bytes × Header :=
  let timer := header.getTimer
  (writeTimer timer ++ writeMediumInt header.size ++ [header.dataType] ++
      writeReverseInt header.streamId ++
      (if isExtended timer then putInt timer else []),
    { header with
      timerBase := timer
      timerDelta := 0
      extendedTimestamp :=
        if isExtended timer then timer else header.extendedTimestamp })

/-- The fields behind the basic header, and the header afterwards. -/
def encodeFields (header lastHeader : Header) :
    HeaderType → Bytes × Header
  | .HEADER_NEW => encodeNew header
  | .HEADER_SAME_SOURCE =>
      let timer := timerSince header lastHeader
      (writeTimer timer ++ writeMediumInt header.size ++ [header.dataType] ++
          (if isExtended timer then putInt timer else []),
        { header with
          timerBase := header.getTimer - timer
          timerDelta := timer
          extendedTimestamp :=
            if isExtended timer then timer else header.extendedTimestamp })
  | .HEADER_TIMER_CHANGE =>
      let timer := timerSince header lastHeader
      (writeTimer timer ++ (if isExtended timer then putInt timer else []),
        { header with
          timerBase := header.getTimer - timer
          timerDelta := timer
          extendedTimestamp :=
            if isExtended timer then timer else header.extendedTimestamp })
  | .HEADER_CONTINUE =>
      let timer := timerSince header lastHeader
      (if lastHeader.extendedTimestamp ≠ 0 then
          putInt lastHeader.extendedTimestamp else [],
        { header with
          timerBase := header.getTimer - timer
          timerDelta := timer
          extendedTimestamp :=
            if lastHeader.extendedTimestamp ≠ 0 then
              lastHeader.extendedTimestamp
            else header.extendedTimestamp })

/-- `getHeaderType`, with a new header for the first packet of a channel. -/
def headerTypeOf (w : WriteChannel) (header : Header) : HeaderType :=
  match w.writeHeader with
  | none => .HEADER_NEW
  | some lastHeader => getHeaderType w header lastHeader

/-- The bytes of a header, and the header as it was written. -/
def encodeHeader (w : WriteChannel) (header : Header) : Bytes × Header :=
  let headerType := headerTypeOf w header
  let (fields, written) :=
    encodeFields header (w.writeHeader.getD header) headerType
  (encodeHeaderByte headerType header.channelId ++ fields, written)

/-- The channel after a header was written. -/
def WriteChannel.wrote (w : WriteChannel) (header : Header) : WriteChannel where
  writeHeader := some (encodeHeader w header).2
  writeTimestamp :=
    if headerTypeOf w header = .HEADER_NEW then header.getTimer
    else w.writeTimestamp

/-- What stands between two chunks of a message. -/
def continuation (header : Header) : Bytes :=
  encodeHeaderByte .HEADER_CONTINUE header.channelId ++
    (if header.extendedTimestamp ≠ 0 then putInt header.extendedTimestamp
      else [])

/-- The loop over all chunks but the last, and the last. -/
def putChunks (chunkSize : Nat) (between : Bytes) : Nat → Bytes → Bytes
  | 0, data => data
  | chunks + 1, data =>
      data.take chunkSize ++ between ++
        putChunks chunkSize between chunks (data.drop chunkSize)

/-- The quotient of `float`s is rounded, but for the sizes that a header can
give its ceiling is the exact one. -/
def numChunks (dataLen chunkSize : Nat) : Nat :=
  (dataLen + (chunkSize - 1)) / chunkSize

/-- The size of the buffer that a packet is written into. -/
def bufSize (dataLen chunkSize : Nat) : Nat :=
  dataLen + 18 +
    (if numChunks dataLen chunkSize > 0 then
      (numChunks dataLen chunkSize - 1) * 7 else 0)

def WriteState.setChannel (w : WriteState) (channelId : Nat)
    (channel : WriteChannel) : WriteState :=
  { w with channels := Function.update w.channels channelId channel }

def WriteState.setWriteChunkSize (w : WriteState) : Event → WriteState
  | .chunkSize size => { w with writeChunkSize := size }
  | .other _ _ => w

/-- The packet of a message that is not dropped. -/
def encodePacket (w : WriteState) (header : Header) (message : Event) :
    Option Bytes × WriteState :=
  let w := w.setWriteChunkSize message
  match message.encodeMessage with
  | none => (none, w)
  | some data =>
      let header := { header with size := UInt32.ofNat data.length }
      let channel := w.channels header.channelId
      let (head, written) := encodeHeader channel header
      (some (head ++ putChunks w.writeChunkSize (continuation written)
          (numChunks data.length w.writeChunkSize - 1) data),
        w.setChannel header.channelId (channel.wrote header))

end RTMP

end GroupVoip
