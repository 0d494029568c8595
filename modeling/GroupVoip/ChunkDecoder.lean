import GroupVoip.ChunkEncoder
import GroupVoip.Library.Restarting

/-!
# RTMPProtocolDecoder

The decoder looks at the bytes that have arrived.  When the header or the data
of a chunk are not all there, it goes back to the front of the chunk and asks
for more, but the header it read stays the last header of the channel.
-/

namespace GroupVoip

namespace RTMP

open Library.WireBytes Library.Restarting

def HANDSHAKE_SIZE : Nat := 1536

/-- A packet that is being put together. -/
structure ReadPacket where
  header : Header
  data : Bytes := []
deriving DecidableEq, Repr

/-- The members of `ChannelInfo` for reading. -/
structure ReadChannel where
  readHeader : Option Header := none
  readPacketHeader : Option Header := none
  readPacket : Option ReadPacket := none
deriving DecidableEq, Repr

inductive StateCode where
  | STATE_CONNECT
  | STATE_HANDSHAKE
  | STATE_CONNECTED
  | STATE_DISCONNECTED
deriving DecidableEq, Repr

/-- The state of a connection that the decoder uses. -/
structure ReadState where
  stateCode : StateCode := .STATE_CONNECT
  channels : Nat → ReadChannel := fun _ => {}
  readChunkSize : Int := 128

/-- A packet as it is handed on: its header, the timestamp of its message and
its data. -/
structure ReceivedPacket where
  header : Header
  timestamp : UInt32
  data : Bytes
deriving DecidableEq, Repr

inductive DecodedObject where
  | handshake (hs : Bytes)
  | packet (packet : ReceivedPacket)
deriving DecidableEq, Repr

def ReadState.setChannel (r : ReadState) (channelId : Nat)
    (channel : ReadChannel) : ReadState :=
  { r with channels := Function.update r.channels channelId channel }

/-- The length of a header, as far as it can be told from the bytes. -/
def headerLengthOf (headerSize : HeaderType) (byteCount : Nat)
    (lastHeader : Option Header) (bytes : Bytes) : Nat :=
  let headerLength := getHeaderLength headerSize + (byteCount - 1)
  match headerSize with
  | .HEADER_CONTINUE =>
      if lastHeader.any fun last => last.extendedTimestamp ≠ 0 then
        headerLength + 4
      else headerLength
  | _ =>
      if bytes.length ≥ headerLength ∧
        readUnsignedMediumInt ((bytes.drop byteCount).take 3) = 0xffffff then
          headerLength + 4
      else headerLength

/-- `getUnsignedInt() & Integer.MAX_VALUE` -/
def readExtended (bytes : Bytes) : UInt32 :=
  UInt32.ofNat (ofBE (bytes.take 4)) &&& 0x7fffffff

/-- The time of a header and its extended timestamp: both the field, or both
what follows at `offset`. -/
def readTimer (fields : Bytes) (offset : Nat) : UInt32 × UInt32 :=
  let timeValue := readUnsignedMediumInt (fields.take 3)
  if timeValue = 0xffffff then
    (readExtended (fields.drop offset), readExtended (fields.drop offset))
  else (timeValue, 0)

/-- The fields behind a basic header; no header but a new one can do without
the last one. -/
def decodeHeader (headerSize : HeaderType) (channelId : Nat) (fields : Bytes)
    (lastHeader : Option Header) : Option Header :=
  match headerSize, lastHeader with
  | .HEADER_NEW, _ =>
      let (timeValue, extendedTimestamp) := readTimer fields 11
      some {
        dataType := fields.getD 6 0
        channelId := channelId
        size := readUnsignedMediumInt ((fields.drop 3).take 3)
        streamId := readReverseInt ((fields.drop 7).take 4)
        timerBase := timeValue
        timerDelta := 0
        extendedTimestamp := extendedTimestamp }
  | _, none => none
  | .HEADER_SAME_SOURCE, some lastHeader =>
      let (timeValue, extendedTimestamp) := readTimer fields 7
      some {
        dataType := fields.getD 6 0
        channelId := channelId
        size := readUnsignedMediumInt ((fields.drop 3).take 3)
        streamId := lastHeader.streamId
        timerBase := lastHeader.timerBase
        timerDelta := timeValue
        extendedTimestamp := extendedTimestamp }
  | .HEADER_TIMER_CHANGE, some lastHeader =>
      let (timeValue, extendedTimestamp) := readTimer fields 3
      some {
        dataType := lastHeader.dataType
        channelId := channelId
        size := lastHeader.size
        streamId := lastHeader.streamId
        timerBase := lastHeader.timerBase
        timerDelta := timeValue
        extendedTimestamp := extendedTimestamp }
  | .HEADER_CONTINUE, some lastHeader =>
      some {
        dataType := lastHeader.dataType
        channelId := channelId
        size := lastHeader.size
        streamId := lastHeader.streamId
        timerBase := lastHeader.timerBase
        timerDelta := lastHeader.timerDelta
        extendedTimestamp :=
          if lastHeader.extendedTimestamp ≠ 0 then readExtended fields
          else 0 }

/-- The types whose body is read as AMF values. -/
def amfTypes : List UInt8 :=
  [TYPE_INVOKE, TYPE_NOTIFY, TYPE_FLEX_SHARED_OBJECT, TYPE_SHARED_OBJECT,
    TYPE_FLEX_MESSAGE, TYPE_FLEX_STREAM_SEND]

/-- The bytes that `decodePing` reads. -/
def pingLength (body : Bytes) : Nat :=
  if body.length < 2 then 2
  else
    match ofBE (body.take 2) with
    | 3 => 10
    | 26 => 2
    | 27 => 44
    | _ => 6

/-- The bytes that `decodeMessage` reads of another body. -/
def messageLength (dataType : UInt8) (body : Bytes) : Nat :=
  if dataType ∈ [TYPE_CHUNK_SIZE, TYPE_ABORT, TYPE_BYTES_READ,
    TYPE_SERVER_BANDWIDTH] then 4
  else if dataType = TYPE_CLIENT_BANDWIDTH then 5
  else if dataType = TYPE_PING then pingLength body
  else 0

/-- What a message tells the decoder itself. -/
inductive Control where
  | none
  | chunkSize (size : Int)
  | abort (channelId : Int)

section

variable (amf : UInt8 → Int → Bytes → Bool)

/-- Whether `decodeMessage` gets by without an exception.  `amf` says so for
AMF values, by the type, the stream id and the body. -/
def readsMessage (header : Header) (body : Bytes) : Bool :=
  if header.dataType ∈ amfTypes then amf header.dataType header.streamId body
  else messageLength header.dataType body ≤ body.length

/-- `none` is the exception. -/
def readControl (header : Header) (body : Bytes) : Option Control :=
  if readsMessage amf header body then
    let value := (UInt32.ofNat (ofBE (body.take 4))).toInt32.toInt
    if header.dataType = TYPE_CHUNK_SIZE then some (.chunkSize value)
    else if header.dataType = TYPE_ABORT then some (.abort value)
    else some .none
  else none

/-- An audio or video message is later than the last message of the channel. -/
def messageTimestamp (last : Option Header) (packetHeader header : Header) :
    UInt32 :=
  match last with
  | none => header.getTimer
  | some last =>
      if (packetHeader.dataType = TYPE_AUDIO_DATA ∨
          packetHeader.dataType = TYPE_VIDEO_DATA) ∧
        diffTimestamps last.getTimer packetHeader.getTimer ≥ 0 then
          last.getTimer + 1
      else header.getTimer

/-- A failed decoder closes the connection and drops what has arrived. -/
def closed (r : ReadState) (bytes : Bytes) :
    Outcome ReadState DecodedObject :=
  .done { r with stateCode := .STATE_DISCONNECTED } bytes.length []

/-- The end of `decodePacket`, with all data of the packet there. -/
def finishPacket (r : ReadState) (channelId : Nat) (header : Header)
    (packet : ReadPacket) (bytes : Bytes) (consumed : Nat) :
    Outcome ReadState DecodedObject :=
  let channel := r.channels channelId
  match readControl amf packet.header packet.data with
  | none =>
      closed (r.setChannel channelId { channel with readPacket := none }) bytes
  | some control =>
      let r := r.setChannel channelId { channel with
        readHeader := some { header with timerBase := header.getTimer }
        readPacketHeader := some packet.header
        readPacket := none }
      let received : ReceivedPacket := {
        header := packet.header
        timestamp :=
          messageTimestamp channel.readPacketHeader packet.header header
        data := packet.data }
      match control with
      | .none => .done r consumed [.packet received]
      | .chunkSize size =>
          .done { r with readChunkSize := size } consumed [.packet received]
      | .abort aborted =>
          .done (r.setChannel aborted.toNat (if aborted < 0 then
              r.channels aborted.toNat
            else { r.channels aborted.toNat with readPacket := none }))
            consumed []

/-- The data of a chunk behind its header. -/
def readChunk (r : ReadState) (channelId : Nat) (header : Header)
    (headerLength : Nat) (bytes : Bytes) : Outcome ReadState DecodedObject :=
  let channel := r.channels channelId
  let packet := channel.readPacket.getD { header := header }
  let r := r.setChannel channelId
    { channel with readHeader := some header, readPacket := some packet }
  let readRemaining : Int := header.size.toNat - packet.data.length
  let readAmount : Int :=
    if readRemaining > r.readChunkSize then r.readChunkSize else readRemaining
  if readAmount < 0 then closed r bytes
  else if bytes.length < headerLength + readAmount.toNat then
    .wait r (headerLength + readAmount.toNat)
  else
    let packet := { packet with
      data := packet.data ++
        (bytes.drop headerLength).take readAmount.toNat }
    let consumed := headerLength + readAmount.toNat
    if packet.data.length < header.size.toNat then
      .done (r.setChannel channelId
        { r.channels channelId with readPacket := some packet }) consumed []
    else finishPacket amf r channelId header packet bytes consumed

def decodePacket (r : ReadState) (bytes : Bytes) :
    Outcome ReadState DecodedObject :=
  if bytes.length < 1 then .wait r 1
  else if bytes.length < byteCount (bytes.getD 0 0) then
    .wait r (byteCount (bytes.getD 0 0))
  else
    let basic := readBasicHeader bytes
    match HeaderType.ofValue basic.headerSize with
    | none => closed r bytes
    | some headerSize =>
        let lastHeader := (r.channels basic.channelId).readHeader
        let headerLength :=
          headerLengthOf headerSize basic.byteCount lastHeader bytes
        if bytes.length < headerLength then .wait r headerLength
        else
          match decodeHeader headerSize basic.channelId
            (bytes.drop basic.byteCount) lastHeader with
          | none => closed r bytes
          | some header =>
              readChunk amf r basic.channelId header headerLength bytes

def decodeHandshakeS1 (r : ReadState) (bytes : Bytes) :
    Outcome ReadState DecodedObject :=
  if bytes.length < HANDSHAKE_SIZE + 1 then .wait r (HANDSHAKE_SIZE + 1)
  else
    .done { r with stateCode := .STATE_HANDSHAKE } (HANDSHAKE_SIZE + 1)
      [.handshake ((bytes.drop 1).take HANDSHAKE_SIZE)]

def decodeHandshakeS2 (r : ReadState) (bytes : Bytes) :
    Outcome ReadState DecodedObject :=
  if bytes.length < HANDSHAKE_SIZE then .wait r HANDSHAKE_SIZE
  else .done { r with stateCode := .STATE_CONNECTED } HANDSHAKE_SIZE []

def decode (r : ReadState) (bytes : Bytes) :
    Outcome ReadState DecodedObject :=
  match r.stateCode with
  | .STATE_CONNECTED => decodePacket amf r bytes
  | .STATE_CONNECT => decodeHandshakeS1 r bytes
  | .STATE_HANDSHAKE => decodeHandshakeS2 r bytes
  | .STATE_DISCONNECTED => .done r bytes.length []

/-- `decodeBuffer` on what is left of the reads before and a new one. -/
def decodeBuffer (r : Reader UInt8 ReadState) (bytes : Bytes) :
    Reader UInt8 ReadState × List DecodedObject :=
  read (decode amf) r bytes

end

end RTMP

end GroupVoip
