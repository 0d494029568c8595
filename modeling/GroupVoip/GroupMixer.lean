import GroupVoip.IdLookup
import GroupVoip.Library.WireBytes

/-!
# GroupMixer

The mixed frames and the karaoke frames come back as FLV tags.  `GroupMixer`
walks over the tags of a frame and hands each to the all-in-one connection as
an RTMP message.
-/

namespace GroupVoip

namespace GroupMixer

def KARAOKE_DELAYED_STREAM_NAME : JavaString := .ascii "karaoke_delayed"

end GroupMixer

/-- An index beyond the end of a Java array. -/
inductive ArrayFailure where
  | indexOutOfBounds
deriving DecidableEq, Repr

namespace RTMP

def TYPE_AUDIO_DATA : UInt8 := 0x08
def TYPE_VIDEO_DATA : UInt8 := 0x09
def TYPE_STREAM_METADATA : UInt8 := 0x12
def SOURCE_TYPE_LIVE : UInt8 := 0x01

structure Header where
  dataType : UInt8
  channelId : Nat
  size : UInt32
  streamId : Int
  timerBase : UInt32
  timerDelta : UInt32
  extendedTimestamp : UInt32
deriving DecidableEq, Repr

inductive EventKind where
  | audioData
  | videoData
  | notify
deriving DecidableEq, Repr

/-- A `Packet`: its header and its event, which repeats the header. -/
structure Packet where
  header : Header
  kind : EventKind
  timestamp : UInt32
  sourceType : UInt8
  data : Bytes
deriving DecidableEq, Repr

end RTMP

namespace GroupMixer

open RTMP Library.WireBytes

/-- What a frame leads to: a message for the all-in-one connection, or a
message for the mixer. -/
inductive FrameCall where
  | handleMessageReceived (msg : Packet)
  | pushInputMessage (streamName : JavaString) (msgType : UInt8) (buf : Bytes)
      (eventTime : UInt32)
deriving DecidableEq, Repr

def arrayAt (flvFrame : Bytes) (index : Nat) : Except ArrayFailure UInt8 :=
  match flvFrame[index]? with
  | some b => .ok b
  | none => .error .indexOutOfBounds

/-- `put(data, index, len)` into a new buffer of `len` bytes. -/
def dataRemaining (flvFrame : Bytes) (index len : Nat) :
    Except ArrayFailure Bytes :=
  if index + len ≤ flvFrame.length then .ok ((flvFrame.drop index).take len)
  else .error .indexOutOfBounds

/-- The type, the size and the timestamp of the tag at an index. -/
def readTagHead (flvFrame : Bytes) (curIndex : Nat) :
    Except ArrayFailure (UInt8 × UInt32 × UInt32) := do
  let msgType ← arrayAt flvFrame curIndex
  let b1 ← arrayAt flvFrame (curIndex + 1)
  let b2 ← arrayAt flvFrame (curIndex + 2)
  let b3 ← arrayAt flvFrame (curIndex + 3)
  let b4 ← arrayAt flvFrame (curIndex + 4)
  let b5 ← arrayAt flvFrame (curIndex + 5)
  let b6 ← arrayAt flvFrame (curIndex + 6)
  let b7 ← arrayAt flvFrame (curIndex + 7)
  return (msgType, join3 b1 b2 b3, join3 b4 b5 b6 ||| (b7.toUInt32 <<< 24))

def newHeader (streamId : Int) (msgType : UInt8)
    (msgSize msgTimestamp : UInt32) : Header where
  dataType := msgType
  channelId := 3
  size := msgSize
  streamId := streamId
  timerBase := 0
  timerDelta := msgTimestamp
  extendedTimestamp := 0

def newPacket (streamId : Int) (msgType : UInt8) (kind : EventKind)
    (msgSize msgTimestamp : UInt32) (data : Bytes) : Packet where
  header := newHeader streamId msgType msgSize msgTimestamp
  kind := kind
  timestamp := msgTimestamp
  sourceType := SOURCE_TYPE_LIVE
  data := data

/-- The audio and the video case: the delayed karaoke goes to the mixer,
too. -/
def streamCalls (streamId : Int) (msgType : UInt8) (kind : EventKind)
    (msgSize msgTimestamp : UInt32) (data : Bytes)
    (isDelayedKaraoke : Bool) : List FrameCall :=
  .handleMessageReceived
      (newPacket streamId msgType kind msgSize msgTimestamp data) ::
    if isDelayedKaraoke then
      [.pushInputMessage KARAOKE_DELAYED_STREAM_NAME msgType data msgTimestamp]
    else []

/-- The calls for one tag, and the index behind it. -/
def onTag (streamId : Int) (flvFrame : Bytes) (isDelayedKaraoke : Bool)
    (curIndex : Nat) : Except ArrayFailure (List FrameCall × Nat) := do
  let (msgType, msgSize, msgTimestamp) ← readTagHead flvFrame curIndex
  let curIndex := curIndex + 11
  let next := curIndex + (msgSize.toNat + 4)
  if msgType = TYPE_AUDIO_DATA then
    let data ← dataRemaining flvFrame curIndex msgSize.toNat
    return (streamCalls streamId msgType .audioData msgSize msgTimestamp data
      isDelayedKaraoke, next)
  else if msgType = TYPE_VIDEO_DATA then
    let data ← dataRemaining flvFrame curIndex msgSize.toNat
    return (streamCalls streamId msgType .videoData msgSize msgTimestamp data
      isDelayedKaraoke, next)
  else if msgType = TYPE_STREAM_METADATA then
    let data ← dataRemaining flvFrame curIndex msgSize.toNat
    return ([.handleMessageReceived
      (newPacket streamId msgType .notify msgSize msgTimestamp data)], next)
  else return ([], next)

/-- The loop over the tags: the calls made, and the index it ends with or the
exception that ends it.  A tag has fifteen bytes or more, so a turn for each
byte is enough. -/
def onTags (streamId : Int) (flvFrame : Bytes) (flvFrameLen : Nat)
    (isDelayedKaraoke : Bool) :
    Nat → Nat → List FrameCall × Except ArrayFailure Nat
  | 0, curIndex => ([], .ok curIndex)
  | turns + 1, curIndex =>
      if curIndex < flvFrameLen then
        match onTag streamId flvFrame isDelayedKaraoke curIndex with
        | .error failed => ([], .error failed)
        | .ok (calls, next) =>
            let (later, ended) :=
              onTags streamId flvFrame flvFrameLen isDelayedKaraoke turns next
            (calls ++ later, ended)
      else ([], .ok curIndex)

/-- Whether the frame starts with the header of a file. -/
def startsWithFlv (flvFrame : Bytes) : Except ArrayFailure Bool := do
  if (← arrayAt flvFrame 0) = 70 then
    if (← arrayAt flvFrame 1) = 76 then
      return (← arrayAt flvFrame 2) = 86
    else return false
  else return false

def onFrameGenerated (streamId : Int) (flvFrame : Bytes) (flvFrameLen : Nat)
    (isDelayedKaraoke : Bool) : List FrameCall × Except ArrayFailure Nat :=
  if streamId ≠ -1 then
    match startsWithFlv flvFrame with
    | .error failed => ([], .error failed)
    | .ok hasHeader =>
        onTags streamId flvFrame flvFrameLen isDelayedKaraoke flvFrameLen
          (if hasHeader then 13 else 0)
  else ([], .ok 0)

end GroupMixer

end GroupVoip
