import GroupVoip.FLVOutput
import Mathlib.Data.List.FinRange

/-!
# FLVSegmentOutput

The packets of one instant, one for each output stream, become one segment.
The stream behind the last slot is the mix of all; the reader expects a record
for it in every segment, so it gets an empty one when it has no packet.
-/

namespace GroupVoip

open Library.WireBytes

/-- An index into the arrays of size `MAX_XCODING_INSTANCES+1`. -/
abbrev OutputSlot : Type := Fin (MAX_XCODING_INSTANCES + 1)

/-- `outputBuffer_` and `output_`. -/
structure FLVSegmentOutput where
  outputBuffer : OutputSlot → Option Bytes := fun _ => none
  output : OutputSlot → FLVOutput

namespace FLVSegmentOutput

def start (acid : UInt8) : FLVSegmentOutput where
  output := fun _ => { acid := acid }

def packageVideoFrame (o : FLVSegmentOutput) (videoPacket : Bytes)
    (ts : UInt32) (bIsKeyFrame : Bool) (streamId : OutputSlot)
    (videoRect : Option VideoRect) : Except Abort FLVSegmentOutput := do
  let (buffer, output) ←
    (o.output streamId).packageVideoFrame videoPacket ts bIsKeyFrame videoRect
  return {
    outputBuffer := Function.update o.outputBuffer streamId (some buffer)
    output := Function.update o.output streamId output }

def packageAudioFrame (o : FLVSegmentOutput) (audioPacket : Bytes)
    (ts : UInt32) (streamId : OutputSlot) : Except Abort FLVSegmentOutput := do
  let (buffer, output) ← (o.output streamId).packageAudioFrame audioPacket ts
  return {
    outputBuffer := Function.update o.outputBuffer streamId (some buffer)
    output := Function.update o.output streamId output }

def slots : List OutputSlot :=
  List.finRange (MAX_XCODING_INSTANCES + 1)

/-- The bytes to send for a stream; a null buffer has none. -/
def pending (o : FLVSegmentOutput) (i : OutputSlot) : Bytes :=
  (o.outputBuffer i).getD []

/-- What the first loop counts. -/
structure FrameCount where
  streamMask : UInt32 := 0
  totalLen : UInt32 := 0
  totalStreams : UInt32 := 0
deriving DecidableEq, Repr

def countStream (o : FLVSegmentOutput) (c : FrameCount) (i : OutputSlot) :
    FrameCount :=
  if o.pending i ≠ [] then
    { streamMask :=
        if i.val ≠ MAX_XCODING_INSTANCES then
          c.streamMask ||| (1 <<< UInt32.ofNat i.val)
        else c.streamMask
      totalLen := c.totalLen + UInt32.ofNat (o.pending i).length
      totalStreams := c.totalStreams + 1 }
  else if i.val = MAX_XCODING_INSTANCES ∧ c.totalStreams > 0 then
    { c with totalStreams := c.totalStreams + 1 }
  else c

def countStreams (o : FLVSegmentOutput) : FrameCount :=
  slots.foldl o.countStream {}

/-- A record: the stream's number, the length of its data, and the data. -/
def streamRecord (i : OutputSlot) (data : Bytes) : Bytes :=
  [UInt8.ofNat i.val] ++ toLE 4 data.length ++ data

/-- A turn of the second loop. -/
def streamPiece (o : FLVSegmentOutput) (i : OutputSlot) : Bytes :=
  if o.pending i ≠ [] then streamRecord i (o.pending i)
  else if i.val = MAX_XCODING_INSTANCES then streamRecord i []
  else []

def reset (o : FLVSegmentOutput) : FLVSegmentOutput :=
  { o with outputBuffer := fun i =>
      if o.pending i ≠ [] ∨ i.val = MAX_XCODING_INSTANCES then none
      else o.outputBuffer i }

def getOneFrameForAllStreams (o : FLVSegmentOutput) :
    Except Abort (Option Bytes × FLVSegmentOutput) :=
  let c := o.countStreams
  if c.totalLen > 0 then do
    let result ← newBuffer (7 + 5 * c.totalStreams + c.totalLen).toNat
      ([[83, 71, 79], toLE 4 c.streamMask.toNat] ++ slots.map o.streamPiece)
    return (some result, o.reset)
  else return (none, o)

end FLVSegmentOutput

end GroupVoip
