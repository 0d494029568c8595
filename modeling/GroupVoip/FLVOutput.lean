import GroupVoip.CodecInfo
import GroupVoip.Library.WireBytes

/-!
# FLVOutput

One writer for each output stream.  It turns an encoded packet into an FLV
tag, and puts the file header with its metadata tag in front of the first one.
-/

namespace GroupVoip

open Library.WireBytes

def kMP3 : UInt8 := 2
def kMP316kHz : UInt8 := 15

structure VideoRect where
  x : Int
  y : Int
  width : Int
  height : Int
deriving DecidableEq, Repr

/-- A new buffer of `size` bytes, written piece after piece.  Too many bytes
are out of its bounds, and too few leave some of it undefined. -/
def newBuffer (size : Nat) (pieces : List Bytes) : Except Abort Bytes :=
  if pieces.flatten.length = size then .ok pieces.flatten
  else .error .undefinedBehaviour

def audioSpeexTagByte : UInt8 := 0xbe
def audioMp316kTagByte : UInt8 := 0xfe
def audioMp3TagByte : UInt8 := 0x2f

/-- The file header, the head of the metadata tag, and the end of the tag. -/
def flvHeader : Bytes :=
  [0x46, 0x4c, 0x56, 0x01, 0x05,
    0x00, 0x00, 0x00, 0x09,
    0x00, 0x00, 0x00, 0x00,
    0x12, 0x00, 0x01, 0x23, 0x00, 0x00, 0x00, 0x00, 0x00, 0x00, 0x00,
    0x02,
    0x00, 0x0a, 0x6f, 0x6e, 0x4d, 0x65, 0x74, 0x61, 0x44, 0x61, 0x74, 0x61,
    0x08, 0x00, 0x00, 0x00, 0x0d,
    0x00, 0x08, 0x64, 0x75, 0x72, 0x61, 0x74, 0x69, 0x6f, 0x6e,
    0x00, 0x00, 0x00, 0x00, 0x00, 0x00, 0x00, 0x00, 0x00,
    0x00, 0x0C, 0x61, 0x75, 0x64, 0x69, 0x6F, 0x63, 0x6F, 0x64, 0x65, 0x63,
    0x69, 0x64,
    0x00, 0x40, 0x00, 0x00, 0x00, 0x00, 0x00, 0x00, 0x00,
    0x00, 0x0D, 0x61, 0x75, 0x64, 0x69, 0x6F, 0x64, 0x61, 0x74, 0x61, 0x72,
    0x61, 0x74, 0x65,
    0x00, 0x40, 0x3B, 0xCC, 0xCC, 0xCC, 0xCC, 0xCC, 0xCD,
    0x00, 0x0F, 0x61, 0x75, 0x64, 0x69, 0x6F, 0x73, 0x61, 0x6D, 0x70, 0x6C,
    0x65, 0x72, 0x61, 0x74, 0x65,
    0x00, 0x40, 0xE5, 0x88, 0x80, 0x00, 0x00, 0x00, 0x00,
    0x00, 0x0F, 0x61, 0x75, 0x64, 0x69, 0x6F, 0x73, 0x61, 0x6D, 0x70, 0x6C,
    0x65, 0x73, 0x69, 0x7A, 0x65,
    0x00, 0x40, 0x30, 0x00, 0x00, 0x00, 0x00, 0x00, 0x00,
    0x00, 0x06, 0x73, 0x74, 0x65, 0x72, 0x65, 0x6F,
    0x01, 0x01,
    0x00, 0x0c, 0x76, 0x69, 0x64, 0x65, 0x6f, 0x63, 0x6f, 0x64, 0x65, 0x63,
    0x69, 0x64,
    0x00, 0x40, 0x20, 0x00, 0x00, 0x00, 0x00, 0x00, 0x00,
    0x00, 0x05, 0x77, 0x69, 0x64, 0x74, 0x68,
    0x00, 0x40, 0x84, 0x00, 0x00, 0x00, 0x00, 0x00, 0x00,
    0x00, 0x06, 0x68, 0x65, 0x69, 0x67, 0x68, 0x74,
    0x00, 0x40, 0x7e, 0x00, 0x00, 0x00, 0x00, 0x00, 0x00,
    0x00, 0x09, 0x66, 0x72, 0x61, 0x6d, 0x65, 0x72, 0x61, 0x74, 0x65,
    0x00, 0x00, 0x00, 0x00, 0x00, 0x00, 0x00, 0x00, 0x00,
    0x00, 0x0d, 0x76, 0x69, 0x64, 0x65, 0x6f, 0x64, 0x61, 0x74, 0x61, 0x72,
    0x61, 0x74, 0x65,
    0x00, 0x00, 0x00, 0x00, 0x00, 0x00, 0x00, 0x00, 0x00,
    0x00, 0x07, 0x65, 0x6e, 0x63, 0x6f, 0x64, 0x65, 0x72,
    0x02, 0x00, 0x0b, 0x4c, 0x61, 0x76, 0x66, 0x35, 0x32, 0x2e, 0x38, 0x37,
    0x2e, 0x31,
    0x00, 0x08, 0x66, 0x69, 0x6c, 0x65, 0x73, 0x69, 0x7a, 0x65,
    0x00, 0x00, 0x00, 0x00, 0x00, 0x00, 0x00, 0x00, 0x00,
    0x00, 0x00, 0x09,
    0x00, 0x00, 0x01, 0x2E]

/-- `(u8)((x>>shift)&0xff)` of a 32-bit number. -/
def byteAt (x : UInt32) (shift : UInt32) : UInt8 :=
  ((x >>> shift) &&& 0xff).toUInt8

/-- Two bytes of a coordinate, the higher one first. -/
def coordinate (x : Int) : Bytes :=
  [byteAt (Int32.ofInt x).toUInt32 8, byteAt (Int32.ofInt x).toUInt32 0]

/-- The eleven bytes in front of the data of a tag. -/
def tagHead (tagType : UInt8) (dataLen ts : UInt32) : Bytes :=
  [tagType, byteAt dataLen 16, byteAt dataLen 8, byteAt dataLen 0,
    byteAt ts 16, byteAt ts 8, byteAt ts 0, byteAt ts 24, 0, 0, 0]

/-- The previous tag size behind a tag with `dataLen` bytes of data. -/
def prevTagSize (dataLen : UInt32) : Bytes :=
  [byteAt (11 + dataLen) 24, byteAt (11 + dataLen) 16,
    byteAt (11 + dataLen) 8, byteAt (11 + dataLen) 0]

/-- The members of `FLVOutput` that its methods read: the audio codec of its
setting, and whether the header went out. -/
structure FLVOutput where
  acid : UInt8
  flvHeaderSent : Bool := false
deriving DecidableEq, Repr

namespace FLVOutput

def newHeader : Bytes :=
  flvHeader

def rectBytes : Option VideoRect → Bytes
  | none => coordinate 0 ++ coordinate 0 ++ coordinate 0 ++ coordinate 0
  | some r =>
      coordinate r.x ++ coordinate r.y ++ coordinate r.width ++
        coordinate r.height

def audioTagByte (o : FLVOutput) : UInt8 :=
  if o.acid = kMP316kHz then audioMp316kTagByte
  else if o.acid = kMP3 then audioMp3TagByte
  else audioSpeexTagByte

/-- The header goes in front of the first frame. -/
def withHeader (o : FLVOutput) (frame : Bytes) : Bytes × FLVOutput :=
  if o.flvHeaderSent then (frame, o)
  else (newHeader ++ frame, { o with flvHeaderSent := true })

def packageVideoFrame (o : FLVOutput) (videoPacket : Bytes) (ts : UInt32)
    (bIsKeyFrame : Bool) (videoRect : Option VideoRect) :
    Except Abort (Bytes × FLVOutput) := do
  let videoDataLen := UInt32.ofNat videoPacket.length + 9
  let videoFrame ← newBuffer (11 + videoDataLen + 4).toNat
    [tagHead 0x09 videoDataLen ts, [if bIsKeyFrame then 0x18 else 0x28],
      rectBytes videoRect, videoPacket, prevTagSize videoDataLen]
  return o.withHeader videoFrame

def packageAudioFrame (o : FLVOutput) (audioPacket : Bytes) (ts : UInt32) :
    Except Abort (Bytes × FLVOutput) := do
  let audioDataLen := UInt32.ofNat audioPacket.length + 1
  let audioFrame ← newBuffer (11 + audioDataLen + 4).toNat
    [tagHead 0x08 audioDataLen ts, [o.audioTagByte], audioPacket,
      prevTagSize audioDataLen]
  return o.withHeader audioFrame

end FLVOutput

end GroupVoip
