import Mathlib.Data.Fin.Basic
import Mathlib.Data.Fintype.Basic
import Mathlib.Logic.Function.Basic
import Mathlib.Tactic.Common

/-!
# Shared data of the mixcoder

The enumerations of `CodecInfo.h`, the values that flow from the parsers to
the mixers, and the ways in which the program can stop.
-/

namespace GroupVoip

abbrev Bytes : Type := List UInt8

abbrev MAX_XCODING_INSTANCES : Nat := 32

/-- An index into the arrays of size `MAX_XCODING_INSTANCES`. -/
abbrev Slot : Type := Fin MAX_XCODING_INSTANCES

/-- The slot with a number; numbers beyond the last slot start over. -/
def Slot.ofNat (i : Nat) : Slot :=
  ⟨i % MAX_XCODING_INSTANCES, Nat.mod_lt i (by decide)⟩

inductive SpecialProperty where
  | kRawData
  | kSpsPps
  | kEndSeq
  | kSeqHeader
deriving DecidableEq, Repr

inductive StreamSource where
  | kUnknownStreamSource
  | kDesktopStreamSource
  | kMobileStreamSource
  | kTotalStreamSource
deriving DecidableEq, Repr

def StreamSource.ofBits : Nat → StreamSource
  | 0 => .kUnknownStreamSource
  | 1 => .kDesktopStreamSource
  | 2 => .kMobileStreamSource
  | _ => .kTotalStreamSource

def kTotalStreamSource : Nat := 3

/-- The type of an FLV tag.  The first byte of a tag is cast to the
enumeration without a test, so other values are possible. -/
inductive StreamType where
  | kUnknownStreamType
  | kAudioStreamType
  | kVideoStreamType
  | kDataStreamType
  | unlisted (value : UInt8)
deriving DecidableEq, Repr

def StreamType.ofByte (value : UInt8) : StreamType :=
  if value = 0 then .kUnknownStreamType
  else if value = 8 then .kAudioStreamType
  else if value = 9 then .kVideoStreamType
  else if value = 18 then .kDataStreamType
  else .unlisted value

def kAVCVideoPacket : UInt8 := 7

def kAVCSeqHeader : UInt8 := 0
def kAVCNalu : UInt8 := 1
def kAVCEndOfSeq : UInt8 := 2

def kAAC : UInt8 := 10
def kSpeex : UInt8 := 11

def kAACSeqHeader : UInt8 := 0

def k16kHz : UInt8 := 5
def kSnd16Bit : UInt8 := 1
def kSndMono : UInt8 := 0

def MP3_FRAME_SAMPLE_SIZE : Nat := 1152
def MP3_SAMPLE_PER_SEC : Nat := 44100

/-- `MAX_S32` of `Units.h`, which is not the largest `s32`. -/
def MAX_S32 : Int32 := 0x0fffffff

def MAX_U32 : UInt32 := 0xffffffff

inductive StreamStatus where
  | kStreamOffline
  | kStreamOnlineNotStarted
  | kStreamOnlineStarted
deriving DecidableEq, Repr

/-- The assertions of the modelled functions, named after what they ask. -/
inductive Assertion where
  | segmentMagic
  | evenLayout
  | numStreamsInRange
  | curStreamIdInRange
  | curStreamSourceInRange
  | specialPropertyZero
  | avcVideoOnly
  | videoAccessUnit
  | avcAccessUnit
  | decoderSizeKnown
  | frameWidthMatches
  | frameHeightMatches
  | frameWithinAudioBucket
  | audioBucketAhead
  | audioReadyWithVideo
  | swsContextMade
  | validStreamsInRange
  | validStreamsCounted
deriving DecidableEq, Repr

/-- Why the program stops: a failed assertion, `std::out_of_range`, an
operation that the language leaves undefined, or a codec that gives up. -/
inductive Abort where
  | assertion (failed : Assertion)
  | outOfRange
  | undefinedBehaviour
  | codec
deriving DecidableEq, Repr

/-- `assert` of the default build. -/
def assertThat (condition : Bool) (asked : Assertion) : Except Abort Unit :=
  if condition then .ok () else .error (.assertion asked)

/-- A copy outside of its buffer is undefined. -/
def inBounds {τ : Type} : Option τ → Except Abort τ
  | some copied => .ok copied
  | none => .error .undefinedBehaviour

/-- One audio or video message.  `new AccessUnit()` clears every field. -/
structure AccessUnit where
  pts : UInt32 := 0
  payload : Option Bytes := none
  st : StreamType := .kUnknownStreamType
  ctype : UInt8 := 0
  sp : SpecialProperty := .kRawData
  isKey : Bool := false
deriving DecidableEq, Repr

structure VideoStreamSetting where
  width : Int := 0
  height : Int := 0
  ss : StreamSource := .kUnknownStreamSource
  bIsValid : Bool := false
deriving DecidableEq, Repr

/-- A decoded picture, or the place of an SPS/PPS header in the queue.  The
planes are null until a picture is copied in. -/
structure VideoRawData where
  rawVideoPlanes : Fin 3 → Option Bytes := fun _ => none
  rawVideoStrides : Fin 3 → Int := fun _ => 0
  rawVideoSettings : VideoStreamSetting := {}
  pts : UInt32 := 0
  sp : SpecialProperty := .kRawData
deriving DecidableEq

structure AudioRawData where
  rawAudioFrame : Bytes
  bIsStereo : Bool
  bIsValid : Bool := false
  ss : StreamSource := .kUnknownStreamSource
  pts : UInt32
deriving DecidableEq, Repr

end GroupVoip
