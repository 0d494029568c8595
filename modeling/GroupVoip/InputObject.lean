import GroupVoip.CodecInfo
import GroupVoip.Library.Runs
import GroupVoip.Library.WireBytes

/-!
# InputObject

The Java side of the input wire: one audio or video message becomes one
segment for the mixcoder, with a record for every stream of the group.  Java
`int`s are `UInt32`s here; the code only shifts and masks them.
-/

namespace GroupVoip

open Library.Runs Library.WireBytes

inductive JavaException where
  | bufferOverflow
  | illegalArgument
deriving DecidableEq, Repr

/-- A `java.nio.ByteBuffer` being written: its capacity and the bytes before
its position. -/
structure ByteBuffer where
  capacity : Nat
  written : Bytes := []
deriving DecidableEq, Repr

namespace ByteBuffer

def allocate (capacity : Int) : Except JavaException ByteBuffer :=
  if capacity < 0 then .error .illegalArgument
  else .ok { capacity := capacity.toNat }

/-- `put` and `putInt`: all of the bytes, or an exception. -/
def put (buffer : ByteBuffer) (bytes : Bytes) :
    Except JavaException ByteBuffer :=
  if buffer.written.length + bytes.length ≤ buffer.capacity then
    .ok { buffer with written := buffer.written ++ bytes }
  else .error .bufferOverflow

/-- Puts that fit write their bytes one after the other. -/
theorem run_put {puts : List Bytes} :
    ∀ {buffer : ByteBuffer},
      buffer.written.length + puts.flatten.length ≤ buffer.capacity →
      run put buffer puts =
        .ok { buffer with written := buffer.written ++ puts.flatten } := by
  induction puts with
  | nil =>
      intro buffer _
      simp
  | cons bytes rest inductionHypothesis =>
      intro buffer fits
      simp only [List.flatten_cons, List.length_append] at fits
      have firstFits :
          buffer.written.length + bytes.length ≤ buffer.capacity := by
        omega
      rw [run_cons, put, if_pos firstFits]
      simp only [Except.bind]
      rw [inductionHypothesis (by simp only [List.length_append]; omega)]
      simp

end ByteBuffer

/-- The fields of `InputObject` that `toByteBuffer` reads. -/
structure InputObject where
  msgType : UInt32
  flvFrame : Bytes
  eventTime : UInt32
deriving DecidableEq, Repr

/-- What `IdLookup.lookupMixerIdAndMask` returns. -/
structure MixerLookup where
  mixerId : UInt32
  mask : UInt32
  streams : Int
deriving DecidableEq, Repr

def kDesktopStreamSource : UInt32 := 1

namespace InputObject

def toByte (value : UInt32) : UInt8 :=
  value.toUInt8

def putInt (value : UInt32) : Bytes :=
  toLE 4 value.toNat

/-- The puts of the segment header, of the active stream's record and of its
FLV tag. -/
def activePuts (input : InputObject) (lookup : MixerLookup) : List Bytes :=
  let dataLen := UInt32.ofNat input.flvFrame.length
  let flvFrameLen := 11 + dataLen + 4
  [[83], [71], [73], [0],
    putInt lookup.mask,
    [toByte ((lookup.mixerId <<< 3) ||| kDesktopStreamSource)],
    [0],
    putInt flvFrameLen,
    [toByte input.msgType],
    [toByte ((dataLen >>> 16) &&& 0xff)],
    [toByte ((dataLen >>> 8) &&& 0xff)],
    [toByte (dataLen &&& 0xff)],
    [toByte ((input.eventTime >>> 16) &&& 0xff)],
    [toByte ((input.eventTime >>> 8) &&& 0xff)],
    [toByte (input.eventTime &&& 0xff)],
    [toByte ((input.eventTime >>> 24) &&& 0xff)],
    [0], [0], [0],
    input.flvFrame,
    putInt 0]

def otherPuts (lookup : MixerLookup) (i : Nat) : List Bytes :=
  let iMaskedVal : UInt32 := 1 <<< UInt32.ofNat i
  if UInt32.ofNat i ≠ lookup.mixerId ∧
      lookup.mask &&& iMaskedVal = iMaskedVal then
    [[toByte ((UInt32.ofNat i <<< 3) ||| kDesktopStreamSource)], [0], putInt 0]
  else []

def puts (input : InputObject) (lookup : MixerLookup) : List Bytes :=
  input.activePuts lookup ++ (List.range 32).flatMap (otherPuts lookup)

/-- The `int` that `ByteBuffer.allocate` is called with. -/
def totalLen (input : InputObject) (lookup : MixerLookup) : Int :=
  let flvFrameLen : Int := 11 + input.flvFrame.length + 4
  let segHeaderLen : Int := 8 + 6 * lookup.streams
  (Int32.ofInt (flvFrameLen + segHeaderLen)).toInt

/-- `InputObject.toByteBuffer` for a stream that has an entry. -/
def toByteBuffer (input : InputObject) (lookup : MixerLookup) :
    Except JavaException ByteBuffer :=
  (ByteBuffer.allocate (input.totalLen lookup)).bind fun flvSegment =>
    run ByteBuffer.put flvSegment (input.puts lookup)

end InputObject

end GroupVoip
