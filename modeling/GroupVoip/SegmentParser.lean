import GroupVoip.Library.Emitter
import GroupVoip.SegmentReader

/-!
# SegmentParser

The Java side of the output wire.  It cuts the mixcoder's output into segments
and passes the data of each record to its delegate.  How many records a
segment has is not sent: the reader counts the bits of the mask, and one more
record for the mix of all streams.
-/

namespace GroupVoip

open Library.Framing Library.WireBytes

/-- Why `readData` does not return: an `assert` of a virtual machine that
checks them, a `put` beyond the buffer, or a loop without an end. -/
inductive ReaderFailure where
  | assertion
  | bufferOverflow
  | endlessLoop
deriving DecidableEq, Repr

inductive SegmentParsingState where
  | SEARCHING_SEGHEADER
  | SEARCHING_STREAM_MASK
  | SEARCHING_STREAM_HEADER
  | SEARCHING_STREAM_DATA
deriving DecidableEq, Repr

structure SegmentParser where
  parsingState : SegmentParsingState := .SEARCHING_SEGHEADER
  curStreamId : Int := 0
  curStreamLen : Int := 0
  curStreamCnt : Int := 0
  numStreams : Int := 0
deriving DecidableEq, Repr

/-- The arguments of an `onFrameParsed` call; `frame` is its buffer up to the
limit. -/
structure ParsedFrame where
  mixerId : Int
  frame : Bytes
  len : Int
deriving DecidableEq, Repr

namespace SegmentParser

def curBufCapacity : Nat := 2 ^ 20

/-- A Java `assert`, on a virtual machine with assertions enabled or not. -/
def javaAssert (enableAssertions condition : Bool) :
    Except ReaderFailure Unit :=
  if enableAssertions && !condition then .error .assertion else .ok ()

/-- The number of bytes a state waits for.  Data that does not fit in the
buffer is read up to the `put` that overflows it. -/
def need (s : SegmentParser) : Nat :=
  match s.parsingState with
  | .SEARCHING_SEGHEADER => 3
  | .SEARCHING_STREAM_MASK => 4
  | .SEARCHING_STREAM_HEADER => 5
  | .SEARCHING_STREAM_DATA => min s.curStreamLen.toNat (curBufCapacity + 1)

/-- `getInt` of the little-endian buffer. -/
def getInt (bytes : Bytes) : Int32 :=
  (UInt32.ofNat (ofLE bytes)).toInt32

/-- The loop that shifts the mask out.  The shift keeps the sign, so a
negative mask ends at minus one, not at zero. -/
def shiftOut : Nat → Int32 → Except ReaderFailure Unit
  | 0, streamMask => if streamMask = 0 then .ok () else .error .endlessLoop
  | turns + 1, streamMask =>
      if streamMask = 0 then .ok () else shiftOut turns (streamMask >>> 1)

theorem shiftRight_toInt (streamMask : Int32) :
    (streamMask >>> 1).toInt = streamMask.toInt / 2 := by
  have shifted : (streamMask >>> 1).toInt = streamMask.toInt >>> (1 : Nat) :=
    BitVec.toInt_sshiftRight
  rw [shifted, Int.shiftRight_eq_div_pow]
  rfl

def readSegHeader (enableAssertions : Bool) (s : SegmentParser)
    (curBuf : Bytes) : Except ReaderFailure SegmentParser := do
  javaAssert enableAssertions
    (curBuf.getD 0 0 = 83 && curBuf.getD 1 0 = 71 && curBuf.getD 2 0 = 79)
  return { s with parsingState := .SEARCHING_STREAM_MASK }

def readStreamMask (enableAssertions : Bool) (s : SegmentParser)
    (curBuf : Bytes) : Except ReaderFailure SegmentParser := do
  let streamMask := getInt curBuf
  let numStreams := ((count_bits streamMask.toUInt32).toNat : Int) + 1
  javaAssert enableAssertions (numStreams < MAX_XCODING_INSTANCES)
  shiftOut 32 streamMask
  return { s with
    numStreams := numStreams
    curStreamCnt := numStreams
    parsingState := .SEARCHING_STREAM_HEADER }

def readStreamHeader (enableAssertions : Bool) (s : SegmentParser)
    (curBuf : Bytes) : Except ReaderFailure SegmentParser := do
  let curStreamId := (curBuf.getD 0 0).toInt8.toInt
  javaAssert enableAssertions (curStreamId ≤ MAX_XCODING_INSTANCES)
  return { s with
    curStreamId := curStreamId
    curStreamLen := (getInt (curBuf.drop 1)).toInt
    parsingState := .SEARCHING_STREAM_DATA }

def finishStream (s : SegmentParser) : SegmentParser :=
  { s with
    curStreamCnt := s.curStreamCnt - 1
    parsingState :=
      if s.curStreamCnt - 1 > 0 then .SEARCHING_STREAM_HEADER
      else .SEARCHING_SEGHEADER }

def readStreamData (s : SegmentParser) (curBuf : Bytes) :
    List ParsedFrame × Except ReaderFailure SegmentParser :=
  if curBuf.length > curBufCapacity then ([], .error .bufferOverflow)
  else
    (if s.curStreamLen > 0 then [⟨s.curStreamId, curBuf, s.curStreamLen⟩]
      else [],
      .ok s.finishStream)

/-- The four cases of `readData` once the buffer is full. -/
def emit (enableAssertions : Bool) (s : SegmentParser) (curBuf : Bytes) :
    List ParsedFrame × Except ReaderFailure SegmentParser :=
  match s.parsingState with
  | .SEARCHING_SEGHEADER => ([], s.readSegHeader enableAssertions curBuf)
  | .SEARCHING_STREAM_MASK => ([], s.readStreamMask enableAssertions curBuf)
  | .SEARCHING_STREAM_HEADER => ([], s.readStreamHeader enableAssertions curBuf)
  | .SEARCHING_STREAM_DATA => s.readStreamData curBuf

theorem finishStream_need_pos (s : SegmentParser) : 0 < s.finishStream.need := by
  by_cases more : s.curStreamCnt - 1 > 0
  · simp only [finishStream, need, if_pos more]
    omega
  · simp only [finishStream, need, if_neg more]
    omega

/-- `SegmentParser.readData` without its delegate. -/
def reader (enableAssertions : Bool) :
    Emitter UInt8 SegmentParser ParsedFrame ReaderFailure where
  need := need
  emit := emit enableAssertions
  progress := by
    intro s s' nothing fired
    cases state : s.parsingState with
    | SEARCHING_SEGHEADER => simp [need, state] at nothing
    | SEARCHING_STREAM_MASK => simp [need, state] at nothing
    | SEARCHING_STREAM_HEADER => simp [need, state] at nothing
    | SEARCHING_STREAM_DATA =>
        have finished : s.finishStream = s' := by
          simpa [emit, state, readStreamData] using fired
        rw [← finished]
        exact s.finishStream_need_pos

section Reading

variable {μ : Type} (onFrameParsed : μ → ParsedFrame → Except ReaderFailure μ)

/-- A parser together with its delegate. -/
abbrev Reading (enableAssertions : Bool) : Type :=
  ((reader enableAssertions).framer onFrameParsed).Config

def start (enableAssertions : Bool) (delegate : μ) :
    Reading onFrameParsed enableAssertions :=
  ((reader enableAssertions).framer onFrameParsed).fresh ({}, delegate)

/-- `SegmentParser.readData`. -/
def readData {enableAssertions : Bool}
    (p : Reading onFrameParsed enableAssertions) (src : Bytes) :
    Except ReaderFailure (Reading onFrameParsed enableAssertions) :=
  ((reader enableAssertions).framer onFrameParsed).read p src

end Reading

end SegmentParser

end GroupVoip
