import GroupVoip.Library.Halting
import GroupVoip.SegmentFormat
import GroupVoip.SegmentParser

/-!
# The steps of SegmentParser.readData

One call of `readData`, a step for each turn of a loop: the loop over the
bytes, the loop of `count_bits` and the loop that shifts the mask out.  The
virtual machine does not check assertions.
-/

namespace GroupVoip

open Library.Halting StateTransition

namespace SegmentParser

/-! ## One call -/

inductive Control where
  | whileLoop
  | count_bits (streamMask n : Int32) (c : Int)
  | shiftMask (streamMask : Int32)
  | returned
  | thrown
deriving DecidableEq, Repr

/-- The object during a call, the `srcLen` bytes of `src` still to be read, and
the frames passed on so far. -/
structure ReadDataCall where
  control : Control
  parser : SegmentParser
  curBuf : Bytes
  src : Bytes
  parsed : List ParsedFrame := []
deriving DecidableEq, Repr

/-- The number of bytes that a state waits for.  A length that is not positive
is reached at once. -/
def wanted (s : SegmentParser) : Nat :=
  match s.parsingState with
  | .SEARCHING_SEGHEADER => 3
  | .SEARCHING_STREAM_MASK => 4
  | .SEARCHING_STREAM_HEADER => 5
  | .SEARCHING_STREAM_DATA => s.curStreamLen.toNat

def waitForMask (s : SegmentParser) : SegmentParser :=
  { s with parsingState := .SEARCHING_STREAM_MASK }

def waitForHeader (s : SegmentParser) : SegmentParser :=
  { s with
    curStreamCnt := s.numStreams
    parsingState := .SEARCHING_STREAM_HEADER }

def waitForData (s : SegmentParser) (curBuf : Bytes) : SegmentParser :=
  { s with
    curStreamId := (curBuf.getD 0 0).toInt8.toInt
    curStreamLen := (getInt (curBuf.drop 1)).toInt
    parsingState := .SEARCHING_STREAM_DATA }

namespace ReadDataCall

/-- The second half of a case, once the buffer is full. -/
def full (call : ReadDataCall) : ReadDataCall :=
  match call.parser.parsingState with
  | .SEARCHING_SEGHEADER =>
      { call with curBuf := [], parser := call.parser.waitForMask }
  | .SEARCHING_STREAM_MASK =>
      { call with
        control := .count_bits (getInt call.curBuf) (getInt call.curBuf) 0 }
  | .SEARCHING_STREAM_HEADER =>
      { call with
        curBuf := []
        parser := call.parser.waitForData call.curBuf }
  | .SEARCHING_STREAM_DATA =>
      { call with
        curBuf := []
        parser := call.parser.finishStream
        parsed :=
          if call.parser.curStreamLen > 0 then
            call.parsed ++ [⟨call.parser.curStreamId, call.curBuf,
              call.parser.curStreamLen⟩]
          else call.parsed }

def cpLen (call : ReadDataCall) : Nat :=
  min call.src.length (call.parser.wanted - call.curBuf.length)

def put (call : ReadDataCall) : ReadDataCall :=
  { call with
    curBuf := call.curBuf ++ call.src.take call.cpLen
    src := call.src.drop call.cpLen }

def turn (call : ReadDataCall) : ReadDataCall :=
  if curBufCapacity < call.curBuf.length + call.cpLen then
    { call with control := .thrown }
  else if call.parser.wanted ≤ call.put.curBuf.length then call.put.full
  else call.put

def step (call : ReadDataCall) : Option ReadDataCall :=
  match call.control with
  | .whileLoop =>
      if call.src = [] then some { call with control := .returned }
      else some call.turn
  | .count_bits streamMask n c =>
      if n ≠ 0 then
        some { call with
          control := .count_bits streamMask (n &&& (n - 1)) (c + 1) }
      else
        some { call with
          control := .shiftMask streamMask
          parser := { call.parser with numStreams := c + 1 } }
  | .shiftMask streamMask =>
      if streamMask ≠ 0 then
        some { call with control := .shiftMask (streamMask >>> 1) }
      else
        some { call with
          control := .whileLoop
          curBuf := []
          parser := call.parser.waitForHeader }
  | .returned => none
  | .thrown => none

/-- The call returns after finitely many steps. -/
def Returns (call : ReadDataCall) : Prop :=
  ∃ final, final ∈ eval step call ∧ final.control = .returned

end ReadDataCall

/-- The call of `readData` with these bytes. -/
def readDataCall (s : SegmentParser) (curBuf src : Bytes) : ReadDataCall :=
  ⟨.whileLoop, s, curBuf, src, []⟩

/-- What a parser can be between calls: each call before has returned. -/
inductive Reachable : SegmentParser → Bytes → Prop
  | start : Reachable {} []
  | readData {s : SegmentParser} {curBuf src : Bytes} {final : ReadDataCall}
      (earlier : Reachable s curBuf)
      (ends : final ∈ eval ReadDataCall.step (s.readDataCall curBuf src))
      (returned : final.control = .returned) :
      Reachable final.parser final.curBuf

end SegmentParser

end GroupVoip
