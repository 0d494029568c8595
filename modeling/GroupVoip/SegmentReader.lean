import GroupVoip.FLVParser

/-!
# The wire side of FLVSegmentParser

`FLVSegmentParser::readData` cuts its input into segments and hands the bytes
of each stream record to the `FLVParser` of its slot, which cuts them into
tags.  What the two readers decide on the way reaches the rest of the program
as `StreamCall`s, in order.

The rest of the program is a parameter: a state `μ` and a function `act` that
carries out one call.
-/

namespace GroupVoip

open Library.Framing Library.WireBytes Library.Runs

/-- An input buffer.  The readers keep its length in a `u32`; the only caller
passes on what one `read` of at most 4096 bytes returned. -/
structure SmartBuffer where
  data : Bytes
  dataLength_lt : data.length < 2 ^ 32

/-- The bytes of a stream that arrives in several buffers. -/
def SmartBuffer.stream (inputs : List SmartBuffer) : Bytes :=
  (inputs.map SmartBuffer.data).flatten

inductive FLVSegmentParsingState where
  | SEARCHING_SEGHEADER
  | SEARCHING_STREAM_MASK
  | SEARCHING_STREAM_HEADER
  | SEARCHING_STREAM_DATA
deriving DecidableEq, Repr

structure SegmentScan where
  parsingState : FLVSegmentParsingState := .SEARCHING_SEGHEADER
  curStreamId : Slot := Slot.ofNat 0
  curStreamLen : UInt32 := 0
  curStreamCnt : UInt32 := 0
  numStreams : UInt32 := 0
deriving DecidableEq, Repr

/-- The effects of the segment reader outside its own registers. -/
inductive SegmentCall where
  | streamMask (streamMask : UInt32)
  | streamSource (id : Slot) (source : StreamSource)
  | readRecord (id : Slot) (curStream : Bytes)
deriving DecidableEq, Repr

/-- The loop of `count_bits`: each turn clears the least significant bit
set. -/
def countBits : Nat → UInt32 → UInt32 → UInt32
  | 0, _, c => c
  | turns + 1, n, c => if n = 0 then c else countBits turns (n &&& (n - 1)) (c + 1)

/-- A `u32` has 32 bits to clear. -/
def count_bits (n : UInt32) : UInt32 :=
  countBits 32 n 0

namespace SegmentScan

def need (s : SegmentScan) : Nat :=
  match s.parsingState with
  | .SEARCHING_SEGHEADER => 4
  | .SEARCHING_STREAM_MASK => 4
  | .SEARCHING_STREAM_HEADER => 6
  | .SEARCHING_STREAM_DATA => s.curStreamLen.toNat

def emitSegHeader (s : SegmentScan) (curBuf : Bytes) : Except Abort SegmentScan := do
  assertThat (curBuf.getD 0 0 = 83 && curBuf.getD 1 0 = 71 &&
    curBuf.getD 2 0 = 73) .segmentMagic
  assertThat (curBuf.getD 3 0 = 0) .evenLayout
  return { s with parsingState := .SEARCHING_STREAM_MASK }

def maskOf (curBuf : Bytes) : UInt32 :=
  UInt32.ofNat <| ofLE
    [curBuf.getD 0 0, curBuf.getD 1 0, curBuf.getD 2 0, curBuf.getD 3 0]

def emitStreamMask (s : SegmentScan) (curBuf : Bytes) :
    List SegmentCall × Except Abort SegmentScan :=
  let numStreams := count_bits (maskOf curBuf)
  match assertThat (numStreams < 32) .numStreamsInRange with
  | .error failed => ([], .error failed)
  | .ok _ => ([.streamMask (maskOf curBuf)], .ok
      { s with
        numStreams := numStreams
        curStreamCnt := numStreams
        parsingState := .SEARCHING_STREAM_HEADER })

def streamLenOf (curBuf : Bytes) : UInt32 :=
  UInt32.ofNat <| ofLE
    [curBuf.getD 2 0, curBuf.getD 3 0, curBuf.getD 4 0, curBuf.getD 5 0]

/-- The source is stored before the special property is looked at. -/
def emitStreamHeader (s : SegmentScan) (curBuf : Bytes) :
    List SegmentCall × Except Abort SegmentScan :=
  let curStreamId := ((curBuf.getD 0 0 &&& 0xf8) >>> 3).toNat
  let curStreamSource := (curBuf.getD 0 0 &&& 0x7).toNat
  if inRange : curStreamId < MAX_XCODING_INSTANCES then
    if curStreamSource < kTotalStreamSource then
      ([.streamSource ⟨curStreamId, inRange⟩ (StreamSource.ofBits curStreamSource)],
        (assertThat (curBuf.getD 1 0 = 0) .specialPropertyZero).map fun _ =>
          { s with
            curStreamId := ⟨curStreamId, inRange⟩
            curStreamLen := streamLenOf curBuf
            parsingState := .SEARCHING_STREAM_DATA })
    else ([], .error (.assertion .curStreamSourceInRange))
  else ([], .error (.assertion .curStreamIdInRange))

/-- A record without bytes is finished at once and nobody is called. -/
def emitStreamData (s : SegmentScan) (curBuf : Bytes) :
    List SegmentCall × Except Abort SegmentScan :=
  let curStreamCnt := s.curStreamCnt - 1
  (if s.curStreamLen = 0 then [] else [.readRecord s.curStreamId curBuf],
    .ok
      { s with
        curStreamCnt := curStreamCnt
        parsingState :=
          if curStreamCnt ≠ 0 then .SEARCHING_STREAM_HEADER
          else .SEARCHING_SEGHEADER })

/-- The four cases of `readData` once the buffer is full. -/
def emit (s : SegmentScan) (curBuf : Bytes) :
    List SegmentCall × Except Abort SegmentScan :=
  match s.parsingState with
  | .SEARCHING_SEGHEADER => ([], s.emitSegHeader curBuf)
  | .SEARCHING_STREAM_MASK => s.emitStreamMask curBuf
  | .SEARCHING_STREAM_HEADER => s.emitStreamHeader curBuf
  | .SEARCHING_STREAM_DATA => s.emitStreamData curBuf

end SegmentScan

/-- `FLVSegmentParser::readData` without the slots' parsers. -/
def segmentReader : Emitter UInt8 SegmentScan SegmentCall Abort where
  need := SegmentScan.need
  emit := SegmentScan.emit
  progress := by
    intro s s' nothing fired
    cases state : s.parsingState with
    | SEARCHING_SEGHEADER => simp [SegmentScan.need, state] at nothing
    | SEARCHING_STREAM_MASK => simp [SegmentScan.need, state] at nothing
    | SEARCHING_STREAM_HEADER => simp [SegmentScan.need, state] at nothing
    | SEARCHING_STREAM_DATA =>
        simp only [SegmentScan.emit, state, SegmentScan.emitStreamData,
          Except.ok.injEq] at fired
        rw [← fired]
        by_cases last : s.curStreamCnt - 1 = 0
        · simp [SegmentScan.need, last]
        · simp [SegmentScan.need, last]

/-! ## The slots' parsers -/

/-- The effects of the readers on the streams. -/
inductive StreamCall where
  | streamMask (streamMask : UInt32)
  | streamSource (id : Slot) (source : StreamSource)
  | flvTag (id : Slot) (tag : FLVTag)
deriving DecidableEq, Repr

/-- `parser_[MAX_XCODING_INSTANCES]`: the tag scanner of each slot. -/
abbrev ParserBank : Type := Slot → tagReader.Scan

section Acting

variable {μ : Type} (act : μ → StreamCall → Except Abort μ)

/-- A tag of a slot reaches the streams with the slot's number. -/
def tagAct (id : Slot) (owner : μ) (tag : FLVTag) : Except Abort μ :=
  act owner (.flvTag id tag)

/-- `parser_[id]->readData(curStream)`. -/
def readRecord (parser : ParserBank) (owner : μ) (id : Slot)
    (curStream : Bytes) : Except Abort (ParserBank × μ) :=
  ((tagReader.framer (tagAct act id)).read
      ((parser id).owned (tagAct act id) owner) curStream).map fun c =>
    (Function.update parser id (Emitter.scanOf c), c.state.2)

def segmentAct (state : ParserBank × μ) :
    SegmentCall → Except Abort (ParserBank × μ)
  | .streamMask streamMask =>
      (act state.2 (.streamMask streamMask)).map fun owner => (state.1, owner)
  | .streamSource id source =>
      (act state.2 (.streamSource id source)).map fun owner => (state.1, owner)
  | .readRecord id curStream => readRecord act state.1 state.2 id curStream

end Acting

/-- The input side of the mixer: the segment reader, the slots' parsers and
the streams they feed. -/
structure InputSide (μ : Type) where
  scan : segmentReader.Scan
  parser : ParserBank
  streams : μ

namespace InputSide

variable {μ : Type} (act : μ → StreamCall → Except Abort μ)

def start (streams : μ) : InputSide μ where
  scan := segmentReader.freshScan {}
  parser := fun _ => tagReader.freshScan {}
  streams := streams

def config (p : InputSide μ) : (segmentReader.framer (segmentAct act)).Config :=
  p.scan.owned (segmentAct act) (p.parser, p.streams)

def ofConfig (c : (segmentReader.framer (segmentAct act)).Config) :
    InputSide μ where
  scan := Emitter.scanOf c
  parser := c.state.2.1
  streams := c.state.2.2

/-- `FLVSegmentParser::readData`. -/
def readData (p : InputSide μ) (input : SmartBuffer) :
    Except Abort (InputSide μ) :=
  ((segmentReader.framer (segmentAct act)).read (p.config act) input.data).map
    (ofConfig act)

def readAll (p : InputSide μ) (inputs : List SmartBuffer) :
    Except Abort (InputSide μ) :=
  run (readData act) p inputs

end InputSide

end GroupVoip
