import GroupVoip.OutputWire
import GroupVoip.SegmentParser

/-!
# From FLVSegmentOutput to SegmentParser

The Java reader counts one record for each bit of the mask and one more, which
is what the writer sends.  So it passes on exactly the buffers that are not
empty, in order.  Its assertion on the count is for a mask with a free slot
more than the writer leaves.
-/

namespace GroupVoip

open Library.Framing Library.WireBytes Library.Runs

namespace SegmentParser

/-! ## The fields of a segment -/

theorem shiftRight_ofNat {n : Nat} (small : n < 2147483648) :
    Int32.ofNat n >>> 1 = Int32.ofNat (n / 2) := by
  apply Int32.toInt_inj.mp
  rw [shiftRight_toInt, Int32.toInt_ofNat_of_lt (by omega),
    Int32.toInt_ofNat_of_lt (by omega)]
  omega

/-- A mask without its highest bit is shifted out. -/
theorem shiftOut_ofNat :
    ∀ (turns n : Nat), n < 2 ^ turns → n < 2147483648 →
      shiftOut turns (Int32.ofNat n) = .ok () := by
  intro turns
  induction turns with
  | zero =>
      intro n few _
      have zero : n = 0 := by simpa using few
      rw [zero]
      rfl
  | succ turns inductionHypothesis =>
      intro n few small
      by_cases zero : Int32.ofNat n = 0
      · rw [shiftOut, if_pos zero]
      · have half : n / 2 < 2 ^ turns := by
          rw [Nat.pow_succ] at few
          omega
        rw [shiftOut, if_neg zero, shiftRight_ofNat small]
        exact inductionHypothesis (n / 2) half (by omega)

theorem getInt_toLE {n : Nat} (small : n < 2147483648) :
    getInt (toLE 4 n) = Int32.ofNat n := by
  have fits : n < 256 ^ 4 := by
    rw [show (256 : Nat) ^ 4 = 4294967296 by decide]
    omega
  rw [getInt, ofLE_toLE_of_lt fits]
  rfl

def enterSegment (s : SegmentParser) : SegmentParser :=
  { s with parsingState := .SEARCHING_STREAM_MASK }

def enterMask (s : SegmentParser) (streamMask : UInt32) : SegmentParser :=
  { s with
    numStreams := maskCount streamMask + 1
    curStreamCnt := maskCount streamMask + 1
    parsingState := .SEARCHING_STREAM_HEADER }

def enterStream (s : SegmentParser) (i : OutputSlot) (data : Bytes) :
    SegmentParser :=
  { s with
    curStreamId := i.val
    curStreamLen := data.length
    parsingState := .SEARCHING_STREAM_DATA }

/-- The calls for a record: none if it has no data. -/
def framesOf (i : OutputSlot) (data : Bytes) : List ParsedFrame :=
  if data = [] then [] else [⟨i.val, data, data.length⟩]

variable {enableAssertions : Bool} {s : SegmentParser}

theorem numStreams_eq (streamMask : UInt32) :
    ((count_bits streamMask).toNat : Int) + 1 = maskCount streamMask + 1 := by
  have few := maskCount_le streamMask
  rw [count_bits_eq, UInt32.toNat_ofNat', Nat.mod_eq_of_lt (by omega)]

theorem emit_segHeader (state : s.parsingState = .SEARCHING_SEGHEADER) :
    emit enableAssertions s [83, 71, 79] = ([], .ok s.enterSegment) := by
  simp only [emit, state, readSegHeader, javaAssert]
  cases enableAssertions <;> rfl

theorem emit_streamMask (enableAssertions : Bool) {streamMask : UInt32}
    (state : s.parsingState = .SEARCHING_STREAM_MASK)
    (lastSlotFree : streamMask.toNat < 2147483648) :
    emit enableAssertions s (toLE 4 streamMask.toNat) =
      ([], if enableAssertions = true ∧
          MAX_XCODING_INSTANCES ≤ maskCount streamMask + 1 then
            .error .assertion
        else .ok (s.enterMask streamMask)) := by
  have mask : (Int32.ofNat streamMask.toNat).toUInt32 = streamMask :=
    UInt32.ofNat_toNat
  have shifted : shiftOut 32 (Int32.ofNat streamMask.toNat) = .ok () :=
    shiftOut_ofNat 32 _ (by omega) lastSlotFree
  simp only [emit, state, readStreamMask, getInt_toLE lastSlotFree, mask,
    numStreams_eq, javaAssert, shifted]
  by_cases refused : enableAssertions = true ∧
      MAX_XCODING_INSTANCES ≤ maskCount streamMask + 1
  · have tooMany : ¬ ((maskCount streamMask : Int) + 1 <
        MAX_XCODING_INSTANCES) := by
      omega
    rw [if_pos refused, refused.1, decide_eq_false tooMany]
    rfl
  · rw [if_neg refused]
    cases enableAssertions with
    | false => rfl
    | true =>
        have few : (maskCount streamMask : Int) + 1 <
            MAX_XCODING_INSTANCES := by
          have notMany : ¬ MAX_XCODING_INSTANCES ≤ maskCount streamMask + 1 :=
            fun many => refused ⟨rfl, many⟩
          omega
        rw [decide_eq_true few]
        rfl

theorem toInt_streamId (i : OutputSlot) :
    (UInt8.ofNat i.val).toInt8.toInt = i.val := by
  have everySlot :
      ∀ i : Fin 33, (UInt8.ofNat i.val).toInt8.toInt = i.val := by
    decide +kernel
  exact everySlot i

theorem emit_streamHeader {i : OutputSlot} {data : Bytes}
    (state : s.parsingState = .SEARCHING_STREAM_HEADER)
    (short : data.length ≤ 2 ^ 20) :
    emit enableAssertions s ([UInt8.ofNat i.val] ++ toLE 4 data.length) =
      ([], .ok (s.enterStream i data)) := by
  have small : data.length < 2147483648 := by omega
  have firstByte :
      ([UInt8.ofNat i.val] ++ toLE 4 data.length).getD 0 0 =
        UInt8.ofNat i.val := rfl
  have others :
      ([UInt8.ofNat i.val] ++ toLE 4 data.length).drop 1 =
        toLE 4 data.length := rfl
  have inRange : (i.val : Int) ≤ MAX_XCODING_INSTANCES := by
    have := i.isLt
    omega
  simp only [emit, state, readStreamHeader, firstByte, others,
    getInt_toLE small, toInt_streamId, javaAssert, decide_eq_true inRange]
  rw [Int32.toInt_ofNat_of_lt small]
  cases enableAssertions <;> rfl

theorem emit_streamData (enableAssertions : Bool) {i : OutputSlot}
    {data : Bytes} (short : data.length ≤ 2 ^ 20) :
    emit enableAssertions (s.enterStream i data) data =
      (framesOf i data, .ok (s.enterStream i data).finishStream) := by
  have fits : ¬ data.length > curBufCapacity := by
    rw [curBufCapacity]
    omega
  have split :
      emit enableAssertions (s.enterStream i data) data =
        (s.enterStream i data).readStreamData data := rfl
  rw [split, readStreamData, if_neg fits, framesOf]
  by_cases empty : data = []
  · rw [if_pos empty, empty]
    rfl
  · have positive : (s.enterStream i data).curStreamLen > 0 := by
      have some := List.length_pos_iff.mpr empty
      simp only [enterStream]
      omega
    rw [if_neg empty, if_pos positive]
    rfl

/-! ## Reading a segment -/

section Reading

variable {μ : Type} (onFrameParsed : μ → ParsedFrame → Except ReaderFailure μ)
  {delegate : μ}

/-- What the parser makes of some bytes, with a record that needs no more
bytes taken as finished. -/
abbrev parseSettled (enableAssertions : Bool) (s : SegmentParser)
    (delegate : μ) (bytes : Bytes) :
    Except ReaderFailure (Reading onFrameParsed enableAssertions) :=
  (reader enableAssertions).feedSettled onFrameParsed
    (((reader enableAssertions).framer onFrameParsed).fresh (s, delegate)) bytes

theorem parseSettled_streamRecord {i : OutputSlot} {data : Bytes}
    (state : s.parsingState = .SEARCHING_STREAM_HEADER)
    (short : data.length ≤ 2 ^ 20) (rest : Bytes) :
    parseSettled onFrameParsed enableAssertions s delegate
        (FLVSegmentOutput.streamRecord i data ++ rest) =
      (run onFrameParsed delegate (framesOf i data)).bind fun delegate =>
        parseSettled onFrameParsed enableAssertions
          (s.enterStream i data).finishStream delegate rest := by
  have headerFits :
      ([UInt8.ofNat i.val] ++ toLE 4 data.length).length =
        (reader enableAssertions).need s := by
    simp [reader, need, state]
  have dataFits :
      data.length = (reader enableAssertions).need (s.enterStream i data) := by
    simp only [reader, need, enterStream, curBufCapacity]
    omega
  rw [FLVSegmentOutput.streamRecord, List.append_assoc, parseSettled,
    Emitter.feedSettled_record delegate headerFits
      (emit_streamHeader state short),
    run_nil]
  exact Emitter.feedSettled_record delegate dataFits
    (emit_streamData enableAssertions short) rest

/-- The records of a segment, counted down to the next segment header. -/
theorem parseSettled_streamRecords :
    ∀ (records : List (OutputSlot × Bytes)) (s : SegmentParser),
      records ≠ [] → s.parsingState = .SEARCHING_STREAM_HEADER →
      s.curStreamCnt = records.length →
      (∀ record ∈ records, record.2.length ≤ 2 ^ 20) →
      ∃ s' : SegmentParser, s'.parsingState = .SEARCHING_SEGHEADER ∧
        ∀ (delegate : μ) (rest : Bytes),
          parseSettled onFrameParsed enableAssertions s delegate
              ((records.flatMap fun record =>
                FLVSegmentOutput.streamRecord record.1 record.2) ++ rest) =
            (run onFrameParsed delegate
              (records.flatMap fun record =>
                framesOf record.1 record.2)).bind fun delegate =>
              parseSettled onFrameParsed enableAssertions s' delegate rest := by
  intro records
  induction records with
  | nil =>
      intro s nonempty
      exact absurd rfl nonempty
  | cons record others inductionHypothesis =>
      intro s _ state count short
      have left : s.curStreamCnt - 1 = others.length := by
        rw [count, List.length_cons]
        omega
      have shortHere := short record List.mem_cons_self
      cases others with
      | nil =>
          refine ⟨(s.enterStream record.1 record.2).finishStream, ?_, ?_⟩
          · have last : ¬ s.curStreamCnt - 1 > 0 := by
              rw [left]
              simp
            exact if_neg last
          · intro delegate rest
            simp only [List.flatMap_cons, List.flatMap_nil, List.append_nil]
            exact parseSettled_streamRecord onFrameParsed state shortHere rest
      | cons second others =>
          have more : s.curStreamCnt - 1 > 0 := by
            rw [left, List.length_cons]
            omega
          obtain ⟨s', reached, later⟩ := inductionHypothesis
            (s.enterStream record.1 record.2).finishStream (by simp)
            (if_pos more) left
            (fun r member => short r (List.mem_cons_of_mem record member))
          refine ⟨s', reached, ?_⟩
          intro delegate rest
          have allBytes :
              ((record :: second :: others).flatMap fun record =>
                FLVSegmentOutput.streamRecord record.1 record.2) =
              FLVSegmentOutput.streamRecord record.1 record.2 ++
                (second :: others).flatMap fun record =>
                  FLVSegmentOutput.streamRecord record.1 record.2 :=
            List.flatMap_cons
          have allFrames :
              ((record :: second :: others).flatMap fun record =>
                framesOf record.1 record.2) =
              framesOf record.1 record.2 ++
                (second :: others).flatMap fun record =>
                  framesOf record.1 record.2 :=
            List.flatMap_cons
          rw [allBytes, List.append_assoc,
            parseSettled_streamRecord onFrameParsed state shortHere, allFrames,
            run_append]
          cases run onFrameParsed delegate (framesOf record.1 record.2) with
          | error stopped => rfl
          | ok next => exact later next rest

end Reading

/-! ## The calls of a whole stream -/

/-- A delegate that keeps the frames it is called with. -/
def recordFrame (frames : List ParsedFrame) (frame : ParsedFrame) :
    Except ReaderFailure (List ParsedFrame) :=
  .ok (frames ++ [frame])

/-- The `onFrameParsed` calls that successive `readData` calls make. -/
def readFrames (enableAssertions : Bool) (chunks : List Bytes) :
    Except ReaderFailure (List ParsedFrame) :=
  (run (readData recordFrame) (start recordFrame enableAssertions [])
    chunks).map fun p => p.state.2

theorem run_recordFrame (frames made : List ParsedFrame) :
    run recordFrame made frames = .ok (made ++ frames) := by
  induction frames generalizing made with
  | nil => simp
  | cons frame rest inductionHypothesis =>
      rw [run_cons, recordFrame]
      simp only [Except.bind]
      rw [inductionHypothesis]
      simp

/-- Finishing a record without data calls nobody. -/
theorem settle_owner (c : Reading recordFrame enableAssertions) :
    (((reader enableAssertions).framer recordFrame).settle c).map
        (fun p => p.state.2) = .ok c.state.2 := by
  by_cases nothing : c.state.1.need = 0
  · have zero :
        ((reader enableAssertions).framer recordFrame).need c.state = 0 :=
      nothing
    have idle : ¬ c.state.1.curStreamLen > 0 ∧
        c.state.1.parsingState = .SEARCHING_STREAM_DATA := by
      cases state : c.state.1.parsingState with
      | SEARCHING_SEGHEADER => simp [need, state] at nothing
      | SEARCHING_STREAM_MASK => simp [need, state] at nothing
      | SEARCHING_STREAM_HEADER => simp [need, state] at nothing
      | SEARCHING_STREAM_DATA =>
          simp only [need, state, curBufCapacity] at nothing
          exact ⟨by omega, rfl⟩
    have emitted :
        (reader enableAssertions).emit c.state.1 [] =
          ([], .ok c.state.1.finishStream) := by
      simp only [reader, emit, idle.2, readStreamData, if_neg idle.1]
      rfl
    have fired :
        ((reader enableAssertions).framer recordFrame).fire c.state [] =
          .ok (c.state.1.finishStream, c.state.2) :=
      Emitter.fire_eq recordFrame c.state.2 emitted
    rw [Framer.settle_of_zero zero, fired]
    rfl
  · have waiting :
        0 < ((reader enableAssertions).framer recordFrame).need c.state :=
      Nat.pos_of_ne_zero nothing
    rw [Framer.settle_of_pos waiting]
    rfl

theorem readFrames_eq (chunks : List Bytes) :
    readFrames enableAssertions chunks =
      (parseSettled recordFrame enableAssertions {} [] chunks.flatten).map
        fun p => p.state.2 := by
  have whole :
      run (readData recordFrame) (start recordFrame enableAssertions [])
          chunks =
        ((reader enableAssertions).framer recordFrame).feed
          (start recordFrame enableAssertions []) chunks.flatten :=
    Framer.readAll_eq_feed _ _ chunks
  rw [readFrames, whole, parseSettled, Emitter.feedSettled]
  simp only [start]
  cases ((reader enableAssertions).framer recordFrame).feed
      (((reader enableAssertions).framer recordFrame).fresh ({}, []))
      chunks.flatten with
  | error stopped => rfl
  | ok c => exact (settle_owner c).symm

end SegmentParser

/-! ## The round trip -/

namespace FLVSegmentOutput

open SegmentParser

/-- The frames to be passed on: the buffers that are not empty, by slot. -/
def frames (o : FLVSegmentOutput) : List ParsedFrame :=
  slots.flatMap fun i => framesOf i (o.pending i)

theorem frames_eq (o : FLVSegmentOutput) :
    (o.records.flatMap fun record => framesOf record.1 record.2) =
      o.frames := by
  have mobile : ∀ slots : List OutputSlot,
      ((slots.filter fun i => o.pending i ≠ []).map fun i =>
          (i, o.pending i)).flatMap (fun record =>
            framesOf record.1 record.2) =
        slots.flatMap fun i => framesOf i (o.pending i) := by
    intro slots
    rw [List.flatMap_map]
    apply o.flatMap_busy
    intro i idle
    rw [framesOf, if_pos idle]
  rw [frames, slots_eq, records, List.flatMap_append, List.flatMap_append,
    busySlots, mobile]
  rfl

namespace Sendable

variable {o : FLVSegmentOutput}

theorem maskBit_eq (sendable : o.Sendable) (i : Slot) :
    Streams.maskBit o.mask i = decide (o.pending (Fin.castSucc i) ≠ []) := by
  rw [Streams.maskBit_eq_testBit]
  exact sendable.fillable.countStreams_eq.2.2 i

theorem maskCount_eq (sendable : o.Sendable) :
    maskCount o.mask = o.busySlots.length := by
  rw [maskCount, length_busySlots]
  apply List.countP_congr
  intro i _
  rw [sendable.maskBit_eq]

/-- The mask is not negative as a Java `int`. -/
theorem mask_lt (sendable : o.Sendable) : o.mask.toNat < 2147483648 := by
  have lastBit : o.mask.toNat.testBit 31 = false := by
    have last := sendable.fillable.countStreams_eq.2.2 (Slot.ofNat 31)
    rw [sendable.lastSlotFree] at last
    exact last
  have below := o.mask.toNat_lt
  rw [Nat.testBit_eq_decide_div_mod_eq, decide_eq_false_iff_not] at lastBit
  omega

/-- The reader refuses the mask when every slot but the last is busy. -/
theorem refused_iff (sendable : o.Sendable) :
    MAX_XCODING_INSTANCES ≤ maskCount o.mask + 1 ↔
      ∀ i : Slot, i.val < 31 → o.pending (Fin.castSucc i) ≠ [] := by
  have others : ∀ p : Slot → Bool, p (Slot.ofNat 31) = false →
      (32 ≤ Streams.slots.countP p + 1 ↔
        ∀ i : Slot, i.val < 31 → p i = true) := by
    intro p free
    have split : Streams.slots =
        (List.finRange 31).map (Fin.castSucc : Fin 31 → Slot) ++
          [Slot.ofNat 31] := by
      decide
    have length : (List.finRange 31).length = 31 := List.length_finRange
    rw [split, List.countP_append, List.countP_map, List.countP_singleton,
      free]
    simp only [Bool.false_eq_true, if_false, Nat.add_zero]
    constructor
    · intro full i small
      have all : (List.finRange 31).countP (p ∘ Fin.castSucc) =
          (List.finRange 31).length := by
        apply Nat.le_antisymm List.countP_le_length
        omega
      have here := List.countP_eq_length.mp all ⟨i.val, small⟩
        (List.mem_finRange _)
      exact here
    · intro busy
      have all : (List.finRange 31).countP (p ∘ Fin.castSucc) =
          (List.finRange 31).length := by
        apply List.countP_eq_length.mpr
        intro i _
        exact busy (Fin.castSucc i) i.isLt
      omega
  have last : Streams.maskBit o.mask (Slot.ofNat 31) = false := by
    rw [sendable.maskBit_eq, sendable.lastSlotFree]
    rfl
  rw [maskCount]
  refine (others (Streams.maskBit o.mask) last).trans ?_
  apply forall_congr'
  intro i
  rw [sendable.maskBit_eq, decide_eq_true_iff]

/-- The reader stops at a mask it refuses; else it passes the frames on. -/
theorem parseSettled_segment (sendable : o.Sendable)
    (enableAssertions : Bool) {s : SegmentParser} (made : List ParsedFrame)
    (state : s.parsingState = .SEARCHING_SEGHEADER) (rest : Bytes) :
    if enableAssertions = true ∧
        MAX_XCODING_INSTANCES ≤ maskCount o.mask + 1 then
      parseSettled recordFrame enableAssertions s made (o.segment ++ rest) =
        .error .assertion
    else
      ∃ s' : SegmentParser, s'.parsingState = .SEARCHING_SEGHEADER ∧
        parseSettled recordFrame enableAssertions s made (o.segment ++ rest) =
          parseSettled recordFrame enableAssertions s' (made ++ o.frames)
            rest := by
  have magicFits : ([83, 71, 79] : Bytes).length =
      (reader enableAssertions).need s := by
    simp [reader, need, state]
  have maskFits : (toLE 4 o.mask.toNat).length =
      (reader enableAssertions).need s.enterSegment := by
    simp [reader, need, enterSegment]
  have maskRead := emit_streamMask (s := s.enterSegment) enableAssertions rfl
    sendable.mask_lt
  have split : parseSettled recordFrame enableAssertions s made
      (o.segment ++ rest) =
        (emit enableAssertions s.enterSegment
          (toLE 4 o.mask.toNat)).2.bind fun next =>
            parseSettled recordFrame enableAssertions next made
              ((o.records.flatMap fun record =>
                streamRecord record.1 record.2) ++ rest) := by
    rw [segment, List.append_assoc, List.append_assoc, parseSettled,
      Emitter.feedSettled_record made magicFits (emit_segHeader state),
      run_nil, maskRead]
    exact Emitter.feedSettled_record made maskFits maskRead _
  rw [maskRead] at split
  by_cases refused : enableAssertions = true ∧
      MAX_XCODING_INSTANCES ≤ maskCount o.mask + 1
  · rw [if_pos refused, split]
    simp only [if_pos refused]
    rfl
  · rw [if_neg refused, split]
    simp only [if_neg refused]
    have short : ∀ record ∈ o.records, record.2.length ≤ 2 ^ 20 := by
      intro record member
      rcases List.mem_append.mp member with mobile | last
      · obtain ⟨i, _, rfl⟩ := List.mem_map.mp mobile
        exact sendable.short i
      · rw [List.mem_singleton.mp last]
        exact sendable.short allIn
    have count : (maskCount o.mask : Int) + 1 = o.records.length := by
      rw [length_records, sendable.maskCount_eq]
      rfl
    obtain ⟨s', reached, later⟩ := parseSettled_streamRecords recordFrame
      o.records
      (s.enterSegment.enterMask o.mask) (by simp [records]) rfl count short
    refine ⟨s', reached, ?_⟩
    rw [← frames_eq]
    simp only [Except.bind]
    rw [later, run_recordFrame]
    rfl

end Sendable

/-- `getOneFrameForAllStreams` on one state after the other: the bytes that
the writer sends. -/
def sendAll : List FLVSegmentOutput → Except Abort Bytes
  | [] => .ok []
  | o :: rest => do
      let (result, _) ← o.getOneFrameForAllStreams
      let later ← sendAll rest
      return result.getD [] ++ later

theorem sendAll_eq {outputs : List FLVSegmentOutput}
    (sendable : ∀ o ∈ outputs, o.Sendable) :
    sendAll outputs = .ok (outputs.flatMap segment) := by
  induction outputs with
  | nil => rfl
  | cons o rest inductionHypothesis =>
      rw [sendAll, (sendable o List.mem_cons_self).fillable.getOneFrame_eq,
        inductionHypothesis fun other member =>
          sendable other (List.mem_cons_of_mem o member)]
      rfl

/-- The reader asserts that two slots are free, if it asserts anything. -/
def Accepted (enableAssertions : Bool) (o : FLVSegmentOutput) : Prop :=
  enableAssertions = false ∨
    ∃ i : Slot, i.val < 31 ∧ o.pending (Fin.castSucc i) = []

theorem Sendable.accepted_iff {o : FLVSegmentOutput} (sendable : o.Sendable)
    {enableAssertions : Bool} :
    o.Accepted enableAssertions ↔
      ¬ (enableAssertions = true ∧
        MAX_XCODING_INSTANCES ≤ maskCount o.mask + 1) := by
  rw [sendable.refused_iff, Accepted]
  cases enableAssertions with
  | false => simp
  | true => simp

theorem parseSettled_outputs (enableAssertions : Bool)
    (outputs : List FLVSegmentOutput) :
    ∀ (s : SegmentParser) (made : List ParsedFrame),
      (∀ o ∈ outputs, o.Sendable) → s.parsingState = .SEARCHING_SEGHEADER →
      ((∀ o ∈ outputs, o.Accepted enableAssertions) →
        (parseSettled recordFrame enableAssertions s made
            (outputs.flatMap segment)).map (fun p => p.state.2) =
          .ok (made ++ outputs.flatMap frames)) ∧
      ((∃ o ∈ outputs, ¬ o.Accepted enableAssertions) →
        parseSettled recordFrame enableAssertions s made
            (outputs.flatMap segment) = .error .assertion) := by
  induction outputs with
  | nil =>
      intro s made _ state
      constructor
      · intro _
        have waiting : 0 < ((reader enableAssertions).framer recordFrame).need
            (s, made) := by
          simp [Emitter.framer, reader, need, state]
        rw [List.flatMap_nil, List.flatMap_nil, List.append_nil, parseSettled,
          Emitter.feedSettled, Framer.feed_nil]
        simp only [Except.bind]
        rw [Framer.settle_of_pos waiting]
        rfl
      · rintro ⟨o, member, _⟩
        cases member
  | cons o rest inductionHypothesis =>
      intro s made sendable state
      have here := sendable o List.mem_cons_self
      have later : ∀ other ∈ rest, other.Sendable := fun other member =>
        sendable other (List.mem_cons_of_mem o member)
      have first := here.parseSettled_segment enableAssertions made state
        (rest.flatMap segment)
      rw [List.flatMap_cons, List.flatMap_cons]
      by_cases accepted : o.Accepted enableAssertions
      · rw [if_neg (here.accepted_iff.mp accepted)] at first
        obtain ⟨s', reached, continues⟩ := first
        obtain ⟨passes, stops⟩ :=
          inductionHypothesis s' (made ++ o.frames) later reached
        constructor
        · intro all
          rw [continues, passes fun other member =>
            all other (List.mem_cons_of_mem o member), List.append_assoc]
        · rintro ⟨other, member, refused⟩
          rw [continues]
          rcases List.mem_cons.mp member with rfl | inRest
          · exact absurd accepted refused
          · exact stops ⟨other, inRest, refused⟩
      · rw [if_pos (not_not.mp fun asserted =>
          accepted (here.accepted_iff.mpr asserted))] at first
        constructor
        · intro all
          exact absurd (all o List.mem_cons_self) accepted
        · intro _
          exact first

/-- What is sent arrives, however it is cut, and nothing is left to send. -/
def RoundTrip (enableAssertions : Bool) (outputs : List FLVSegmentOutput) :
    Prop :=
  (∃ wire, sendAll outputs = .ok wire ∧
    ∀ chunks : List Bytes, chunks.flatten = wire →
      readFrames enableAssertions chunks = .ok (outputs.flatMap frames)) ∧
  ∀ o ∈ outputs, ∃ result o', o.getOneFrameForAllStreams = .ok (result, o') ∧
    ∀ i, o'.pending i = []

/-- The round trip works unless the reader checks its assertions and a segment
has data for every slot but the last. -/
theorem outputs_roundTrip_iff (enableAssertions : Bool)
    (outputs : List FLVSegmentOutput) (sendable : ∀ o ∈ outputs, o.Sendable) :
    RoundTrip enableAssertions outputs ↔
      enableAssertions = false ∨ ∀ o ∈ outputs,
        ∃ i : Slot, i.val < 31 ∧ o.pending (Fin.castSucc i) = [] := by
  have read : ∀ chunks : List Bytes,
      chunks.flatten = outputs.flatMap segment →
      readFrames enableAssertions chunks =
        (parseSettled recordFrame enableAssertions {} []
          (outputs.flatMap segment)).map fun p => p.state.2 := by
    intro chunks cut
    rw [readFrames_eq, cut]
  have condition :
      (enableAssertions = false ∨ ∀ o ∈ outputs,
        ∃ i : Slot, i.val < 31 ∧ o.pending (Fin.castSucc i) = []) ↔
      ∀ o ∈ outputs, o.Accepted enableAssertions := by
    cases enableAssertions with
    | false => simp [Accepted]
    | true => simp [Accepted]
  obtain ⟨passes, stops⟩ :=
    parseSettled_outputs enableAssertions outputs {} [] sendable rfl
  rw [condition]
  constructor
  · rintro ⟨⟨wire, sent, arrives⟩, _⟩
    by_contra some
    have refused : ∃ o ∈ outputs, ¬ o.Accepted enableAssertions := by
      simpa using some
    rw [sendAll_eq sendable] at sent
    cases sent
    have whole := arrives [outputs.flatMap segment] (by simp)
    rw [read _ (by simp), stops refused] at whole
    cases whole
  · intro all
    refine ⟨⟨outputs.flatMap segment, sendAll_eq sendable, ?_⟩, ?_⟩
    · intro chunks cut
      rw [read chunks cut, passes all, List.nil_append]
    · intro o member
      exact ⟨some o.segment, o.reset, (sendable o member).fillable.getOneFrame_eq,
        o.reset_pending⟩

/-- An instant with one byte for each of the first `count` slots. -/
def busySample (count : Nat) : FLVSegmentOutput where
  outputBuffer i := if i.val < count then some [7] else none
  output _ := { acid := kMP3 }

theorem sendable_busySample {count : Nat} (some : 0 < count)
    (few : count ≤ 31) : (busySample count).Sendable where
  short i := by
    by_cases busy : i.val < count
    · simp [pending, busySample, busy]
    · simp [pending, busySample, busy]
  lastSlotFree := by
    have late : ¬ (Slot.ofNat 31).val < count := by
      have last : (Slot.ofNat 31).val = 31 := rfl
      omega
    simp [pending, busySample, late]
  nonempty := ⟨0, by simp [pending, busySample, some]⟩

theorem outputs_roundTrip_twoStreams :
    RoundTrip true [busySample 2] := by
  refine (outputs_roundTrip_iff true [busySample 2] ?_).mpr (Or.inr ?_)
  · intro o member
    rw [List.mem_singleton.mp member]
    exact sendable_busySample (by decide) (by decide)
  · intro o member
    rw [List.mem_singleton.mp member]
    exact ⟨Slot.ofNat 2, by decide, rfl⟩

/-- With data for 31 slots there are 32 records, and the reader asserts
fewer. -/
theorem outputs_stop_thirtyOneStreams :
    (busySample 31).Sendable ∧ ¬ RoundTrip true [busySample 31] := by
  refine ⟨sendable_busySample (by decide) (by decide), ?_⟩
  rintro ⟨⟨wire, sent, arrives⟩, _⟩
  have refused :
      (match sendAll [busySample 31] with
        | .ok wire => stoppedBy (readFrames true [wire])
        | .error _ => none) = some .assertion := by
    decide +kernel
  have whole := arrives [wire] (by simp)
  rw [sent] at refused
  simp only [whole] at refused
  cases refused

end FLVSegmentOutput

end GroupVoip
