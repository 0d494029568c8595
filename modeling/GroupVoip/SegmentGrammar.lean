import GroupVoip.Instants
import GroupVoip.SegmentFormat

/-!
# Reading well-formed segments

On segments of the documented format the reader stays in step: it makes the
calls of each segment in order and is back at a segment header afterwards.
The one exception is a segment without records, which leaves it waiting for a
record header.
-/

namespace GroupVoip

open Library.Framing Library.Runs Library.WireBytes

namespace SegmentScan

def enterRecord (s : SegmentScan) (r : StreamRecord) : SegmentScan :=
  { s with
    curStreamId := r.id
    curStreamLen := streamLenOf r.header
    parsingState := .SEARCHING_STREAM_DATA }

def leaveRecord (s : SegmentScan) : SegmentScan :=
  { s with
    curStreamCnt := s.curStreamCnt - 1
    parsingState :=
      if s.curStreamCnt - 1 ≠ 0 then .SEARCHING_STREAM_HEADER
      else .SEARCHING_SEGHEADER }

def enterMask (s : SegmentScan) (streamMask : UInt32) : SegmentScan :=
  { s with
    numStreams := count_bits streamMask
    curStreamCnt := count_bits streamMask
    parsingState := .SEARCHING_STREAM_HEADER }

/-- A record without bytes is left without a call. -/
theorem emit_emptyRecord {s : SegmentScan}
    (state : s.parsingState = .SEARCHING_STREAM_DATA)
    (noBytes : s.curStreamLen = 0) : s.emit [] = ([], .ok s.leaveRecord) := by
  simp only [emit, state]
  rw [emitStreamData, if_pos noBytes]
  rfl

theorem leaveRecord_need_pos (s : SegmentScan) : 0 < s.leaveRecord.need := by
  by_cases last : s.curStreamCnt - 1 = 0
  · simp [leaveRecord, need, last]
  · simp [leaveRecord, need, last]

/-- The reader waits for nothing only before a record without bytes. -/
theorem need_eq_zero {s : SegmentScan} (nothing : s.need = 0) :
    s.parsingState = .SEARCHING_STREAM_DATA ∧ s.curStreamLen = 0 := by
  cases state : s.parsingState with
  | SEARCHING_SEGHEADER => simp [need, state] at nothing
  | SEARCHING_STREAM_MASK => simp [need, state] at nothing
  | SEARCHING_STREAM_HEADER => simp [need, state] at nothing
  | SEARCHING_STREAM_DATA =>
      simp only [need, state] at nothing
      exact ⟨rfl, UInt32.toNat_inj.mp nothing⟩

end SegmentScan

section Feeding

variable {μ : Type} (act : μ → SegmentCall → Except Abort μ)

/-- What the reader makes of some bytes, with a record that needs no more
bytes taken as finished. -/
def readSettled (c : (segmentReader.framer act).Config) (bytes : Bytes) :
    Except Abort (segmentReader.framer act).Config :=
  ((segmentReader.framer act).feed c bytes).bind
    (segmentReader.framer act).settle

def readerAt (s : SegmentScan) (owner : μ) :
    (segmentReader.framer act).Config :=
  (segmentReader.framer act).fresh (s, owner)

/-- One complete field: the calls of its case, then the state after it. -/
theorem readSettled_field {s : SegmentScan} (owner : μ) (field : Bytes)
    (calls : List SegmentCall) (next : SegmentScan) (rest : Bytes)
    (nonempty : field ≠ []) (exactFit : field.length = s.need)
    (emitted : s.emit field = (calls, .ok next)) :
    readSettled act (readerAt act s owner) (field ++ rest) =
      (run act owner calls).bind fun owner =>
        readSettled act (readerAt act next owner) rest := by
  have emittedHere : segmentReader.emit s field = (calls, .ok next) := emitted
  rw [readSettled, readerAt, Emitter.feed_record owner nonempty exactFit
    emittedHere]
  cases run act owner calls <;> rfl

theorem readSettled_segHeader {s : SegmentScan} {owner : μ} (rest : Bytes)
    (state : s.parsingState = .SEARCHING_SEGHEADER) :
    readSettled act (readerAt act s owner) ([83, 71, 73, 0] ++ rest) =
      readSettled act
        (readerAt act { s with parsingState := .SEARCHING_STREAM_MASK } owner)
        rest := by
  refine readSettled_field act _ _ [] _ rest (by simp) ?_ ?_
  · simp [SegmentScan.need, state]
  · simp only [SegmentScan.emit, state]
    rfl

theorem count_bits_lt {streamMask : UInt32}
    (slotFree : maskCount streamMask < MAX_XCODING_INSTANCES) :
    count_bits streamMask < 32 := by
  have small : maskCount streamMask < 32 := slotFree
  rw [count_bits_eq, UInt32.lt_iff_toNat_lt, UInt32.toNat_ofNat',
    Nat.mod_eq_of_lt (by omega)]
  exact small

theorem readSettled_mask {s : SegmentScan} {owner : μ} {streamMask : UInt32}
    (rest : Bytes) (state : s.parsingState = .SEARCHING_STREAM_MASK)
    (slotFree : maskCount streamMask < MAX_XCODING_INSTANCES) :
    readSettled act (readerAt act s owner)
        (toLE 4 streamMask.toNat ++ rest) =
      (act owner (.streamMask streamMask)).bind fun owner =>
        readSettled act (readerAt act (s.enterMask streamMask) owner) rest := by
  have read := readSettled_field act (s := s) owner
    (toLE 4 streamMask.toNat) [.streamMask streamMask]
    (s.enterMask streamMask) rest (by simp [toLE_four])
    (by simp [SegmentScan.need, state])
    (by
      simp only [SegmentScan.emit, state, SegmentScan.emitStreamMask,
        maskOf_toLE, assertThat, count_bits_lt slotFree, decide_true, if_true]
      rfl)
  rw [read, run_cons]
  cases act owner (.streamMask streamMask) <;> rfl

theorem readSettled_recordHeader {s : SegmentScan} {owner : μ}
    {r : StreamRecord} (rest : Bytes)
    (state : s.parsingState = .SEARCHING_STREAM_HEADER) :
    readSettled act (readerAt act s owner) (r.header ++ rest) =
      (act owner (.streamSource r.id (StreamSource.ofBits r.source.val))).bind
        fun owner => readSettled act (readerAt act (s.enterRecord r) owner) rest := by
  have firstByte : r.header.getD 0 0 = r.idSource := rfl
  have secondByte : r.header.getD 1 0 = 0 := rfl
  have idInRange : r.id.val < MAX_XCODING_INSTANCES := r.id.isLt
  have sourceInRange : r.source.val < kTotalStreamSource := r.source.isLt
  have read := readSettled_field act (s := s) owner r.header
    [.streamSource r.id (StreamSource.ofBits r.source.val)]
    (s.enterRecord r) rest (by simp [StreamRecord.header])
    (by simp [SegmentScan.need, state, StreamRecord.header])
    (by
      simp only [SegmentScan.emit, state, SegmentScan.emitStreamHeader,
        firstByte, secondByte, idSource_id, idSource_source]
      rw [dif_pos idInRange, if_pos sourceInRange]
      rfl)
  rw [read, run_cons]
  cases act owner (.streamSource r.id (StreamSource.ofBits r.source.val)) <;> rfl

/-- The bytes of a record: one delivery, or none for a record without
bytes. -/
theorem readSettled_recordData {s : SegmentScan} {owner : μ}
    {r : StreamRecord} (rest : Bytes) :
    readSettled act (readerAt act (s.enterRecord r) owner) (r.data ++ rest) =
      (run act owner (r.deliveries.map fun delivery =>
          .readRecord delivery.1 delivery.2)).bind fun owner =>
        readSettled act (readerAt act (s.enterRecord r).leaveRecord owner) rest := by
  have length : (s.enterRecord r).curStreamLen.toNat = r.data.length :=
    streamLenOf_header r
  by_cases empty : r.data = []
  · have noBytes : (s.enterRecord r).curStreamLen = 0 := by
      apply UInt32.toNat_inj.mp
      rw [length, empty]
      rfl
    have nothing : (s.enterRecord r).need = 0 := by
      rw [SegmentScan.need]
      simp only [SegmentScan.enterRecord]
      exact congrArg UInt32.toNat noBytes
    have settled :
        (segmentReader.framer act).settle
            (readerAt act (s.enterRecord r) owner) =
          .ok (readerAt act (s.enterRecord r).leaveRecord owner) := by
      rw [Framer.settle_of_zero nothing]
      have emitted :
          segmentReader.emit (s.enterRecord r) [] =
            ([], .ok (s.enterRecord r).leaveRecord) :=
        SegmentScan.emit_emptyRecord rfl noBytes
      simp only [readerAt, Emitter.framer, Emitter.fireWith,
        Framer.fresh_state, emitted]
      rfl
    have waiting : 0 < (segmentReader.framer act).need
        (readerAt act (s.enterRecord r).leaveRecord owner).state :=
      (s.enterRecord r).leaveRecord_need_pos
    simp only [empty, StreamRecord.deliveries, if_true, List.map_nil, run_nil,
      List.nil_append, Except.bind]
    rcases rest with _ | ⟨b, rest⟩
    · simp only [readSettled, Framer.feed_nil, Except.bind]
      rw [settled, Framer.settle_of_pos waiting]
    · rw [readSettled, Framer.feed_cons_settle, settled]
      rfl
  · have bytes : (s.enterRecord r).curStreamLen ≠ 0 := by
      intro none
      rw [none] at length
      exact empty (List.eq_nil_of_length_eq_zero length.symm)
    have read := readSettled_field act (s := s.enterRecord r) owner
      r.data [.readRecord r.id r.data] (s.enterRecord r).leaveRecord rest
      empty length.symm
      (by
        show SegmentScan.emitStreamData (s.enterRecord r) r.data = _
        rw [SegmentScan.emitStreamData, if_neg bytes]
        rfl)
    rw [read]
    simp only [StreamRecord.deliveries, empty, if_false, List.map_cons,
      List.map_nil]

theorem readSettled_record {s : SegmentScan} {owner : μ} {r : StreamRecord}
    (rest : Bytes) (state : s.parsingState = .SEARCHING_STREAM_HEADER) :
    readSettled act (readerAt act s owner) (r.bytes ++ rest) =
      (run act owner r.calls).bind fun owner =>
        readSettled act (readerAt act (s.enterRecord r).leaveRecord owner) rest := by
  rw [StreamRecord.bytes, List.append_assoc,
    readSettled_recordHeader act _ state, StreamRecord.calls, run_cons]
  cases act owner (.streamSource r.id (StreamSource.ofBits r.source.val)) with
  | error stopped => rfl
  | ok next => exact readSettled_recordData act rest

/-- The records of a segment, counted down to the next segment header. -/
theorem readSettled_records :
    ∀ (records : List StreamRecord) (s : SegmentScan),
      records ≠ [] → s.parsingState = .SEARCHING_STREAM_HEADER →
      s.curStreamCnt = UInt32.ofNat records.length → records.length ≤ 32 →
      ∃ s' : SegmentScan, s'.parsingState = .SEARCHING_SEGHEADER ∧
        ∀ (owner : μ) (rest : Bytes),
          readSettled act (readerAt act s owner)
              (records.flatMap StreamRecord.bytes ++ rest) =
            (run act owner (records.flatMap StreamRecord.calls)).bind
              fun owner => readSettled act (readerAt act s' owner) rest := by
  intro records
  induction records with
  | nil =>
      intro s nonempty
      exact absurd rfl nonempty
  | cons r others inductionHypothesis =>
      intro s _ state count few
      have left : s.curStreamCnt - 1 = UInt32.ofNat others.length := by
        rw [count, List.length_cons, UInt32.ofNat_add]
        exact UInt32.add_sub_cancel _ _
      rcases others with _ | ⟨second, others⟩
      · refine ⟨(s.enterRecord r).leaveRecord, ?_, ?_⟩
        · have last : s.curStreamCnt - 1 = 0 := left
          simp [SegmentScan.leaveRecord, SegmentScan.enterRecord, last]
        · intro owner rest
          simp only [List.flatMap_cons, List.flatMap_nil, List.append_nil]
          exact readSettled_record act rest state
      · have more : s.curStreamCnt - 1 ≠ 0 := by
          rw [left, Ne, ← UInt32.toNat_inj, UInt32.toNat_ofNat',
            UInt32.toNat_zero]
          simp only [List.length_cons] at few ⊢
          omega
        obtain ⟨s', reached, later⟩ := inductionHypothesis
          (s.enterRecord r).leaveRecord (by simp)
          (by simp [SegmentScan.leaveRecord, SegmentScan.enterRecord, more])
          left (by simp only [List.length_cons] at few ⊢; omega)
        refine ⟨s', reached, ?_⟩
        intro owner rest
        have allBytes :
            (r :: second :: others).flatMap StreamRecord.bytes =
              r.bytes ++ (second :: others).flatMap StreamRecord.bytes :=
          List.flatMap_cons
        have allCalls :
            (r :: second :: others).flatMap StreamRecord.calls =
              r.calls ++ (second :: others).flatMap StreamRecord.calls :=
          List.flatMap_cons
        rw [allBytes, List.append_assoc, readSettled_record act _ state,
          allCalls, run_append]
        cases run act owner r.calls with
        | error stopped => rfl
        | ok next => exact later next rest

theorem readSettled_segmentHead {s : SegmentScan} {owner : μ}
    (segment : Segment) (rest : Bytes)
    (state : s.parsingState = .SEARCHING_SEGHEADER) :
    readSettled act (readerAt act s owner) (segment.bytes ++ rest) =
      (act owner (.streamMask segment.mask)).bind fun owner =>
        readSettled act (readerAt act (s.enterMask segment.mask) owner)
          (segment.records.flatMap StreamRecord.bytes ++ rest) := by
  rw [Segment.bytes, List.append_assoc, List.append_assoc,
    readSettled_segHeader act _ state,
    readSettled_mask act _ rfl segment.slotFree]
  rfl

/-- A segment with records: its calls, and back to a segment header. -/
theorem readSettled_segment (segment : Segment) {s : SegmentScan}
    (state : s.parsingState = .SEARCHING_SEGHEADER)
    (busy : segment.records ≠ []) :
    ∃ s' : SegmentScan, s'.parsingState = .SEARCHING_SEGHEADER ∧
      ∀ (owner : μ) (rest : Bytes),
        readSettled act (readerAt act s owner) (segment.bytes ++ rest) =
          (run act owner segment.calls).bind fun owner =>
            readSettled act (readerAt act s' owner) rest := by
  have few : segment.records.length ≤ 32 := by
    rw [segment.counted]
    exact maskCount_le segment.mask
  have count :
      (s.enterMask segment.mask).curStreamCnt =
        UInt32.ofNat segment.records.length := by
    rw [segment.counted]
    exact count_bits_eq segment.mask
  obtain ⟨s', reached, later⟩ := readSettled_records act segment.records
    (s.enterMask segment.mask) busy rfl count few
  refine ⟨s', reached, ?_⟩
  intro owner rest
  rw [readSettled_segmentHead act segment rest state, Segment.calls, run_cons]
  cases act owner (.streamMask segment.mask) with
  | error stopped => rfl
  | ok next => exact later next rest

/-- A segment without records makes its mask call and leaves the reader at a
record header. -/
theorem readSettled_idleSegment (segment : Segment) {s : SegmentScan}
    {owner : μ} (rest : Bytes) (state : s.parsingState = .SEARCHING_SEGHEADER)
    (idle : segment.records = []) :
    readSettled act (readerAt act s owner) (segment.bytes ++ rest) =
      (run act owner segment.calls).bind fun owner =>
        readSettled act (readerAt act (s.enterMask segment.mask) owner)
          rest := by
  rw [readSettled_segmentHead act segment rest state, Segment.calls, idle,
    run_cons]
  cases act owner (.streamMask segment.mask) <;> rfl

/-- The magic of a segment is no record header: its first byte names source
three. -/
theorem readSettled_magicAsRecord {s : SegmentScan} {owner : μ}
    (segment : Segment) (rest : Bytes)
    (state : s.parsingState = .SEARCHING_STREAM_HEADER) :
    readSettled act (readerAt act s owner) (segment.bytes ++ rest) =
      .error (.assertion .curStreamSourceInRange) := by
  have magic :
      [83, 71, 73, 0] ++ toLE 4 segment.mask.toNat =
        [83, 71, 73, 0, UInt8.ofNat segment.mask.toNat,
          UInt8.ofNat (segment.mask.toNat / 256)] ++
        [UInt8.ofNat (segment.mask.toNat / 256 / 256),
          UInt8.ofNat (segment.mask.toNat / 256 / 256 / 256)] := by
    rw [toLE_four]
    rfl
  have fired (last secondLast : UInt8) :
      (segmentReader.framer act).fire (s, owner)
          [83, 71, 73, 0, last, secondLast] =
        .error (.assertion .curStreamSourceInRange) := by
    have emitted :
        segmentReader.emit s [83, 71, 73, 0, last, secondLast] =
          ([], .error (.assertion .curStreamSourceInRange)) := by
      have idInRange :
          (((83 : UInt8) &&& 0xf8) >>> 3).toNat < MAX_XCODING_INSTANCES := by
        decide
      have sourceTooLarge :
          ¬ ((83 : UInt8) &&& 0x7).toNat < kTotalStreamSource := by
        decide
      show SegmentScan.emit s _ = _
      simp only [SegmentScan.emit, state, SegmentScan.emitStreamHeader,
        List.getD_cons_zero]
      rw [dif_pos idInRange, if_neg sourceTooLarge]
    simp only [Emitter.framer, Emitter.fireWith, emitted]
    rfl
  rw [Segment.bytes, magic, List.append_assoc, List.append_assoc, readSettled,
    readerAt, Framer.feed_record (by simp), fired]
  · rfl
  · show _ = s.need
    simp [SegmentScan.need, state]

end Feeding

/-! ## Sequences of segments -/

theorem maskCount_eq_zero {streamMask : UInt32} :
    maskCount streamMask = 0 ↔ streamMask = 0 := by
  constructor
  · intro none
    by_contra nonzero
    have positive : streamMask.toNat ≠ 0 := fun same =>
      nonzero (UInt32.toNat_inj.mp same)
    have cleared :=
      Library.BitCount.card_setBits_cleared positive streamMask.toNat_lt
    rw [← maskCount_eq_card, none] at cleared
    omega
  · rintro rfl
    decide

theorem Segment.records_eq_nil {segment : Segment} :
    segment.records = [] ↔ segment.mask = 0 := by
  rw [← maskCount_eq_zero, ← segment.counted, List.length_eq_zero_iff]

/-- Settling the reader calls nobody and cannot fail. -/
theorem settle_reader {μ : Type} (act : μ → SegmentCall → Except Abort μ)
    (c : (segmentReader.framer act).Config) :
    ∃ settled, (segmentReader.framer act).settle c = .ok settled ∧
      settled.state.2 = c.state.2 := by
  by_cases nothing : (segmentReader.framer act).need c.state = 0
  · have atEmptyRecord := SegmentScan.need_eq_zero nothing
    have emitted :
        segmentReader.emit c.state.1 [] = ([], .ok c.state.1.leaveRecord) :=
      SegmentScan.emit_emptyRecord atEmptyRecord.1 atEmptyRecord.2
    refine ⟨readerAt act c.state.1.leaveRecord c.state.2, ?_, rfl⟩
    rw [Framer.settle_of_zero nothing]
    simp only [Emitter.framer, Emitter.fireWith, emitted]
    rfl
  · exact ⟨c, Framer.settle_of_pos (by omega), rfl⟩

/-- The owner at the end does not depend on whether the reader settles. -/
theorem readSettled_owner {μ : Type} (act : μ → SegmentCall → Except Abort μ)
    (c : (segmentReader.framer act).Config) (bytes : Bytes) :
    ((segmentReader.framer act).feed c bytes).map (fun c => c.state.2) =
      (readSettled act c bytes).map fun c => c.state.2 := by
  rw [readSettled]
  cases (segmentReader.framer act).feed c bytes with
  | error stopped => rfl
  | ok reached =>
      obtain ⟨settled, moved, same⟩ := settle_reader act reached
      simp only [Except.bind, moved, Except.map, same]

/-- Make the calls, whatever the slots' parsers do with them. -/
def recordCall (calls : List SegmentCall) (call : SegmentCall) :
    Except Abort (List SegmentCall) :=
  .ok (calls ++ [call])

theorem run_recordCall (made calls : List SegmentCall) :
    run recordCall made calls = .ok (made ++ calls) :=
  Emitter.run_record made calls

/-- The calls of successive `FLVSegmentParser::readData` calls on a new
parser, each `parser_[id]->readData` call returning. -/
def readDataCalls (inputs : List SmartBuffer) :
    Except Abort (List SegmentCall) :=
  ((segmentReader.framer recordCall).readAll (readerAt recordCall {} [])
    (inputs.map SmartBuffer.data)).map fun c => c.state.2

/-- The slot and the bytes of a `parser_[id]->readData` call. -/
def SegmentCall.delivery : SegmentCall → Option (Slot × Bytes)
  | .readRecord id curStream => some (id, curStream)
  | _ => none

theorem filterMap_delivery_record (r : StreamRecord) :
    r.calls.filterMap SegmentCall.delivery = r.deliveries := by
  simp only [StreamRecord.calls, List.filterMap_cons, SegmentCall.delivery,
    List.filterMap_map]
  exact List.filterMap_some

theorem filterMap_delivery_records (records : List StreamRecord) :
    (records.flatMap StreamRecord.calls).filterMap SegmentCall.delivery =
      records.flatMap StreamRecord.deliveries := by
  induction records with
  | nil => rfl
  | cons r rest inductionHypothesis =>
      rw [List.flatMap_cons, List.filterMap_append, filterMap_delivery_record,
        inductionHypothesis, List.flatMap_cons]

theorem filterMap_delivery (segments : List Segment) :
    (segments.flatMap Segment.calls).filterMap SegmentCall.delivery =
      segments.flatMap Segment.deliveries := by
  induction segments with
  | nil => rfl
  | cons segment rest inductionHypothesis =>
      rw [List.flatMap_cons, List.filterMap_append, inductionHypothesis,
        List.flatMap_cons, Segment.calls, List.filterMap_cons]
      simp only [SegmentCall.delivery, filterMap_delivery_records]
      rfl

/-- Segments without an empty one before the last are read call by call. -/
theorem readSettled_segments {μ : Type}
    (act : μ → SegmentCall → Except Abort μ) :
    ∀ (segments : List Segment) (s : SegmentScan) (owner : μ),
      s.parsingState = .SEARCHING_SEGHEADER →
      (∀ segment, segment ∈ segments.dropLast → segment.mask ≠ 0) →
      (readSettled act (readerAt act s owner)
          (segments.flatMap Segment.bytes)).map (fun c => c.state.2) =
        run act owner (segments.flatMap Segment.calls) := by
  intro segments
  have finished : ∀ (s : SegmentScan) (owner : μ),
      (readSettled act (readerAt act s owner) []).map (fun c => c.state.2) =
        .ok owner := by
    intro s owner
    obtain ⟨settled, moved, same⟩ := settle_reader act (readerAt act s owner)
    simp only [readSettled, Framer.feed_nil, Except.bind, moved, Except.map,
      same]
    rfl
  induction segments with
  | nil =>
      intro s owner _ _
      exact finished s owner
  | cons segment rest inductionHypothesis =>
      intro s owner state busy
      have laterBusy :
          ∀ later, later ∈ rest.dropLast → later.mask ≠ 0 := by
        intro later member
        apply busy later
        rcases rest with _ | ⟨next, others⟩
        · cases member
        · rw [List.dropLast_cons_cons]
          exact List.mem_cons_of_mem _ member
      rw [List.flatMap_cons, List.flatMap_cons, run_append]
      by_cases idle : segment.records = []
      · have last : rest = [] := by
          rcases rest with _ | ⟨next, others⟩
          · rfl
          · exact absurd (Segment.records_eq_nil.mp idle)
              (busy segment (by simp))
        rw [readSettled_idleSegment act segment _ state idle, last]
        cases run act owner segment.calls with
        | error stopped => rfl
        | ok owner => exact finished (s.enterMask segment.mask) owner
      · obtain ⟨s', reached, read⟩ :=
          readSettled_segment act segment state idle
        rw [read]
        cases run act owner segment.calls with
        | error stopped => rfl
        | ok owner => exact inductionHypothesis s' owner reached laterBusy

/-- An empty segment before the last stops the reader. -/
theorem busy_of_readSettled :
    ∀ (segments : List Segment) (s : SegmentScan) (made : List SegmentCall),
      s.parsingState = .SEARCHING_SEGHEADER →
      (∃ c, readSettled recordCall (readerAt recordCall s made)
        (segments.flatMap Segment.bytes) = .ok c) →
      ∀ segment, segment ∈ segments.dropLast → segment.mask ≠ 0 := by
  intro segments
  induction segments with
  | nil =>
      intro s made _ _ segment member
      cases member
  | cons segment rest inductionHypothesis =>
      intro s made state read
      rcases rest with _ | ⟨next, others⟩
      · intro earlier member
        cases member
      · obtain ⟨c, read⟩ := read
        rw [List.flatMap_cons] at read
        by_cases idle : segment.records = []
        · rw [readSettled_idleSegment recordCall segment _ state idle,
            run_recordCall, List.flatMap_cons] at read
          simp only [Except.bind] at read
          rw [readSettled_magicAsRecord recordCall next _ rfl] at read
          cases read
        · obtain ⟨s', reached, later⟩ :=
            readSettled_segment recordCall segment state idle
          rw [later, run_recordCall] at read
          have othersBusy := inductionHypothesis s' (made ++ segment.calls)
            reached ⟨c, read⟩
          intro earlier member
          rw [List.dropLast_cons_cons] at member
          rcases List.mem_cons.mp member with rfl | member
          · exact fun zero => idle (Segment.records_eq_nil.mpr zero)
          · exact othersBusy earlier member

theorem readDataCalls_eq (inputs : List SmartBuffer) :
    readDataCalls inputs =
      (readSettled recordCall (readerAt recordCall {} [])
        (SmartBuffer.stream inputs)).map fun c => c.state.2 := by
  rw [readDataCalls, Framer.readAll_eq_feed, readSettled_owner]
  rfl

/-- However the segments are cut, the reader fails no assertion and hands each
record with bytes to its slot once and in order, if and only if no segment but
the last is empty. -/
theorem segments_delivered_iff (segments : List Segment)
    (inputs : List SmartBuffer)
    (cut : SmartBuffer.stream inputs = segments.flatMap Segment.bytes) :
    (∃ calls, readDataCalls inputs = .ok calls ∧
        calls.filterMap SegmentCall.delivery =
          segments.flatMap Segment.deliveries) ↔
      ∀ segment, segment ∈ segments.dropLast → segment.mask ≠ 0 := by
  rw [readDataCalls_eq, cut]
  constructor
  · intro delivered
    obtain ⟨calls, read, _⟩ := delivered
    obtain ⟨c, reached, _⟩ := map_ok.mp read
    exact busy_of_readSettled segments {} [] rfl ⟨c, reached⟩
  · intro busy
    have read := readSettled_segments recordCall segments {} [] rfl busy
    rw [run_recordCall] at read
    exact ⟨_, read, filterMap_delivery segments⟩

def desktopSegment : Segment where
  mask := 2
  records := [⟨Slot.ofNat 1, desktopSource, [10, 20, 30], by decide⟩]
  counted := by decide +kernel
  slotFree := by decide +kernel

/-- The segment that the test driver makes of a mask rewritten to zero. -/
def idleSegment : Segment where
  mask := 0
  records := []
  counted := by decide +kernel
  slotFree := by decide +kernel

/-- The two segments, cut inside the length field and inside the data. -/
def desktopThenIdle : List SmartBuffer :=
  [⟨[83, 71, 73, 0, 2, 0, 0, 0, 9, 0, 3, 0], by decide⟩,
    ⟨[0, 0, 10], by decide⟩,
    ⟨[20, 30, 83, 71, 73, 0, 0, 0, 0, 0], by decide⟩]

theorem segments_delivered_desktopThenIdle :
    ∃ calls, readDataCalls desktopThenIdle = .ok calls ∧
      calls.filterMap SegmentCall.delivery =
        [desktopSegment, idleSegment].flatMap Segment.deliveries := by
  apply (segments_delivered_iff [desktopSegment, idleSegment]
    desktopThenIdle (by decide +kernel)).mpr
  intro segment member
  rw [List.mem_singleton.mp member]
  decide

/-- After an empty segment the magic of the next one is taken for a record
header. -/
theorem idleTwice_stops :
    ∃ inputs : List SmartBuffer,
      SmartBuffer.stream inputs =
        [idleSegment, idleSegment].flatMap Segment.bytes ∧
      ¬ ∃ calls, readDataCalls inputs = .ok calls ∧
        calls.filterMap SegmentCall.delivery =
          [idleSegment, idleSegment].flatMap Segment.deliveries := by
  refine ⟨[⟨[83, 71, 73, 0, 0, 0, 0, 0, 83, 71, 73, 0, 0, 0, 0, 0],
    by decide⟩], by decide +kernel, ?_⟩
  have stopped :
      readDataCalls [⟨[83, 71, 73, 0, 0, 0, 0, 0, 83, 71, 73, 0, 0, 0, 0, 0],
        by decide⟩] = .error (.assertion .curStreamSourceInRange) := by
    rfl
  intro delivered
  obtain ⟨calls, read, _⟩ := delivered
  rw [stopped] at read
  cases read

end GroupVoip
