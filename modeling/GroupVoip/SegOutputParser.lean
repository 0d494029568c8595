import GroupVoip.OutputRoundTrip

/-!
# SegOutputParser

The tool that cuts the output of the mixer into one file for each stream.  It
reads what the Java `SegmentParser` reads, with registers of 32 bits and with
its assertions in force.
-/

namespace GroupVoip

open Library.Framing Library.WireBytes Library.Runs

/-- The registers of the parser. -/
structure OutputScan where
  parsingState : FLVSegmentParsingState := .SEARCHING_SEGHEADER
  curStreamId : OutputSlot := 0
  curStreamLen : UInt32 := 0
  curStreamCnt : UInt32 := 0
  numStreams : UInt32 := 0
deriving DecidableEq, Repr

/-- `writer_[id].writeData(buffer, dataLength)` -/
structure WriteData where
  id : OutputSlot
  buffer : Bytes
deriving DecidableEq, Repr

namespace OutputScan

def need (s : OutputScan) : Nat :=
  match s.parsingState with
  | .SEARCHING_SEGHEADER => 3
  | .SEARCHING_STREAM_MASK => 4
  | .SEARCHING_STREAM_HEADER => 5
  | .SEARCHING_STREAM_DATA => s.curStreamLen.toNat

def readSegHeader (s : OutputScan) (curBuf : Bytes) :
    Except Abort OutputScan := do
  assertThat (curBuf.getD 0 0 = 83 && curBuf.getD 1 0 = 71 &&
    curBuf.getD 2 0 = 79) .segmentMagic
  return { s with parsingState := .SEARCHING_STREAM_MASK }

/-- The loop that looks at the bits of the mask changes nothing. -/
def readStreamMask (s : OutputScan) (curBuf : Bytes) :
    Except Abort OutputScan := do
  let streamMask := UInt32.ofNat (ofLE curBuf)
  let numStreams := count_bits streamMask + 1
  assertThat (numStreams < 32) .numStreamsInRange
  return { s with
    numStreams := numStreams
    curStreamCnt := numStreams
    parsingState := .SEARCHING_STREAM_HEADER }

/-- The first byte is a `char`, whose sign fills the higher bits of a `u32`;
such numbers fail the assertion. -/
def readStreamHeader (s : OutputScan) (curBuf : Bytes) :
    Except Abort OutputScan :=
  let curStreamId := (curBuf.getD 0 0).toInt8.toInt32.toUInt32
  if inRange : curStreamId.toNat < MAX_XCODING_INSTANCES + 1 then
    .ok { s with
      curStreamId := ⟨curStreamId.toNat, inRange⟩
      curStreamLen := UInt32.ofNat (ofLE (curBuf.drop 1))
      parsingState := .SEARCHING_STREAM_DATA }
  else .error (.assertion .curStreamIdInRange)

def finishStream (s : OutputScan) : OutputScan :=
  { s with
    curStreamCnt := s.curStreamCnt - 1
    parsingState :=
      if s.curStreamCnt - 1 ≠ 0 then .SEARCHING_STREAM_HEADER
      else .SEARCHING_SEGHEADER }

/-- The four cases of `readData` once the buffer is full. -/
def emit (s : OutputScan) (curBuf : Bytes) :
    List WriteData × Except Abort OutputScan :=
  match s.parsingState with
  | .SEARCHING_SEGHEADER => ([], s.readSegHeader curBuf)
  | .SEARCHING_STREAM_MASK => ([], s.readStreamMask curBuf)
  | .SEARCHING_STREAM_HEADER => ([], s.readStreamHeader curBuf)
  | .SEARCHING_STREAM_DATA =>
      (if s.curStreamLen ≠ 0 then [⟨s.curStreamId, curBuf⟩] else [],
        .ok s.finishStream)

theorem finishStream_need_pos (s : OutputScan) : 0 < s.finishStream.need := by
  by_cases more : s.curStreamCnt - 1 ≠ 0
  · simp only [finishStream, need, if_pos more]
    omega
  · simp only [finishStream, need, if_neg more]
    omega

end OutputScan

/-- `readData` without the files. -/
def outputReader : Emitter UInt8 OutputScan WriteData Abort where
  need := OutputScan.need
  emit := OutputScan.emit
  progress := by
    intro s s' nothing fired
    cases state : s.parsingState with
    | SEARCHING_SEGHEADER => simp [OutputScan.need, state] at nothing
    | SEARCHING_STREAM_MASK => simp [OutputScan.need, state] at nothing
    | SEARCHING_STREAM_HEADER => simp [OutputScan.need, state] at nothing
    | SEARCHING_STREAM_DATA =>
        have finished : s.finishStream = s' := by
          simpa [OutputScan.emit, state] using fired
        rw [← finished]
        exact s.finishStream_need_pos

/-- The contents of the files behind `writer_`. -/
abbrev OutputFiles : Type := OutputSlot → Bytes

namespace SegOutputParser

def writeData (files : OutputFiles) (call : WriteData) :
    Except Abort OutputFiles :=
  .ok (Function.update files call.id (files call.id ++ call.buffer))

/-- The parser and the files. -/
abbrev Parser : Type := (outputReader.framer writeData).Config

def start : Parser :=
  (outputReader.framer writeData).fresh ({}, fun _ => [])

def readData (p : Parser) (data : Bytes) : Except Abort Parser :=
  (outputReader.framer writeData).read p data

/-- The loop of `main` over what its reads return. -/
def splitStreams (chunks : List Bytes) : Except Abort OutputFiles :=
  (run readData start chunks).map fun p => p.state.2

/-! ## Reading the segments of the mixer -/

/-- What is for slot `j`, if that is slot `i`. -/
def dataFor {α : Type} (i j : OutputSlot) (data : List α) : List α :=
  if j = i then data else []

/-- The files behind the records of a list. -/
def written (files : OutputFiles) (records : List (OutputSlot × Bytes)) :
    OutputFiles :=
  fun i => files i ++ records.flatMap fun record => dataFor i record.1 record.2

theorem written_nil (files : OutputFiles) : written files [] = files := by
  funext i
  exact List.append_nil _

theorem written_cons (files : OutputFiles) (j : OutputSlot) (data : Bytes)
    (rest : List (OutputSlot × Bytes)) :
    written files ((j, data) :: rest) =
      written (Function.update files j (files j ++ data)) rest := by
  funext i
  rw [written, written, List.flatMap_cons, ← List.append_assoc]
  congr 1
  by_cases same : j = i
  · subst same
    rw [dataFor, if_pos rfl, Function.update_self]
  · rw [dataFor, if_neg same, Function.update_of_ne (Ne.symm same),
      List.append_nil]

/-- In a list of slots without repetition every slot stands once. -/
theorem flatMap_dataFor {α : Type} (f : OutputSlot → List α)
    (i : OutputSlot) :
    ∀ {slots : List OutputSlot}, slots.Nodup →
      slots.flatMap (fun j => dataFor i j (f j)) =
        if i ∈ slots then f i else [] := by
  intro slots
  induction slots with
  | nil =>
      intro _
      rfl
  | cons j rest inductionHypothesis =>
      intro distinct
      obtain ⟨fresh, others⟩ := List.nodup_cons.mp distinct
      rw [List.flatMap_cons, inductionHypothesis others]
      by_cases same : j = i
      · subst same
        rw [dataFor, if_pos rfl, if_neg fresh, if_pos List.mem_cons_self,
          List.append_nil]
      · rw [dataFor, if_neg same, List.nil_append]
        simp only [List.mem_cons, Ne.symm same, false_or]

/-- What the parser makes of some bytes, with a record that needs no more
bytes taken as finished. -/
abbrev parseSettled (s : OutputScan) (files : OutputFiles) (bytes : Bytes) :
    Except Abort Parser :=
  outputReader.feedSettled writeData
    ((outputReader.framer writeData).fresh (s, files)) bytes

def enterMask (s : OutputScan) (count : Nat) : OutputScan :=
  { s with
    numStreams := UInt32.ofNat count
    curStreamCnt := UInt32.ofNat count
    parsingState := .SEARCHING_STREAM_HEADER }

def enterStream (s : OutputScan) (i : OutputSlot) (data : Bytes) :
    OutputScan :=
  { s with
    curStreamId := i
    curStreamLen := UInt32.ofNat data.length
    parsingState := .SEARCHING_STREAM_DATA }

variable {s : OutputScan}

theorem emit_segHeader (state : s.parsingState = .SEARCHING_SEGHEADER) :
    OutputScan.emit s [83, 71, 79] =
      ([], .ok { s with parsingState := .SEARCHING_STREAM_MASK }) := by
  simp only [OutputScan.emit, state, OutputScan.readSegHeader]
  rfl

theorem emit_streamMask (streamMask : UInt32)
    (state : s.parsingState = .SEARCHING_STREAM_MASK) :
    OutputScan.emit s (toLE 4 streamMask.toNat) =
      ([], if maskCount streamMask + 1 < 32 then
          .ok (enterMask s (maskCount streamMask + 1))
        else .error (.assertion .numStreamsInRange)) := by
  have few := maskCount_le streamMask
  have fits : streamMask.toNat < 256 ^ 4 := streamMask.toNat_lt
  have count : count_bits streamMask + 1 =
      UInt32.ofNat (maskCount streamMask + 1) := by
    rw [count_bits_eq, UInt32.ofNat_add]
    rfl
  have below : UInt32.ofNat (maskCount streamMask + 1) < 32 ↔
      maskCount streamMask + 1 < 32 := by
    rw [UInt32.lt_iff_toNat_lt, UInt32.toNat_ofNat',
      Nat.mod_eq_of_lt (by omega)]
    rfl
  simp only [OutputScan.emit, state, OutputScan.readStreamMask,
    ofLE_toLE_of_lt fits, UInt32.ofNat_toNat, count, below]
  by_cases accepted : maskCount streamMask + 1 < 32
  · rw [if_pos accepted, decide_eq_true accepted]
    rfl
  · rw [if_neg accepted, decide_eq_false accepted]
    rfl

theorem streamId_eq (i : OutputSlot) :
    (UInt8.ofNat i.val).toInt8.toInt32.toUInt32.toNat = i.val := by
  have everySlot : ∀ i : Fin 33,
      (UInt8.ofNat i.val).toInt8.toInt32.toUInt32.toNat = i.val := by
    decide +kernel
  exact everySlot i

theorem emit_streamHeader {i : OutputSlot} {data : Bytes}
    (state : s.parsingState = .SEARCHING_STREAM_HEADER)
    (short : data.length < 2 ^ 32) :
    OutputScan.emit s ([UInt8.ofNat i.val] ++ toLE 4 data.length) =
      ([], .ok (enterStream s i data)) := by
  have firstByte :
      ([UInt8.ofNat i.val] ++ toLE 4 data.length).getD 0 0 =
        UInt8.ofNat i.val := rfl
  have others :
      ([UInt8.ofNat i.val] ++ toLE 4 data.length).drop 1 =
        toLE 4 data.length := rfl
  have fits : data.length < 256 ^ 4 := short
  have inRange := i.isLt
  simp only [OutputScan.emit, state, OutputScan.readStreamHeader, firstByte,
    others, streamId_eq, dif_pos inRange, ofLE_toLE_of_lt fits]
  rfl

theorem emit_streamData {i : OutputSlot} {data : Bytes} :
    OutputScan.emit (enterStream s i data) data =
      (if UInt32.ofNat data.length ≠ 0 then [⟨i, data⟩] else [],
        .ok (enterStream s i data).finishStream) :=
  rfl

/-- The call for a record, and its effect on the files. -/
theorem run_record (files : OutputFiles) (i : OutputSlot) {data : Bytes}
    (short : data.length < 2 ^ 32) :
    run writeData files
        (if UInt32.ofNat data.length ≠ 0 then [⟨i, data⟩] else []) =
      .ok (Function.update files i (files i ++ data)) := by
  have empty : UInt32.ofNat data.length ≠ 0 ↔ data ≠ [] := by
    rw [ne_eq, ← UInt32.toNat_inj, UInt32.toNat_ofNat',
      Nat.mod_eq_of_lt short]
    exact not_congr List.length_eq_zero_iff
  by_cases nonempty : data ≠ []
  · rw [if_pos (empty.mpr nonempty)]
    rfl
  · rw [if_neg fun some => nonempty (empty.mp some), run_nil,
      not_not.mp nonempty, List.append_nil, Function.update_eq_self]

theorem parseSettled_record {i : OutputSlot} {data : Bytes}
    (state : s.parsingState = .SEARCHING_STREAM_HEADER)
    (short : data.length < 2 ^ 32) (files : OutputFiles) (rest : Bytes) :
    parseSettled s files (FLVSegmentOutput.streamRecord i data ++ rest) =
      parseSettled (enterStream s i data).finishStream
        (Function.update files i (files i ++ data)) rest := by
  have headerFits :
      ([UInt8.ofNat i.val] ++ toLE 4 data.length).length =
        outputReader.need s := by
    simp [outputReader, OutputScan.need, state]
  have dataFits : data.length = outputReader.need (enterStream s i data) := by
    simp only [outputReader, OutputScan.need, enterStream, UInt32.toNat_ofNat',
      Nat.mod_eq_of_lt short]
  rw [FLVSegmentOutput.streamRecord, List.append_assoc, parseSettled,
    Emitter.feedSettled_record files headerFits (emit_streamHeader state short),
    run_nil]
  refine (Emitter.feedSettled_record files dataFits emit_streamData rest).trans
    ?_
  rw [run_record files i short]
  rfl

/-- The records of a segment, counted down to the next segment header. -/
theorem parseSettled_records (records : List (OutputSlot × Bytes))
    (some : records ≠ []) (few : records.length < 2 ^ 32)
    (short : ∀ record ∈ records, record.2.length < 2 ^ 32)
    (state : s.parsingState = .SEARCHING_STREAM_HEADER)
    (count : s.curStreamCnt = UInt32.ofNat records.length) :
    ∃ s' : OutputScan, s'.parsingState = .SEARCHING_SEGHEADER ∧
      ∀ files rest, parseSettled s files
          ((records.flatMap fun record =>
            FLVSegmentOutput.streamRecord record.1 record.2) ++ rest) =
        parseSettled s' (written files records) rest := by
  induction records generalizing s with
  | nil => exact absurd rfl some
  | cons record others inductionHypothesis =>
      obtain ⟨i, data⟩ := record
      rw [List.length_cons] at few count
      have shortHere : data.length < 2 ^ 32 :=
        short (i, data) List.mem_cons_self
      have left : s.curStreamCnt - 1 = UInt32.ofNat others.length := by
        rw [count, UInt32.ofNat_add]
        exact UInt32.add_sub_cancel _ _
      cases others with
      | nil =>
          refine ⟨(enterStream s i data).finishStream, ?_, ?_⟩
          · have last : ¬ s.curStreamCnt - 1 ≠ 0 := by
              rw [left]
              decide
            exact if_neg last
          · intro files rest
            rw [List.flatMap_cons, List.flatMap_nil, List.append_nil,
              parseSettled_record state shortHere, written_cons, written_nil]
      | cons second others =>
          have more : s.curStreamCnt - 1 ≠ 0 := by
            rw [left, ne_eq, ← UInt32.toNat_inj, UInt32.toNat_ofNat',
              Nat.mod_eq_of_lt (by omega)]
            exact Nat.succ_ne_zero _
          obtain ⟨s', reached, later⟩ := inductionHypothesis (by simp)
            (by omega)
            (fun r member => short r (List.mem_cons_of_mem _ member))
            (s := (enterStream s i data).finishStream) (if_pos more) left
          refine ⟨s', reached, ?_⟩
          intro files rest
          rw [List.flatMap_cons, List.append_assoc,
            parseSettled_record state shortHere, later,
            written_cons files i data]

/-- Writing out a record without data changes no file. -/
theorem settle_files (p : Parser) :
    ((outputReader.framer writeData).settle p).map (fun p => p.state.2) =
      .ok p.state.2 := by
  by_cases nothing : p.state.1.need = 0
  · have zero : (outputReader.framer writeData).need p.state = 0 := nothing
    have idle : p.state.1.curStreamLen = 0 ∧
        p.state.1.parsingState = .SEARCHING_STREAM_DATA := by
      cases state : p.state.1.parsingState with
      | SEARCHING_SEGHEADER => simp [OutputScan.need, state] at nothing
      | SEARCHING_STREAM_MASK => simp [OutputScan.need, state] at nothing
      | SEARCHING_STREAM_HEADER => simp [OutputScan.need, state] at nothing
      | SEARCHING_STREAM_DATA =>
          simp only [OutputScan.need, state] at nothing
          exact ⟨UInt32.toNat_inj.mp nothing, rfl⟩
    have emitted : outputReader.emit p.state.1 [] =
        ([], .ok p.state.1.finishStream) := by
      simp only [outputReader, OutputScan.emit, idle.2, idle.1]
      rfl
    have fired : (outputReader.framer writeData).fire p.state [] =
        .ok (p.state.1.finishStream, p.state.2) :=
      Emitter.fire_eq writeData p.state.2 emitted
    rw [Framer.settle_of_zero zero, fired]
    rfl
  · have waiting : 0 < (outputReader.framer writeData).need p.state :=
      Nat.pos_of_ne_zero nothing
    rw [Framer.settle_of_pos waiting]
    rfl

theorem splitStreams_eq (chunks : List Bytes) :
    splitStreams chunks =
      (parseSettled {} (fun _ => []) chunks.flatten).map
        fun p => p.state.2 := by
  have whole : run readData start chunks =
      (outputReader.framer writeData).feed start chunks.flatten :=
    Framer.readAll_eq_feed _ _ chunks
  rw [splitStreams, whole, parseSettled, Emitter.feedSettled]
  simp only [start]
  cases (outputReader.framer writeData).feed
      ((outputReader.framer writeData).fresh ({}, fun _ => []))
      chunks.flatten with
  | error stopped => rfl
  | ok p => exact (settle_files p).symm

end SegOutputParser

namespace FLVSegmentOutput

variable {o : FLVSegmentOutput}

theorem Fillable.maskCount_eq (fillable : o.Fillable) :
    maskCount o.mask = o.busySlots.length := by
  rw [maskCount, length_busySlots]
  apply List.countP_congr
  intro i _
  rw [Streams.maskBit_eq_testBit, fillable.countStreams_eq.2.2 i]

/-- There are at most 30 records besides the one of the mix of all. -/
def FewStreams (o : FLVSegmentOutput) : Prop :=
  o.busySlots.length ≤ 30

instance (o : FLVSegmentOutput) : Decidable o.FewStreams :=
  inferInstanceAs (Decidable (_ ≤ _))

open SegOutputParser in
/-- The parser stops at a mask that it refuses; else the data of the records
end up in the files. -/
theorem Fillable.parseSettled_segment (fillable : o.Fillable) {s : OutputScan}
    (state : s.parsingState = .SEARCHING_SEGHEADER) (files : OutputFiles)
    (rest : Bytes) :
    if o.FewStreams then
      ∃ s' : OutputScan, s'.parsingState = .SEARCHING_SEGHEADER ∧
        parseSettled s files (o.segment ++ rest) =
          parseSettled s' (written files o.records) rest
    else
      parseSettled s files (o.segment ++ rest) =
        .error (.assertion .numStreamsInRange) := by
  have magicFits : ([83, 71, 79] : Bytes).length = outputReader.need s := by
    simp [outputReader, OutputScan.need, state]
  have maskFits : (toLE 4 o.mask.toNat).length = outputReader.need
      { s with parsingState := .SEARCHING_STREAM_MASK } := by
    simp [outputReader, OutputScan.need]
  have maskRead := emit_streamMask
    (s := { s with parsingState := .SEARCHING_STREAM_MASK }) o.mask rfl
  have split : parseSettled s files (o.segment ++ rest) =
      (OutputScan.emit { s with parsingState := .SEARCHING_STREAM_MASK }
        (toLE 4 o.mask.toNat)).2.bind fun next =>
          parseSettled next files
            ((o.records.flatMap fun record =>
              streamRecord record.1 record.2) ++ rest) := by
    rw [segment, List.append_assoc, List.append_assoc, parseSettled,
      Emitter.feedSettled_record files magicFits (emit_segHeader state),
      run_nil, maskRead]
    exact Emitter.feedSettled_record files maskFits maskRead _
  rw [maskRead, fillable.maskCount_eq] at split
  by_cases few : o.FewStreams
  · have accepted : o.busySlots.length + 1 < 32 := Nat.lt_succ_of_le
      (Nat.succ_le_succ few)
    rw [if_pos accepted] at split
    rw [if_pos few, split]
    have count := o.length_records
    have short : ∀ record ∈ o.records, record.2.length < 2 ^ 32 := by
      intro record member
      rcases List.mem_append.mp member with mobile | last
      · obtain ⟨i, _, rfl⟩ := List.mem_map.mp mobile
        exact Nat.lt_of_le_of_lt (fillable.short i) (by decide)
      · rw [List.mem_singleton.mp last]
        exact Nat.lt_of_le_of_lt (fillable.short allIn) (by decide)
    obtain ⟨s', reached, later⟩ := parseSettled_records o.records
      (by simp [records]) (by omega) short
      (s := enterMask { s with parsingState := .SEARCHING_STREAM_MASK }
        (o.busySlots.length + 1)) rfl (by rw [count]; rfl)
    exact ⟨s', reached, later files rest⟩
  · have refused : ¬ o.busySlots.length + 1 < 32 := by
      intro accepted
      exact few (by rw [FewStreams]; omega)
    rw [if_neg refused] at split
    rw [if_neg few, split]
    rfl

open SegOutputParser in
theorem written_records (o : FLVSegmentOutput) (files : OutputFiles) :
    written files o.records = fun i => files i ++ o.pending i := by
  funext i
  have mobile : (o.busySlots.map fun j => (j, o.pending j)).flatMap
      (fun record => dataFor i record.1 record.2) =
        mobileSlots.flatMap fun j => dataFor i j (o.pending j) := by
    rw [List.flatMap_map]
    apply o.flatMap_busy
    intro j idle
    simp only [dataFor, idle, ite_self]
  have everySlot : slots.flatMap (fun j => dataFor i j (o.pending j)) =
      o.pending i := by
    rw [slots, flatMap_dataFor _ i (List.nodup_finRange _),
      if_pos (List.mem_finRange i)]
  rw [written, records, List.flatMap_append, mobile, ← everySlot, slots_eq,
    List.flatMap_append]
  rfl

open SegOutputParser in
/-- The parser asserts that a mask leaves room for two slots. -/
theorem parseSettled_fillable (outputs : List FLVSegmentOutput) :
    ∀ (s : OutputScan) (files : OutputFiles),
      (∀ o ∈ outputs, o.Fillable) → s.parsingState = .SEARCHING_SEGHEADER →
      (parseSettled s files (outputs.flatMap segment)).map
          (fun p => p.state.2) =
        if ∀ o ∈ outputs, o.FewStreams then
          .ok fun i => files i ++ outputs.flatMap fun o => o.pending i
        else .error (.assertion .numStreamsInRange) := by
  induction outputs with
  | nil =>
      intro s files _ state
      have waiting : 0 < (outputReader.framer writeData).need (s, files) := by
        simp [Emitter.framer, outputReader, OutputScan.need, state]
      rw [if_pos (by simp), List.flatMap_nil, parseSettled,
        Emitter.feedSettled, Framer.feed_nil]
      simp only [Except.bind]
      rw [Framer.settle_of_pos waiting]
      simp only [List.flatMap_nil, List.append_nil]
      rfl
  | cons o rest inductionHypothesis =>
      intro s files fillable state
      have here := (fillable o List.mem_cons_self).parseSettled_segment state
        files (rest.flatMap segment)
      rw [List.flatMap_cons]
      by_cases few : o.FewStreams
      · rw [if_pos few] at here
        obtain ⟨s', reached, continues⟩ := here
        rw [continues, inductionHypothesis s' _ (fun other member =>
          fillable other (List.mem_cons_of_mem o member)) reached,
          o.written_records]
        simp only [List.forall_mem_cons, few, true_and, List.flatMap_cons,
          List.append_assoc]
      · rw [if_neg few] at here
        rw [here, if_neg fun all => few (all o List.mem_cons_self)]
        rfl

theorem sendAll_of_fillable {outputs : List FLVSegmentOutput}
    (fillable : ∀ o ∈ outputs, o.Fillable) :
    sendAll outputs = .ok (outputs.flatMap segment) := by
  induction outputs with
  | nil => rfl
  | cons o rest inductionHypothesis =>
      rw [sendAll, (fillable o List.mem_cons_self).getOneFrame_eq,
        inductionHypothesis fun other member =>
          fillable other (List.mem_cons_of_mem o member)]
      rfl

open SegOutputParser in
/-- However the output is cut into reads, every stream's packets are in its
file, unless an instant has packets for more than 30 mobile streams. -/
theorem outputs_splitStreams (outputs : List FLVSegmentOutput)
    (fillable : ∀ o ∈ outputs, o.Fillable) :
    ∃ wire, sendAll outputs = .ok wire ∧
      ∀ chunks : List Bytes, chunks.flatten = wire →
        splitStreams chunks =
          if ∀ o ∈ outputs, o.FewStreams then
            .ok fun i => outputs.flatMap fun o => o.pending i
          else .error (.assertion .numStreamsInRange) := by
  refine ⟨outputs.flatMap segment, sendAll_of_fillable fillable, ?_⟩
  intro chunks cut
  rw [splitStreams_eq, cut, parseSettled_fillable outputs {} _ fillable rfl]
  rfl

/-- With one stream the second instant passes, with 31 it does not. -/
theorem outputs_splitStreams_samples :
    (∃ wire, sendAll [busySample 2, busySample 1] = .ok wire ∧
      ∀ chunks : List Bytes, chunks.flatten = wire →
        SegOutputParser.splitStreams chunks =
          .ok fun i => (busySample 2).pending i ++ (busySample 1).pending i) ∧
    ∃ wire, sendAll [busySample 2, busySample 31] = .ok wire ∧
      ∀ chunks : List Bytes, chunks.flatten = wire →
        SegOutputParser.splitStreams chunks =
          .error (.assertion .numStreamsInRange) := by
  have fillable : ∀ count, 0 < count → count ≤ 31 →
      ∀ o ∈ [busySample 2, busySample count], o.Fillable := by
    intro count some few o member
    rcases List.mem_pair.mp member with rfl | rfl
    · exact (sendable_busySample (by decide) (by decide)).fillable
    · exact (sendable_busySample some few).fillable
  obtain ⟨wire, sent, arrives⟩ := outputs_splitStreams
    [busySample 2, busySample 1] (fillable 1 (by decide) (by decide))
  obtain ⟨longer, sentToo, stops⟩ := outputs_splitStreams
    [busySample 2, busySample 31] (fillable 31 (by decide) (by decide))
  refine ⟨⟨wire, sent, ?_⟩, longer, sentToo, ?_⟩
  · intro chunks cut
    rw [arrives chunks cut, if_pos (by decide +kernel)]
    simp only [List.flatMap_cons, List.flatMap_nil, List.append_nil]
  · intro chunks cut
    rw [stops chunks cut, if_neg (by decide +kernel)]

end FLVSegmentOutput

end GroupVoip
