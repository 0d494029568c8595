import GroupVoip.FLVTagFormat

/-!
# AVC video tags

The parser reads five bytes before the body of an AVC tag.  In a tag of
pictures it then takes NAL units until it has counted down the size of the
data, and puts a start code before each.
-/

namespace GroupVoip

open Library.Runs Library.WireBytes

/-! ## The AVC header -/

/-- What a video tag says before its packet type and its body. -/
structure AvcHeader where
  frameType : BitVec 4
  compositionTime : Bytes
  length_compositionTime : compositionTime.length = 3

namespace AvcHeader

def ofKeyFrame : AvcHeader :=
  ⟨1, [0, 0, 0], length_threeZeros⟩

variable (header : AvcHeader)

/-- The frame type and the codec share a byte. -/
def firstByte : UInt8 :=
  UInt8.ofNat (header.frameType.toNat * 16 + kAVCVideoPacket.toNat)

def data (avcPacketType : UInt8) (body : Bytes) : Bytes :=
  header.firstByte :: avcPacketType :: (header.compositionTime ++ body)

def tag (frame : TagFrame) (avcPacketType : UInt8) (body : Bytes) : FLVTag :=
  frame.tag .kVideoStreamType (header.data avcPacketType body)

/-- What the parser makes of the tag once it has the input data. -/
def tagBody (curSpsPps inputData : Bytes) (sp : SpecialProperty) : TagBody where
  accessUnit :=
    { st := .kVideoStreamType
      isKey := header.frameType = 1
      ctype := kAVCVideoPacket
      sp := sp
      payload := if videoReady curSpsPps inputData sp then some inputData
        else none }
  frameReady := videoReady curSpsPps inputData sp
  curSpsPps :=
    if videoReady curSpsPps inputData sp && sp = .kSpsPps then inputData
    else curSpsPps

theorem length_data (avcPacketType : UInt8) (body : Bytes) :
    (header.data avcPacketType body).length = body.length + 5 := by
  simp only [data, List.length_cons, List.length_append,
    header.length_compositionTime]
  omega

theorem firstByte_toNat :
    header.firstByte.toNat = header.frameType.toNat * 16 + 7 := by
  have small := header.frameType.isLt
  have seven : kAVCVideoPacket.toNat = 7 := rfl
  rw [firstByte, UInt8.toNat_ofNat', seven]
  omega

theorem isKey_eq :
    decide (UInt32.ofNat (header.firstByte.toNat / 16) = 1) =
      decide (header.frameType = 1) := by
  have small := header.frameType.isLt
  have nibble : header.firstByte.toNat / 16 = header.frameType.toNat := by
    rw [firstByte_toNat]
    omega
  rw [nibble, decide_eq_decide, ← UInt32.toNat_inj, ← BitVec.toNat_inj,
    UInt32.toNat_ofNat', Nat.mod_eq_of_lt (by omega)]
  rfl

theorem codec_eq :
    (UInt32.ofNat (header.firstByte.toNat % 16)).toUInt8 = kAVCVideoPacket := by
  have nibble : header.firstByte.toNat % 16 = 7 := by
    rw [firstByte_toNat]
    omega
  rw [nibble]
  rfl

variable {header}

theorem ahead_body {p : BitStreamParser} {avcPacketType : UInt8}
    {body rest : Bytes}
    (ahead : p.Ahead (header.data avcPacketType body ++ rest)) :
    (p.skip 5).Ahead (body ++ rest) := by
  have split : header.data avcPacketType body ++ rest =
      (header.firstByte :: avcPacketType :: header.compositionTime) ++
        (body ++ rest) := by
    rw [data]
    simp only [List.cons_append, List.append_assoc]
  rw [split] at ahead
  apply ahead.skip
  simp only [List.length_cons, header.length_compositionTime]

/-- The four reads before the body. -/
theorem header_reads {p : BitStreamParser} {avcPacketType : UInt8}
    {body rest : Bytes}
    (ahead : p.Ahead (header.data avcPacketType body ++ rest)) :
    p.readBits 4 = (UInt32.ofNat (header.firstByte.toNat / 16),
        { p with offset := p.offset + 4 }) ∧
      BitStreamParser.readBits { p with offset := p.offset + 4 } 4 =
        (UInt32.ofNat (header.firstByte.toNat % 16), p.skip 1) ∧
      (p.skip 1).readByte = (avcPacketType, p.skip 2) ∧
      (p.skip 2).readBytes 3 = .ok (header.compositionTime, p.skip 5) := by
  have first : p.Ahead (header.firstByte :: avcPacketType ::
      (header.compositionTime ++ (body ++ rest))) := by
    simpa only [data, List.cons_append, List.append_assoc] using ahead
  have second := first.skipOne
  have third := second.skipOne
  have two : (p.skip 1).skip 1 = p.skip 2 := p.skip_skip 1 1
  have five : (p.skip 2).skip 3 = p.skip 5 := p.skip_skip 2 3
  rw [two] at third
  refine ⟨first.readHighNibble, first.readLowNibble, ?_, ?_⟩
  · rw [second.readByte, two]
  · rw [third.readBytes header.length_compositionTime, five]

/-- After the five bytes the packet type decides. -/
theorem readVideoBody_avc {p : BitStreamParser} {avcPacketType : UInt8}
    {body rest : Bytes}
    (ahead : p.Ahead (header.data avcPacketType body ++ rest))
    (curSpsPps : Bytes) (dataSize : UInt64) :
    readVideoBody curSpsPps p dataSize =
      (readVideoData (p.skip 5) avcPacketType (dataSize - 1 - 4)).map
        fun (inputData, sp) => header.tagBody curSpsPps inputData sp := by
  obtain ⟨frameType, codecId, packetType, composition⟩ := header_reads ahead
  rw [readVideoBody, frameType]
  simp only [codecId, header.codec_eq, packetType, composition, assertThat,
    decide_true, if_true, bind, Except.bind, header.isKey_eq]
  cases readVideoData (p.skip 5) avcPacketType (dataSize - 1 - 4) <;> rfl

theorem size_left (avcPacketType : UInt8) (body : Bytes) :
    UInt64.ofNat (header.data avcPacketType body).length - 1 - 4 =
      UInt64.ofNat body.length := by
  have five : body.length + 5 = body.length + 4 + 1 := rfl
  rw [length_data, five, UInt64.ofNat_add, UInt64.ofNat_add]
  exact (congrArg (· - 4) (UInt64.add_sub_cancel _ 1)).trans
    (UInt64.add_sub_cancel _ 4)

/-- A tag of AVC video is what its packet type makes of it. -/
theorem readTag_avc {frame : TagFrame} {avcPacketType : UInt8} {body : Bytes}
    (fits : (header.data avcPacketType body).length < tagSizeLimit)
    (curSpsPps : Bytes) :
    readTag curSpsPps (header.tag frame avcPacketType body) =
      (readVideoData
        ((frame.dataCursor (header.data avcPacketType body)).skip 5)
        avcPacketType (UInt64.ofNat body.length)).map
          fun (inputData, sp) =>
            (frame.timestamp,
              some (header.tagBody curSpsPps inputData sp)) := by
  have nonempty : header.data avcPacketType body ≠ [] := List.cons_ne_nil _ _
  have isVideo := frame.readTag_tag curSpsPps .kVideoStreamType nonempty fits
  have read := readVideoBody_avc
    (frame.ahead_data (header.data avcPacketType body)) curSpsPps
    (UInt64.ofNat (header.data avcPacketType body).length)
  rw [size_left] at read
  rw [tag, isVideo, readBody, read]
  cases readVideoData
    ((frame.dataCursor (header.data avcPacketType body)).skip 5)
    avcPacketType (UInt64.ofNat body.length) <;> rfl

/-- What the packet type makes of the body is delivered. -/
theorem parse_avc {frame : TagFrame} {avcPacketType : UInt8} {body : Bytes}
    (fits : (header.data avcPacketType body).length < tagSizeLimit)
    (clock : FLVClock) (globalAudioTimestamp : UInt32) :
    parseNextFLVFrame clock globalAudioTimestamp
        (header.tag frame avcPacketType body) =
      (readVideoData
        ((frame.dataCursor (header.data avcPacketType body)).skip 5)
        avcPacketType (UInt64.ofNat body.length)).map
          fun (inputData, sp) =>
            clock.deliver globalAudioTimestamp frame.timestamp
              (header.tagBody clock.curSpsPps inputData sp) := by
  rw [parseNextFLVFrame, header.readTag_avc fits]
  cases readVideoData
    ((frame.dataCursor (header.data avcPacketType body)).skip 5)
    avcPacketType (UInt64.ofNat body.length) <;> rfl

end AvcHeader

/-! ## The slice loop -/

/-- The slice loop, with the cursor and the counter it ends with. -/
def naluLoop : Nat → BitStreamParser → UInt64 → Bytes →
    Except Abort (BitStreamParser × UInt64 × Bytes)
  | 0, bsParser, dataSize, inputData =>
      if dataSize > 0 then .error .outOfRange
      else .ok (bsParser, dataSize, inputData)
  | turns + 1, bsParser, dataSize, inputData =>
      if dataSize > 0 then do
        let (sliceSize, slice, bsParser) ← readNalu bsParser
        let inputData :=
          if sliceSize > 0 then inputData ++ (naluStarterCode ++ slice)
          else inputData
        naluLoop turns bsParser
          (dataSize - (4 + sliceSize).toUInt64) inputData
      else .ok (bsParser, dataSize, inputData)

theorem readNalus_eq (turns : Nat) :
    ∀ (p : BitStreamParser) (dataSize : UInt64) (inputData : Bytes),
      readNalus turns p dataSize inputData =
        (naluLoop turns p dataSize inputData).map fun (_, _, made) => made := by
  induction turns with
  | zero =>
      intro p dataSize inputData
      rw [readNalus, naluLoop]
      split <;> rfl
  | succ turns inductionHypothesis =>
      intro p dataSize inputData
      rw [readNalus, naluLoop]
      split
      · cases readNalu p with
        | error stopped => rfl
        | ok read => exact inductionHypothesis _ _ _
      · rfl

/-- The loop as `parseNextFLVFrame` enters it. -/
def naluLoopOf (tag : FLVTag) :
    Except Abort (BitStreamParser × UInt64 × Bytes) := do
  let dataSize := (tag.curFlvTagSize - 4).toUInt64 - 7
  let (_, bsParser) ← readTimestamp ⟨tag.strFlvTag, 0⟩
  let (_, bsParser) := bsParser.readBits 4
  let (_, bsParser) := bsParser.readBits 4
  let (_, bsParser) := bsParser.readByte
  let (_, bsParser) ← bsParser.readBytes 3
  naluLoop (bsParser.byteStream.length + 1) bsParser (dataSize - 1 - 4) []

theorem naluLoopOf_tag {header : AvcHeader} {frame : TagFrame}
    {avcPacketType : UInt8} {body : Bytes}
    (fits : (header.data avcPacketType body).length < tagSizeLimit) :
    naluLoopOf (header.tag frame avcPacketType body) =
      naluLoop ((header.tag frame avcPacketType body).strFlvTag.length + 1)
        ((frame.dataCursor (header.data avcPacketType body)).skip 5)
        (UInt64.ofNat body.length) [] := by
  obtain ⟨frameType, codecId, packetType, composition⟩ :=
    AvcHeader.header_reads
      (frame.ahead_data (header.data avcPacketType body))
  have time := frame.readTimestamp_tag (header.data avcPacketType body)
  have size := frame.dataSize_tag fits .kVideoStreamType
  rw [naluLoopOf, AvcHeader.tag, size, header.size_left, TagFrame.tag]
  simp only [time, frameType, codecId, packetType, composition, bind,
    Except.bind]
  rfl

/-- The input data of a tag of pictures is what the loop leaves. -/
theorem parse_nalus {header : AvcHeader} {frame : TagFrame} {body : Bytes}
    (fits : (header.data kAVCNalu body).length < tagSizeLimit)
    (clock : FLVClock) (globalAudioTimestamp : UInt32) :
    parseNextFLVFrame clock globalAudioTimestamp
        (header.tag frame kAVCNalu body) =
      (naluLoopOf (header.tag frame kAVCNalu body)).map
        fun (_, _, inputData) =>
          clock.deliver globalAudioTimestamp frame.timestamp
            (header.tagBody clock.curSpsPps (inputData ++ stBytesPadding)
              .kRawData) := by
  have pictures : ∀ (p : BitStreamParser) (dataSize : UInt64),
      readVideoData p kAVCNalu dataSize =
        (naluLoop (p.byteStream.length + 1) p dataSize []).map
          fun (_, _, inputData) =>
            (inputData ++ stBytesPadding, .kRawData) := by
    intro p dataSize
    have isNalu : readVideoData p kAVCNalu dataSize =
        (readNalus (p.byteStream.length + 1) p dataSize [] >>= fun inputData =>
          .ok (inputData ++ stBytesPadding, .kRawData)) := rfl
    rw [isNalu, readNalus_eq]
    cases naluLoop (p.byteStream.length + 1) p dataSize [] <;> rfl
  have sameBytes : ((frame.dataCursor (header.data kAVCNalu body)).skip
      5).byteStream = (header.tag frame kAVCNalu body).strFlvTag := rfl
  rw [header.parse_avc fits, naluLoopOf_tag fits, pictures, sameBytes]
  cases naluLoop ((header.tag frame kAVCNalu body).strFlvTag.length + 1)
    ((frame.dataCursor (header.data kAVCNalu body)).skip 5)
    (UInt64.ofNat body.length) [] <;> rfl

def naluRecord (nal : Bytes) : Bytes :=
  toBE 4 nal.length ++ nal

def naluRecords (nals : List Bytes) : Bytes :=
  nals.flatMap naluRecord

/-- Every NAL unit but the empty ones behind a start code. -/
def annexB (nals : List Bytes) : Bytes :=
  (nals.filter (· ≠ [])).flatMap fun nal => naluStarterCode ++ nal

theorem naluRecords_cons (nal : Bytes) (nals : List Bytes) :
    naluRecords (nal :: nals) =
      toBE 4 nal.length ++ (nal ++ naluRecords nals) := by
  rw [naluRecords, List.flatMap_cons, naluRecord, List.append_assoc]
  rfl

theorem length_naluRecords_cons (nal : Bytes) (nals : List Bytes) :
    (naluRecords (nal :: nals)).length =
      (naluRecords nals).length + (4 + nal.length) := by
  rw [naluRecords_cons, List.length_append, List.length_append, length_toBE]
  omega

theorem length_naluRecords (nals : List Bytes) :
    4 * nals.length ≤ (naluRecords nals).length := by
  induction nals with
  | nil => exact Nat.le_refl 0
  | cons nal nals inductionHypothesis =>
      rw [length_naluRecords_cons, List.length_cons]
      omega

/-- In front of the other units stands a unit, and behind it they do. -/
theorem ahead_unit {p : BitStreamParser} {nal rest : Bytes} {nals : List Bytes}
    (ahead : p.Ahead (naluRecords (nal :: nals) ++ rest)) :
    p.Ahead (toBE 4 nal.length ++ (nal ++ (naluRecords nals ++ rest))) ∧
      (p.skip (4 + nal.length)).Ahead (naluRecords nals ++ rest) := by
  rw [naluRecords_cons, List.append_assoc, List.append_assoc] at ahead
  refine ⟨ahead, ?_⟩
  rw [← BitStreamParser.skip_skip]
  exact (ahead.skip (length_toBE 4 nal.length)).skip rfl

theorem annexB_cons (nal : Bytes) (nals : List Bytes) (made : Bytes) :
    (if nal ≠ [] then made ++ (naluStarterCode ++ nal) else made) ++
        annexB nals =
      made ++ annexB (nal :: nals) := by
  by_cases empty : nal = []
  · simp [annexB, empty]
  · simp [annexB, empty]

/-- The four bytes of a length spell it. -/
theorem length_spelled {n : Nat} (fits : n < 2 ^ 32) :
    ∃ b0 b1 b2 b3, toBE 4 n = [b0, b1, b2, b3] ∧
      ofLE [b3, b2, b1, b0] = n ∧ (UInt32.ofNat n).toNat = n := by
  have spelled : ofLE (toLE 4 n) = n := ofLE_toLE_of_lt fits
  refine ⟨_, _, _, _, rfl, spelled, ?_⟩
  rw [UInt32.toNat_ofNat', Nat.mod_eq_of_lt fits]

/-- One turn takes one unit. -/
theorem readNalu_ahead {p : BitStreamParser} {nal rest : Bytes}
    (ahead : p.Ahead (toBE 4 nal.length ++ (nal ++ rest)))
    (fits : nal.length < 2 ^ 32) :
    readNalu p =
      .ok (UInt32.ofNat nal.length, nal, p.skip (4 + nal.length)) := by
  obtain ⟨b0, b1, b2, b3, written, spelled, size⟩ := length_spelled fits
  rw [written] at ahead
  have second := ahead.skip (t := 4) rfl
  rw [readNalu, ahead.readBytes (t := 4) rfl]
  simp only [bind, Except.bind, charAt, List.length_cons, List.length_nil,
    List.getD_cons_succ, List.getD_cons_zero, Nat.reduceAdd, Nat.reduceLT,
    if_true, spelled]
  rw [size, second.readBytes rfl, BitStreamParser.skip_skip]
  rfl

/-- What the counter loses for a unit. -/
theorem size_record {size : Nat} (fits : size < tagSizeLimit) :
    (4 + UInt32.ofNat size).toUInt64 = UInt64.ofNat (4 + size) := by
  have small : size < 16777216 := fits
  have four : (4 : UInt32).toNat = 4 := rfl
  apply UInt64.toNat_inj.mp
  rw [UInt32.toNat_toUInt64, UInt32.toNat_add, four, UInt32.toNat_ofNat',
    UInt64.toNat_ofNat']
  omega

theorem slice_kept {nal : Bytes} (fits : nal.length < tagSizeLimit)
    (made : Bytes) :
    (if UInt32.ofNat nal.length > 0 then made ++ (naluStarterCode ++ nal)
      else made) =
      if nal ≠ [] then made ++ (naluStarterCode ++ nal) else made := by
  have small : nal.length < 16777216 := fits
  have isSize : UInt32.ofNat nal.length > 0 ↔ nal ≠ [] := by
    change 0 < UInt32.ofNat nal.length ↔ nal ≠ []
    rw [UInt32.lt_iff_toNat_lt, UInt32.toNat_ofNat',
      Nat.mod_eq_of_lt (by omega), ← List.length_pos_iff]
    rfl
  simp only [isSize]

theorem naluLoop_records (nals : List Bytes) :
    ∀ (turns : Nat) (p : BitStreamParser) (rest made : Bytes),
      nals.length < turns → (naluRecords nals).length < tagSizeLimit →
      p.Ahead (naluRecords nals ++ rest) →
        naluLoop turns p (UInt64.ofNat (naluRecords nals).length) made =
          .ok (p.skip (naluRecords nals).length, 0, made ++ annexB nals) := by
  induction nals with
  | nil =>
      intro turns p rest made enough _ _
      have stay : p.skip 0 = p := rfl
      have finished : naluLoop turns p 0 made = .ok (p, 0, made) := by
        cases turns <;> rfl
      rw [annexB, List.filter_nil, List.flatMap_nil, List.append_nil]
      exact finished
  | cons nal nals inductionHypothesis =>
      intro turns p rest made enough fits ahead
      have limit : tagSizeLimit = 16777216 := rfl
      have total := length_naluRecords_cons nal nals
      obtain ⟨first, next⟩ := ahead_unit ahead
      have positive : UInt64.ofNat (naluRecords (nal :: nals)).length > 0 := by
        apply (size_pos_iff fits).mpr
        omega
      cases turns with
      | zero => exact absurd enough (Nat.not_lt_zero _)
      | succ turns =>
          have left : UInt64.ofNat (naluRecords (nal :: nals)).length -
              (4 + UInt32.ofNat nal.length).toUInt64 =
                UInt64.ofNat (naluRecords nals).length := by
            rw [size_record (by omega), total, UInt64.ofNat_add]
            exact UInt64.add_sub_cancel _ _
          rw [naluLoop, if_pos positive, readNalu_ahead first (by omega)]
          simp only [bind, Except.bind]
          rw [left, slice_kept (by omega), inductionHypothesis turns _ rest _
            (by rw [List.length_cons] at enough; omega) (by omega) next,
            annexB_cons, BitStreamParser.skip_skip, total, Nat.add_comm]

/-- A tag of pictures becomes one message with a start code before each unit,
and the loop ends where the data of the tag ends. -/
theorem nalus_delivered (clock : FLVClock) (globalAudioTimestamp : UInt32)
    (frame : TagFrame) (header : AvcHeader) (nals : List Bytes)
    (fits : (header.data kAVCNalu (naluRecords nals)).length < tagSizeLimit) :
    (∃ clock' au,
      parseNextFLVFrame clock globalAudioTimestamp
          (header.tag frame kAVCNalu (naluRecords nals)) =
        .ok (clock', some au) ∧
      au.st = .kVideoStreamType ∧ au.sp = .kRawData ∧
      (au.isKey = true ↔ header.frameType = 1) ∧
      au.payload = some (annexB nals ++ stBytesPadding)) ∧
    naluLoopOf (header.tag frame kAVCNalu (naluRecords nals)) =
      .ok (⟨(header.tag frame kAVCNalu (naluRecords nals)).strFlvTag,
        (7 + (header.data kAVCNalu (naluRecords nals)).length) * 8⟩,
        0, annexB nals) := by
  have bytes : (header.tag frame kAVCNalu (naluRecords nals)).strFlvTag.length =
      (naluRecords nals).length + 16 := by
    rw [AvcHeader.tag, TagFrame.tag, frame.length_strFlvTag,
      header.length_data]
  have enough : nals.length <
      (header.tag frame kAVCNalu (naluRecords nals)).strFlvTag.length + 1 := by
    have units := length_naluRecords nals
    omega
  have small : (naluRecords nals).length < tagSizeLimit := by
    rw [header.length_data] at fits
    omega
  have ends : naluLoopOf (header.tag frame kAVCNalu (naluRecords nals)) =
      .ok (⟨(header.tag frame kAVCNalu (naluRecords nals)).strFlvTag,
        (7 + (header.data kAVCNalu (naluRecords nals)).length) * 8⟩,
        0, annexB nals) := by
    have ahead := header.ahead_body
      (frame.ahead_data (header.data kAVCNalu (naluRecords nals)))
    rw [naluLoopOf_tag fits,
      naluLoop_records nals _ _ frame.previousTagSize [] enough small ahead,
      BitStreamParser.skip_skip, header.length_data, List.nil_append]
    have position : 56 + (5 + (naluRecords nals).length) * 8 =
        (7 + ((naluRecords nals).length + 5)) * 8 := by
      omega
    rw [BitStreamParser.skip, TagFrame.dataCursor, position]
    rfl
  have ready : videoReady clock.curSpsPps (annexB nals ++ stBytesPadding)
      .kRawData = true := by
    have something : annexB nals ++ stBytesPadding ≠ [] := by
      simp [stBytesPadding]
    simp [videoReady, something]
  refine ⟨?_, ends⟩
  rw [parse_nalus fits, ends]
  simp only [Except.map, FLVClock.deliver, AvcHeader.tagBody, ready, if_true]
  refine ⟨_, _, rfl, rfl, rfl, ?_, rfl⟩
  exact decide_eq_true_iff

theorem nalus_delivered_keyFrame :
    ∃ clock' au,
      parseNextFLVFrame {} 0
          (AvcHeader.ofKeyFrame.tag (TagFrame.zeros 40) kAVCNalu
            (naluRecords [[0x65, 1], [], [0x41]])) =
        .ok (clock', some au) ∧
      au.isKey = true ∧
      au.payload = some ([0, 0, 0, 1, 0x65, 1, 0, 0, 0, 1, 0x41] ++
        stBytesPadding) := by
  obtain ⟨⟨clock', au, parsed, _, _, isKey, payload⟩, _⟩ :=
    nalus_delivered {} 0 (TagFrame.zeros 40) AvcHeader.ofKeyFrame
      [[0x65, 1], [], [0x41]] (by decide)
  exact ⟨clock', au, parsed, isKey.mpr rfl, payload⟩

end GroupVoip
