import GroupVoip.AvcTags
import GroupVoip.TagAudit

/-!
# Tags that do no harm

The parser trusts the sizes inside a tag.  A tag passes the audit exactly when
those sizes stay inside the bytes that they are about.
-/

namespace GroupVoip

open Library.Runs Library.WireBytes

/-! ## Tags whose sizes are right -/

/-- The length that two bytes spell for the parser. -/
def joinedLength (first second : UInt8) : Nat :=
  ((first.toUInt16 <<< 8) ||| second.toInt8.toInt16.toUInt16).toNat

/-- The bytes hold an SPS and a PPS of the lengths that the parser reads. -/
def RecordInside (bytes : Bytes) : Prop :=
  ∃ front a b sps number c d pps rest,
    front.length = 6 ∧ sps.length = joinedLength a b ∧
      pps.length = joinedLength c d ∧
      bytes = front ++ ([a, b] ++ (sps ++ ([number] ++ ([c, d] ++
        (pps ++ rest)))))

/-- A video tag is AVC and has its five bytes.  Its record may use the four
bytes behind the data; its NAL units fill the data. -/
def VideoWellFormed (frame : TagFrame) (data : Bytes) : Prop :=
  ∃ (header : AvcHeader) (avcPacketType : UInt8) (body : Bytes),
    data = header.data avcPacketType body ∧
      (avcPacketType = kAVCSeqHeader →
        RecordInside (body ++ frame.previousTagSize)) ∧
      (avcPacketType = kAVCNalu → ∃ nals, body = naluRecords nals)

/-- AAC has a second byte. -/
def AudioWellFormed (data : Bytes) : Prop :=
  (data.getD 0 0).toNat / 16 = kAAC.toNat → 2 ≤ data.length

def WellFormed (frame : TagFrame) (st : StreamType) (data : Bytes) : Prop :=
  data ≠ [] →
    (st = .kVideoStreamType → VideoWellFormed frame data) ∧
    (st = .kAudioStreamType → AudioWellFormed data)

/-- What is taken from two parts and fits the first is taken from the first. -/
theorem split_front {first second front rest : Bytes}
    (same : first ++ second = front ++ rest)
    (fits : front.length ≤ first.length) :
    ∃ others, first = front ++ others ∧ rest = others ++ second := by
  obtain ⟨others, isFirst⟩ := List.prefix_of_prefix_length_le
    (List.prefix_append front rest)
    (same ▸ List.prefix_append first second) fits
  rw [← isFirst, List.append_assoc, List.append_cancel_left_eq] at same
  exact ⟨others, isFirst.symm, same.symm⟩

namespace Audit

/-! ## The checks at a cursor -/

section Cursor

variable {p q : BitStreamParser} {bytes rest : Bytes}

theorem readBytes_ahead (ahead : p.Ahead (bytes ++ rest)) {t : Nat}
    (isLength : bytes.length = t) :
    readBytes p t = .ok (bytes, p.skip t) := by
  obtain ⟨position, -, isAhead⟩ := ahead.position
  rw [List.length_append] at position
  rw [readBytes, if_pos (by omega), isAhead, List.take_left' isLength]
  rfl

/-- A request that passes takes a part of what is ahead. -/
theorem readBytes_split (ahead : p.Ahead rest) {t : Nat}
    (passes : readBytes p t = .ok (bytes, q)) :
    ∃ more, rest = bytes ++ more ∧ bytes.length = t ∧ q = p.skip t ∧
      q.Ahead more := by
  have isLength := length_readBytes passes
  obtain ⟨position, -, isAhead⟩ := ahead.position
  rw [readBytes] at passes
  split at passes
  · rw [isAhead] at passes
    cases passes
    have split := (List.take_append_drop t rest).symm
    have start := ahead
    rw [split] at start
    exact ⟨rest.drop t, split, isLength, rfl, start.skip isLength⟩
  · cases passes

theorem readByte_ahead {b : UInt8} (ahead : p.Ahead (b :: rest)) :
    readByte p = .ok (b, p.skip 1) := by
  rw [readByte, if_pos ahead.bits_inside, ahead.readByte]

theorem readByte_split {b : UInt8} (ahead : p.Ahead rest)
    (passes : readByte p = .ok (b, q)) :
    ∃ more, rest = b :: more ∧ q = p.skip 1 ∧ q.Ahead more := by
  cases rest with
  | nil =>
      obtain ⟨position, _, _⟩ := ahead.position
      rw [List.length_nil] at position
      rw [readByte, if_neg (by omega)] at passes
      cases passes
  | cons first more =>
      rw [readByte_ahead ahead] at passes
      cases passes
      exact ⟨more, rfl, rfl, ahead.skipOne⟩

end Cursor

theorem subtract_ofNat {size taken : Nat} (fits : size < 2 ^ 64)
    (takenFits : taken < 2 ^ 64) :
    subtract (UInt64.ofNat size) (UInt64.ofNat taken) =
      if taken ≤ size then .ok (UInt64.ofNat (size - taken))
      else .error .sizeWraps := by
  have isLe : UInt64.ofNat taken ≤ UInt64.ofNat size ↔ taken ≤ size := by
    rw [UInt64.le_iff_toNat_le, UInt64.toNat_ofNat', UInt64.toNat_ofNat',
      Nat.mod_eq_of_lt takenFits, Nat.mod_eq_of_lt fits]
  rw [subtract]
  by_cases enough : taken ≤ size
  · rw [if_pos (isLe.mpr enough), if_pos enough, UInt64.ofNat_sub enough]
  · rw [if_neg (mt isLe.mp enough), if_neg enough]

theorem subtract_added (size taken : Nat) (fits : size + taken < 2 ^ 64) :
    subtract (UInt64.ofNat (size + taken)) (UInt64.ofNat taken) =
      .ok (UInt64.ofNat size) := by
  rw [subtract_ofNat fits (by omega), if_pos (Nat.le_add_left taken size),
    Nat.add_sub_cancel]

theorem subtract_split {size taken : Nat} {left : UInt64}
    (fits : size < 2 ^ 64) (takenFits : taken < 2 ^ 64)
    (passes : subtract (UInt64.ofNat size) (UInt64.ofNat taken) = .ok left) :
    taken ≤ size ∧ left = UInt64.ofNat (size - taken) := by
  rw [subtract_ofNat fits takenFits] at passes
  split at passes
  · rename_i enough
    exact ⟨enough, (Except.ok.inj passes).symm⟩
  · cases passes

/-! ## The record -/

theorem u16Length_pair (a b : UInt8) :
    ∃ len, u16Length [a, b] = .ok len ∧ len.toNat = joinedLength a b :=
  ⟨_, rfl, rfl⟩

theorem two_bytes {bytes : Bytes} (isLength : bytes.length = 2) :
    ∃ a b, bytes = [a, b] := by
  match bytes, isLength with
  | [a, b], _ => exact ⟨a, b, rfl⟩

theorem one_byte {bytes : Bytes} (isLength : bytes.length = 1) :
    ∃ a, bytes = [a] := by
  match bytes, isLength with
  | [a], _ => exact ⟨a, rfl⟩

section Record

variable {p : BitStreamParser} {bytes : Bytes}

theorem readSpsPps_sound {made : Bytes} (ahead : p.Ahead bytes)
    (passes : readSpsPps p = .ok made) : RecordInside bytes := by
  obtain ⟨⟨front, p1⟩, readFront, passes⟩ := bind_ok.mp passes
  obtain ⟨rest1, is1, length1, _, ahead⟩ := readBytes_split ahead readFront
  obtain ⟨⟨spsLenStr, p2⟩, readSpsLen, passes⟩ := bind_ok.mp passes
  obtain ⟨rest2, is2, length2, _, ahead⟩ := readBytes_split ahead readSpsLen
  obtain ⟨a, b, isSpsLen⟩ := two_bytes length2
  obtain ⟨spsLen, isRead, passes⟩ := bind_ok.mp passes
  obtain ⟨spsLen', isRead', spsLength⟩ := u16Length_pair a b
  rw [isSpsLen, isRead', Except.ok.injEq] at isRead
  obtain ⟨⟨sps, p3⟩, readSps, passes⟩ := bind_ok.mp passes
  obtain ⟨rest3, is3, length3, _, ahead⟩ := readBytes_split ahead readSps
  obtain ⟨⟨numberStr, p4⟩, readNumber, passes⟩ := bind_ok.mp passes
  obtain ⟨rest4, is4, length4, _, ahead⟩ := readBytes_split ahead readNumber
  obtain ⟨number, isNumber⟩ := one_byte length4
  obtain ⟨⟨ppsLenStr, p5⟩, readPpsLen, passes⟩ := bind_ok.mp passes
  obtain ⟨rest5, is5, length5, _, ahead⟩ := readBytes_split ahead readPpsLen
  obtain ⟨c, d, isPpsLen⟩ := two_bytes length5
  obtain ⟨ppsLen, isRead2, passes⟩ := bind_ok.mp passes
  obtain ⟨ppsLen', isRead2', ppsLength⟩ := u16Length_pair c d
  rw [isPpsLen, isRead2', Except.ok.injEq] at isRead2
  obtain ⟨⟨pps, p6⟩, readPps, passes⟩ := bind_ok.mp passes
  obtain ⟨rest6, is6, length6, _, _⟩ := readBytes_split ahead readPps
  refine ⟨front, a, b, sps, number, c, d, pps, rest6, length1, ?_, ?_, ?_⟩
  · rw [length3, ← isRead, spsLength]
  · rw [length6, ← isRead2, ppsLength]
  · rw [is1, is2, is3, is4, is5, is6, isSpsLen, isNumber, isPpsLen]

theorem readSpsPps_complete (ahead : p.Ahead bytes)
    (inside : RecordInside bytes) :
    ∃ made, readSpsPps p = .ok made ∧ made.length ≤ bytes.length := by
  obtain ⟨front, a, b, sps, number, c, d, pps, rest, lengthFront, lengthSps,
    lengthPps, isBytes⟩ := inside
  obtain ⟨spsLen, readSpsLen, isSpsLen⟩ := u16Length_pair a b
  obtain ⟨ppsLen, readPpsLen, isPpsLen⟩ := u16Length_pair c d
  rw [← isSpsLen] at lengthSps
  rw [← isPpsLen] at lengthPps
  rw [isBytes] at ahead
  have second := ahead.skip lengthFront
  have third := second.skip (t := 2) rfl
  have fourth := third.skip lengthSps
  have fifth := fourth.skip (t := 1) rfl
  have sixth := fifth.skip (t := 2) rfl
  refine ⟨naluStarterCode ++ sps ++ naluStarterCode ++ pps, ?_, ?_⟩
  · rw [readSpsPps, readBytes_ahead ahead lengthFront]
    simp only [bind, Except.bind, readBytes_ahead second (t := 2) rfl,
      readSpsLen, readBytes_ahead third lengthSps,
      readBytes_ahead fourth (t := 1) rfl,
      readBytes_ahead fifth (t := 2) rfl, readPpsLen,
      readBytes_ahead sixth lengthPps]
    rfl
  · rw [isBytes]
    simp only [naluStarterCode, List.length_append, List.length_cons,
      List.length_nil]
    omega

end Record

/-! ## The units -/

section Units

variable {p q : BitStreamParser}

theorem readNalu_sound {bytes slice : Bytes} {sliceSize : UInt32}
    (ahead : p.Ahead bytes)
    (passes : readNalu p = .ok (sliceSize, slice, q)) :
    ∃ more, bytes = naluRecord slice ++ more ∧
      sliceSize = UInt32.ofNat slice.length ∧ q.Ahead more := by
  obtain ⟨⟨lenStr, p1⟩, readLen, passes⟩ := bind_ok.mp passes
  obtain ⟨rest1, is1, length1, _, ahead⟩ := readBytes_split ahead readLen
  match lenStr, length1 with
  | [b0, b1, b2, b3], _ =>
    obtain ⟨_, isB3, passes⟩ := bind_ok.mp passes
    cases isB3
    obtain ⟨_, isB2, passes⟩ := bind_ok.mp passes
    cases isB2
    obtain ⟨_, isB1, passes⟩ := bind_ok.mp passes
    cases isB1
    obtain ⟨_, isB0, passes⟩ := bind_ok.mp passes
    cases isB0
    obtain ⟨⟨taken, p2⟩, readSlice, passes⟩ := bind_ok.mp passes
    cases passes
    obtain ⟨rest2, is2, length2, _, ahead⟩ := readBytes_split ahead readSlice
    have isSize : (UInt32.ofNat (ofLE [b3, b2, b1, b0])).toNat =
        ofLE [b3, b2, b1, b0] := by
      rw [UInt32.toNat_ofNat', Nat.mod_eq_of_lt (ofLE_four_lt b3 b2 b1 b0)]
    have length : slice.length = ofLE [b3, b2, b1, b0] :=
      length2.trans isSize
    have written : toBE 4 slice.length = [b0, b1, b2, b3] := by
      rw [length]
      exact congrArg List.reverse (toLE_ofLE [b3, b2, b1, b0])
    refine ⟨rest2, ?_, ?_, ahead⟩
    · rw [naluRecord, written, is1, is2, List.append_assoc]
    · rw [length]
      rfl

theorem readNalu_complete {nal rest : Bytes}
    (ahead : p.Ahead (toBE 4 nal.length ++ (nal ++ rest)))
    (fits : nal.length < 2 ^ 32) :
    readNalu p =
      .ok (UInt32.ofNat nal.length, nal, p.skip (4 + nal.length)) := by
  obtain ⟨b0, b1, b2, b3, written, spelled, size⟩ := length_spelled fits
  rw [written] at ahead
  have second := ahead.skip (t := 4) rfl
  rw [readNalu, readBytes_ahead ahead (t := 4) rfl]
  simp only [bind, Except.bind, charAt, List.length_cons, List.length_nil,
    List.getD_cons_succ, List.getD_cons_zero, Nat.reduceAdd, Nat.reduceLT,
    if_true, spelled]
  rw [size, readBytes_ahead second rfl, BitStreamParser.skip_skip]
  rfl

/-- A loop that passes took whole units: the counter never went below the
size of the next one. -/
theorem readNalus_sound (turns : Nat) :
    ∀ (p : BitStreamParser) (body rest made made' : Bytes),
      body.length < tagSizeLimit → rest.length ≤ 4 →
      p.Ahead (body ++ rest) →
      readNalus turns p (UInt64.ofNat body.length) made = .ok made' →
        ∃ nals, body = naluRecords nals := by
  induction turns with
  | zero =>
      intro p body rest made made' fits _ _ passes
      rw [readNalus] at passes
      split at passes
      · cases passes
      · rename_i nothing
        rw [size_pos_iff fits, Nat.not_lt, Nat.le_zero,
          List.length_eq_zero_iff] at nothing
        exact ⟨[], nothing⟩
  | succ turns inductionHypothesis =>
      intro p body rest made made' fits short ahead passes
      have limit : tagSizeLimit = 16777216 := rfl
      rw [readNalus] at passes
      split at passes
      · obtain ⟨⟨sliceSize, slice, q⟩, taken, passes⟩ := bind_ok.mp passes
        obtain ⟨left, isLeft, passes⟩ := bind_ok.mp passes
        obtain ⟨more, isBytes, isSize, behind⟩ := readNalu_sound ahead taken
        have lengths := congrArg List.length isBytes
        rw [List.length_append, List.length_append, naluRecord,
          List.length_append, length_toBE] at lengths
        rw [isSize, size_record (by omega)] at isLeft
        obtain ⟨enough, isCount⟩ :=
          subtract_split (by omega) (by omega) isLeft
        have unit : (naluRecord slice).length = 4 + slice.length := by
          rw [naluRecord, List.length_append, length_toBE]
        obtain ⟨others, isBody, isMore⟩ :=
          split_front isBytes (unit ▸ enough)
        have counted : body.length - (4 + slice.length) = others.length := by
          rw [isBody, List.length_append, unit]
          omega
        rw [isCount, counted] at passes
        rw [isMore] at behind
        obtain ⟨nals, isOthers⟩ := inductionHypothesis q others rest _ made'
          (by omega) short behind passes
        refine ⟨slice :: nals, ?_⟩
        rw [isBody, isOthers, naluRecords, naluRecords, List.flatMap_cons]
      · rename_i nothing
        rw [size_pos_iff fits, Nat.not_lt, Nat.le_zero,
          List.length_eq_zero_iff] at nothing
        exact ⟨[], nothing⟩

theorem readNalus_complete (nals : List Bytes) :
    ∀ (turns : Nat) (p : BitStreamParser) (rest made : Bytes),
      nals.length < turns → (naluRecords nals).length < tagSizeLimit →
      p.Ahead (naluRecords nals ++ rest) →
        readNalus turns p (UInt64.ofNat (naluRecords nals).length) made =
          .ok (made ++ annexB nals) := by
  induction nals with
  | nil =>
      intro turns p rest made enough _ _
      rw [annexB, List.filter_nil, List.flatMap_nil, List.append_nil]
      cases turns <;> rfl
  | cons nal nals inductionHypothesis =>
      intro turns p rest made enough fits ahead
      have limit : tagSizeLimit = 16777216 := rfl
      have total := length_naluRecords_cons nal nals
      obtain ⟨first, next⟩ := ahead_unit ahead
      have positive : UInt64.ofNat (naluRecords (nal :: nals)).length > 0 := by
        apply (size_pos_iff fits).mpr
        omega
      have left : subtract (UInt64.ofNat (naluRecords (nal :: nals)).length)
          (4 + UInt32.ofNat nal.length).toUInt64 =
            .ok (UInt64.ofNat (naluRecords nals).length) := by
        rw [size_record (by omega), total]
        exact subtract_added _ _ (by omega)
      cases turns with
      | zero => exact absurd enough (Nat.not_lt_zero _)
      | succ turns =>
          rw [readNalus, if_pos positive, readNalu_complete first (by omega)]
          simp only [bind, Except.bind, left]
          rw [slice_kept (by omega), inductionHypothesis turns _ rest _
            (by rw [List.length_cons] at enough; omega) (by omega) next,
            annexB_cons]

/-- A start code takes the place of each length. -/
theorem length_annexB (nals : List Bytes) :
    (annexB nals).length ≤ (naluRecords nals).length := by
  induction nals with
  | nil => exact Nat.le_refl 0
  | cons nal nals inductionHypothesis =>
      have four : naluStarterCode.length = 4 := rfl
      have joined := congrArg List.length (annexB_cons nal nals [])
      rw [List.nil_append, List.nil_append, List.length_append] at joined
      rw [length_naluRecords_cons, ← joined]
      split
      · rw [List.length_append, four]
        omega
      · rw [List.length_nil]
        omega

end Units

/-! ## Video tags -/

theorem assertThat_ok {condition : Bool} {asked : Assertion} :
    assertThat condition asked = .ok () ↔ condition = true := by
  cases condition <;> simp [assertThat]

section Video

variable {p : BitStreamParser} {body rest : Bytes}

theorem readVideoData_sound {avcPacketType : UInt8} {made : Bytes}
    {sp : SpecialProperty} (ahead : p.Ahead (body ++ rest))
    (fits : body.length < tagSizeLimit) (short : rest.length ≤ 4)
    (passes : readVideoData p avcPacketType (UInt64.ofNat body.length) =
      .ok (made, sp)) :
    (avcPacketType = kAVCSeqHeader → RecordInside (body ++ rest)) ∧
      (avcPacketType = kAVCNalu → ∃ nals, body = naluRecords nals) := by
  have different : kAVCSeqHeader ≠ kAVCNalu := by decide
  constructor
  · intro isHeader
    rw [readVideoData, if_pos isHeader] at passes
    obtain ⟨inputData, read, _⟩ := bind_ok.mp passes
    exact readSpsPps_sound ahead read
  · intro isNalu
    rw [readVideoData, if_neg (by rw [isNalu]; exact different.symm),
      if_pos isNalu] at passes
    obtain ⟨inputData, read, _⟩ := bind_ok.mp passes
    exact readNalus_sound _ p body rest [] inputData fits short ahead read

theorem readVideoData_complete {avcPacketType : UInt8}
    (ahead : p.Ahead (body ++ rest)) (fits : body.length < tagSizeLimit)
    (inside : avcPacketType = kAVCSeqHeader → RecordInside (body ++ rest))
    (units : avcPacketType = kAVCNalu → ∃ nals, body = naluRecords nals) :
    ∃ made sp,
      readVideoData p avcPacketType (UInt64.ofNat body.length) =
        .ok (made, sp) ∧
      made.length ≤ p.byteStream.length + stBytesPadding.length := by
  have bytes := ahead.position.1
  rw [List.length_append] at bytes
  by_cases isHeader : avcPacketType = kAVCSeqHeader
  · obtain ⟨made, read, small⟩ := readSpsPps_complete ahead (inside isHeader)
    rw [List.length_append] at small
    refine ⟨made, .kSpsPps, ?_, by omega⟩
    rw [readVideoData, if_pos isHeader, read]
    rfl
  · by_cases isNalu : avcPacketType = kAVCNalu
    · obtain ⟨nals, isBody⟩ := units isNalu
      rw [isBody] at ahead fits bytes
      have count := length_naluRecords nals
      have small := length_annexB nals
      have read := readNalus_complete nals (p.byteStream.length + 1) p rest []
        (by omega) fits ahead
      refine ⟨annexB nals ++ stBytesPadding, .kRawData, ?_, ?_⟩
      · rw [readVideoData, if_neg isHeader, if_pos isNalu, isBody]
        dsimp only
        rw [read]
        rfl
      · rw [List.length_append]
        omega
    · rw [readVideoData, if_neg isHeader, if_neg isNalu]
      by_cases isEnd : avcPacketType = kAVCEndOfSeq
      · rw [if_pos isEnd]
        exact ⟨[], .kEndSeq, rfl, Nat.zero_le _⟩
      · rw [if_neg isEnd]
        exact ⟨[], .kRawData, rfl, Nat.zero_le _⟩

theorem readHighNibble_ahead {b : UInt8} {more : Bytes}
    (ahead : p.Ahead (b :: more)) :
    readBits p 4 =
      .ok (UInt32.ofNat (b.toNat / 16), { p with offset := p.offset + 4 }) := by
  have inside := ahead.bits_inside
  rw [readBits, if_pos (by omega), ahead.readHighNibble]

theorem readLowNibble_ahead {b : UInt8} {more : Bytes}
    (ahead : p.Ahead (b :: more)) :
    readBits { p with offset := p.offset + 4 } 4 =
      .ok (UInt32.ofNat (b.toNat % 16), p.skip 1) := by
  have inside := ahead.bits_inside
  have room : (p.offset + 4) + 4 ≤ p.byteStream.length * 8 := by omega
  rw [readBits, if_pos room, ahead.readLowNibble]

/-- A byte whose low nibble is the AVC codec is the first byte of a header. -/
theorem exists_firstByte {b : UInt8}
    (isAvc : (UInt32.ofNat (b.toNat % 16)).toUInt8 = kAVCVideoPacket)
    {compositionTime : Bytes} (isLength : compositionTime.length = 3) :
    ∃ header : AvcHeader, header.firstByte = b ∧
      header.compositionTime = compositionTime := by
  have small := b.toNat_lt
  have low : b.toNat % 16 = 7 := by
    have number := congrArg UInt8.toNat isAvc
    have seven : kAVCVideoPacket.toNat = 7 := rfl
    rw [UInt32.toNat_toUInt8, UInt32.toNat_ofNat', seven] at number
    omega
  refine ⟨⟨BitVec.ofNat 4 (b.toNat / 16), compositionTime, isLength⟩, ?_, rfl⟩
  apply UInt8.toNat_inj.mp
  rw [AvcHeader.firstByte_toNat, BitVec.toNat_ofNat]
  omega

theorem readVideoBody_sound {frame : TagFrame} {data : Bytes}
    (ahead : p.Ahead (data ++ frame.previousTagSize)) (nonempty : data ≠ [])
    (fits : data.length < tagSizeLimit) {curSpsPps : Bytes} {made : TagBody}
    (passes : readVideoBody curSpsPps p (UInt64.ofNat data.length) =
      .ok made) : VideoWellFormed frame data := by
  have limit : tagSizeLimit = 16777216 := rfl
  obtain ⟨b0, more, isData⟩ := List.exists_cons_of_ne_nil nonempty
  rw [isData] at ahead fits passes
  rw [List.length_cons] at fits passes
  have first : p.Ahead (b0 :: (more ++ frame.previousTagSize)) := ahead
  obtain ⟨⟨_, _⟩, high, passes⟩ := bind_ok.mp passes
  rw [readHighNibble_ahead first] at high
  cases high
  obtain ⟨⟨_, _⟩, low, passes⟩ := bind_ok.mp passes
  rw [readLowNibble_ahead first] at low
  cases low
  obtain ⟨left, isLeft, passes⟩ := bind_ok.mp passes
  have isLeft : subtract (UInt64.ofNat (more.length + 1)) (UInt64.ofNat 1) =
      .ok left := isLeft
  obtain ⟨_, isCount⟩ := subtract_split (by omega) (by decide) isLeft
  rw [Nat.add_sub_cancel] at isCount
  obtain ⟨_, isAvc, passes⟩ := bind_ok.mp passes
  obtain ⟨⟨avcPacketType, p3⟩, readType, passes⟩ := bind_ok.mp passes
  obtain ⟨more2, isMore, _, ahead2⟩ := readByte_split first.skipOne readType
  obtain ⟨⟨compositionTime, p4⟩, readTime, passes⟩ := bind_ok.mp passes
  obtain ⟨more3, isMore2, lengthTime, _, ahead3⟩ :=
    readBytes_split ahead2 readTime
  obtain ⟨left2, isLeft2, passes⟩ := bind_ok.mp passes
  have isLeft2 : subtract (UInt64.ofNat more.length) (UInt64.ofNat 4) =
      .ok left2 := by
    rw [← isCount]
    exact isLeft2
  obtain ⟨enough, isCount2⟩ := subtract_split (by omega) (by decide) isLeft2
  obtain ⟨⟨inputData, sp⟩, readData, _⟩ := bind_ok.mp passes
  have isFront : more ++ frame.previousTagSize =
      (avcPacketType :: compositionTime) ++ more3 := by
    rw [isMore, isMore2, List.cons_append]
  have frontLength : (avcPacketType :: compositionTime).length = 4 := by
    rw [List.length_cons, lengthTime]
  obtain ⟨body, isBody, isRest⟩ := split_front isFront (by omega)
  obtain ⟨header, isFirst, isTime⟩ :=
    exists_firstByte (of_decide_eq_true (assertThat_ok.mp isAvc)) lengthTime
  have counted : more.length - 4 = body.length := by
    rw [isBody, List.length_append, frontLength]
    omega
  have small : body.length < tagSizeLimit := by
    omega
  rw [isRest] at ahead3
  rw [isCount2, counted] at readData
  have short : frame.previousTagSize.length ≤ 4 :=
    frame.length_previousTagSize.le
  obtain ⟨inside, units⟩ := readVideoData_sound ahead3 small short readData
  refine ⟨header, avcPacketType, body, ?_, inside, units⟩
  rw [AvcHeader.data, isFirst, isTime, isData, isBody, List.cons_append]

theorem readVideoBody_complete {frame : TagFrame} {data : Bytes}
    (ahead : p.Ahead (data ++ frame.previousTagSize))
    (fits : data.length < tagSizeLimit) (wellFormed : VideoWellFormed frame data)
    (curSpsPps : Bytes) :
    ∃ made, readVideoBody curSpsPps p (UInt64.ofNat data.length) =
      .ok made := by
  have limit : tagSizeLimit = 16777216 := rfl
  obtain ⟨header, avcPacketType, body, isData, inside, units⟩ := wellFormed
  rw [isData] at ahead fits ⊢
  have first : p.Ahead (header.firstByte :: avcPacketType ::
      (header.compositionTime ++ (body ++ frame.previousTagSize))) := by
    simpa only [AvcHeader.data, List.cons_append, List.append_assoc] using ahead
  have second := first.skipOne
  have third := second.skipOne
  have behind := third.skip header.length_compositionTime
  rw [header.length_data] at fits ⊢
  have one : subtract (UInt64.ofNat (body.length + 5)) 1 =
      .ok (UInt64.ofNat (body.length + 4)) :=
    subtract_added (body.length + 4) 1 (by omega)
  have four : subtract (UInt64.ofNat (body.length + 4)) 4 =
      .ok (UInt64.ofNat body.length) :=
    subtract_added body.length 4 (by omega)
  obtain ⟨made, sp, readData, small⟩ :=
    readVideoData_complete behind (by omega) inside units
  have room : allocate (((p.skip 1).skip 1).skip 3).byteStream made = .ok () :=
    if_pos small
  rw [readVideoBody, readHighNibble_ahead first]
  simp only [bind, Except.bind, readLowNibble_ahead first, one,
    header.codec_eq, decide_true, assertThat, if_true, readByte_ahead second,
    readBytes_ahead third header.length_compositionTime, four, readData, room]
  exact ⟨_, rfl⟩

end Video

/-! ## Audio tags -/

section Audio

variable {p : BitStreamParser}

/-- The four fields of the first byte of an audio tag, of which the format is
the high nibble. -/
theorem audioFields_ahead {b : UInt8} {more : Bytes}
    (ahead : p.Ahead (b :: more)) :
    ∃ rate size type p2 p3,
      readBits p 4 = .ok (UInt32.ofNat (b.toNat / 16),
        { p with offset := p.offset + 4 }) ∧
      readBits { p with offset := p.offset + 4 } 2 = .ok (rate, p2) ∧
      readBits p2 1 = .ok (size, p3) ∧
      readBits p3 1 = .ok (type, p.skip 1) := by
  have inside := ahead.bits_inside
  have room2 : (p.offset + 4) + 2 ≤ p.byteStream.length * 8 := by omega
  have room3 : (p.offset + 4 + 2) + 1 ≤ p.byteStream.length * 8 := by omega
  have room4 : (p.offset + 4 + 2 + 1) + 1 ≤ p.byteStream.length * 8 := by omega
  exact ⟨_, _, _, _, _, readHighNibble_ahead ahead, if_pos room2,
    if_pos room3, if_pos room4⟩

theorem aac_iff (b : UInt8) :
    (UInt32.ofNat (b.toNat / 16)).toUInt8 = kAAC ↔
      b.toNat / 16 = kAAC.toNat := by
  have small := b.toNat_lt
  rw [← UInt8.toNat_inj, UInt32.toNat_toUInt8, UInt32.toNat_ofNat',
    Nat.mod_eq_of_lt (by omega), Nat.mod_eq_of_lt (by omega)]

theorem readAudioPayload_complete {body rest : Bytes}
    (ahead : p.Ahead (body ++ rest)) (fits : body.length < tagSizeLimit) :
    ∃ payload, readAudioPayload p (UInt64.ofNat body.length) = .ok payload := by
  have limit : tagSizeLimit = 16777216 := rfl
  have bytes := ahead.position.1
  rw [List.length_append] at bytes
  have size : (UInt64.ofNat body.length).toNat = body.length := by
    rw [UInt64.toNat_ofNat', Nat.mod_eq_of_lt (by omega)]
  have room : allocate (p.skip body.length).byteStream body = .ok () := by
    apply if_pos
    rw [BitStreamParser.skip]
    dsimp only
    omega
  rw [readAudioPayload]
  split
  · rw [size, readBytes_ahead ahead rfl]
    simp only [bind, Except.bind, room]
    exact ⟨_, rfl⟩
  · exact ⟨_, rfl⟩

theorem readAudioBody_sound {data rest : Bytes} (ahead : p.Ahead (data ++ rest))
    (nonempty : data ≠ []) (fits : data.length < tagSizeLimit)
    {curSpsPps : Bytes} {made : TagBody}
    (passes : readAudioBody curSpsPps p (UInt64.ofNat data.length) =
      .ok made) : AudioWellFormed data := by
  intro isAac
  obtain ⟨b, more, isData⟩ := List.exists_cons_of_ne_nil nonempty
  rw [isData] at ahead fits passes isAac ⊢
  rw [List.length_cons] at fits passes ⊢
  have limit : tagSizeLimit = 16777216 := rfl
  have first : p.Ahead (b :: (more ++ rest)) := ahead
  obtain ⟨rate, size, type, p2, p3, format, rates, sizes, types⟩ :=
    audioFields_ahead first
  obtain ⟨_, read1, passes⟩ := bind_ok.mp passes
  rw [format] at read1
  cases read1
  obtain ⟨_, read2, passes⟩ := bind_ok.mp passes
  rw [rates] at read2
  cases read2
  obtain ⟨_, read3, passes⟩ := bind_ok.mp passes
  rw [sizes] at read3
  cases read3
  obtain ⟨_, read4, passes⟩ := bind_ok.mp passes
  rw [types] at read4
  cases read4
  obtain ⟨left, isLeft, passes⟩ := bind_ok.mp passes
  have one : subtract (UInt64.ofNat (more.length + 1)) 1 =
      .ok (UInt64.ofNat more.length) := subtract_added more.length 1 (by omega)
  rw [one] at isLeft
  cases isLeft
  obtain ⟨_, isProperty, _⟩ := bind_ok.mp passes
  rw [readAudioProperty, if_pos ((aac_iff b).mpr isAac)] at isProperty
  obtain ⟨_, _, isProperty⟩ := bind_ok.mp isProperty
  obtain ⟨left2, isLeft2, _⟩ := bind_ok.mp isProperty
  have isLeft2 : subtract (UInt64.ofNat more.length) (UInt64.ofNat 1) =
      .ok left2 := isLeft2
  obtain ⟨enough, _⟩ := subtract_split (by omega) (by decide) isLeft2
  omega

theorem readAudioBody_complete {data rest : Bytes}
    (ahead : p.Ahead (data ++ rest)) (nonempty : data ≠ [])
    (fits : data.length < tagSizeLimit) (wellFormed : AudioWellFormed data)
    (curSpsPps : Bytes) :
    ∃ made, readAudioBody curSpsPps p (UInt64.ofNat data.length) =
      .ok made := by
  obtain ⟨b, more, isData⟩ := List.exists_cons_of_ne_nil nonempty
  rw [isData] at ahead fits wellFormed ⊢
  rw [AudioWellFormed, List.length_cons] at wellFormed
  rw [List.length_cons] at fits ⊢
  have limit : tagSizeLimit = 16777216 := rfl
  have first : p.Ahead (b :: (more ++ rest)) := ahead
  obtain ⟨rate, size, type, p2, p3, format, rates, sizes, types⟩ :=
    audioFields_ahead first
  have one : subtract (UInt64.ofNat (more.length + 1)) 1 =
      .ok (UInt64.ofNat more.length) := subtract_added more.length 1 (by omega)
  obtain ⟨sp, left, q, property, payload, isPayload⟩ :
      ∃ sp left q,
        readAudioProperty (p.skip 1) (UInt32.ofNat (b.toNat / 16))
          (UInt64.ofNat more.length) = .ok (sp, left, q) ∧
        ∃ payload, readAudioPayload q left = .ok payload := by
    rw [readAudioProperty]
    by_cases isAac : (UInt32.ofNat (b.toNat / 16)).toUInt8 = kAAC
    · have two : 2 ≤ more.length + 1 := wellFormed ((aac_iff b).mp isAac)
      obtain ⟨packetType, body, isMore⟩ :=
        List.exists_cons_of_length_pos (by omega : 0 < more.length)
      have second := first.skipOne
      rw [isMore] at second fits ⊢
      rw [List.length_cons] at fits ⊢
      have counted : subtract (UInt64.ofNat (body.length + 1)) 1 =
          .ok (UInt64.ofNat body.length) :=
        subtract_added body.length 1 (by omega)
      rw [if_pos isAac]
      refine ⟨if packetType = kAACSeqHeader then .kSeqHeader else .kRawData,
        _, _, ?_, readAudioPayload_complete second.skipOne (by omega)⟩
      simp only [bind, Except.bind, readByte_ahead second, counted]
      rfl
    · rw [if_neg isAac]
      exact ⟨_, _, _, rfl, readAudioPayload_complete first.skipOne (by omega)⟩
  rw [readAudioBody, format]
  simp only [bind, Except.bind, rates, sizes, types, one, property, isPayload]
  exact ⟨_, rfl⟩

end Audio

end Audit

/-! ## Tags -/

/-- The parser gets through the tag, and no check of the audit stops it. -/
def Harmless (clock : FLVClock) (globalAudioTimestamp : UInt32)
    (tag : FLVTag) : Prop :=
  ∃ outcome, parseNextFLVFrame clock globalAudioTimestamp tag = .ok outcome ∧
    Audit.parseNextFLVFrame clock globalAudioTimestamp tag = .ok outcome

theorem harmless_iff_audit {clock : FLVClock} {globalAudioTimestamp : UInt32}
    {tag : FLVTag} :
    Harmless clock globalAudioTimestamp tag ↔
      ∃ outcome, Audit.readTag clock.curSpsPps tag = .ok outcome := by
  constructor
  · intro harmless
    obtain ⟨_, _, passes⟩ := harmless
    obtain ⟨outcome, read, _⟩ := bind_ok.mp passes
    exact ⟨outcome, read⟩
  · intro passes
    obtain ⟨⟨timestamp, body⟩, read⟩ := passes
    have parsed : ∃ outcome,
        Audit.parseNextFLVFrame clock globalAudioTimestamp tag =
          .ok outcome := by
      rw [Audit.parseNextFLVFrame, read]
      cases body <;> exact ⟨_, rfl⟩
    obtain ⟨outcome, parsed⟩ := parsed
    exact ⟨outcome, Audit.parseNextFLVFrame_checks clock globalAudioTimestamp
      tag outcome parsed, parsed⟩

namespace TagFrame

variable (frame : TagFrame)

theorem audit_readTimestamp (data : Bytes) :
    Audit.readTimestamp ⟨frame.strFlvTag data, 0⟩ =
      .ok (frame.timestamp, frame.dataCursor data) := by
  have start := BitStreamParser.ahead_start (frame.strFlvTag data)
  have three : BitStreamParser.Ahead ⟨frame.strFlvTag data, 0⟩
      ([(frame.timestamp >>> 16).toUInt8, (frame.timestamp >>> 8).toUInt8,
        frame.timestamp.toUInt8] ++ ((frame.timestamp >>> 24).toUInt8 ::
          (frame.streamId ++ (data ++ frame.previousTagSize)))) := by
    rw [strFlvTag, List.append_assoc, List.append_assoc] at start ⊢
    exact start
  have one := three.skip (t := 3) rfl
  have last := one.skipOne
  have passes : ∃ read,
      Audit.readTimestamp ⟨frame.strFlvTag data, 0⟩ = .ok read := by
    rw [Audit.readTimestamp, Audit.readBytes_ahead three (t := 3) rfl]
    simp only [bind, Except.bind, Audit.readByte_ahead one,
      Audit.readBytes_ahead last frame.length_streamId]
    exact ⟨_, rfl⟩
  obtain ⟨read, passes⟩ := passes
  -- What passes is what the parser itself reads.
  have same := Audit.readTimestamp_checks _ read passes
  rw [frame.readTimestamp_tag] at same
  rw [passes, ← Except.ok.inj same]

theorem audit_size {data : Bytes} (fits : data.length < tagSizeLimit)
    (st : StreamType) :
    Audit.subtract (frame.tag st data).curFlvTagSize.toUInt64 4 =
        .ok (UInt64.ofNat (data.length + 7)) ∧
      Audit.subtract (UInt64.ofNat (data.length + 7)) 7 =
        .ok (UInt64.ofNat data.length) := by
  have small : data.length < 16777216 := fits
  have eleven : ((7 : UInt32) + 4).toNat = 11 := rfl
  have size : (frame.tag st data).curFlvTagSize.toUInt64 =
      UInt64.ofNat (data.length + 7 + 4) := by
    apply UInt64.toNat_inj.mp
    rw [tag, UInt32.toNat_toUInt64, UInt32.toNat_add, UInt32.toNat_ofNat',
      eleven, UInt64.toNat_ofNat']
    omega
  constructor
  · rw [size]
    exact Audit.subtract_added (data.length + 7) 4 (by omega)
  · exact Audit.subtract_added data.length 7 (by omega)

/-- The audit of a tag with data is the audit of its body. -/
theorem audit_readTag {data : Bytes} (nonempty : data ≠ [])
    (fits : data.length < tagSizeLimit) (curSpsPps : Bytes) (st : StreamType) :
    Audit.readTag curSpsPps (frame.tag st data) =
      (Audit.readBody curSpsPps st (frame.dataCursor data)
        (UInt64.ofNat data.length)).map
          fun body => (frame.timestamp, some body) := by
  obtain ⟨first, second⟩ := frame.audit_size fits st
  have positive : UInt64.ofNat data.length > 0 :=
    (size_pos_iff fits).mpr (List.length_pos_of_ne_nil nonempty)
  have read : Audit.readTimestamp ⟨(frame.tag st data).strFlvTag, 0⟩ = _ :=
    frame.audit_readTimestamp data
  have sameType : (frame.tag st data).curStreamType = st := rfl
  rw [Audit.readTag, first]
  simp only [bind, Except.bind, read, second, if_pos positive, sameType]
  cases Audit.readBody curSpsPps st (frame.dataCursor data)
    (UInt64.ofNat data.length) <;> rfl

theorem audit_readTag_empty (curSpsPps : Bytes) (st : StreamType) :
    Audit.readTag curSpsPps (frame.tag st []) =
      .ok (frame.timestamp, none) := by
  have small : ([] : Bytes).length < tagSizeLimit := by decide
  obtain ⟨first, second⟩ := frame.audit_size small st
  have read : Audit.readTimestamp ⟨(frame.tag st []).strFlvTag, 0⟩ = _ :=
    frame.audit_readTimestamp []
  rw [Audit.readTag, first]
  simp only [bind, Except.bind, read, second]
  rfl

end TagFrame

/-- A tag does no harm exactly when the sizes in it are right. -/
theorem harmless_iff (clock : FLVClock) (globalAudioTimestamp : UInt32)
    (frame : TagFrame) (st : StreamType) (data : Bytes)
    (fits : data.length < tagSizeLimit) :
    Harmless clock globalAudioTimestamp (frame.tag st data) ↔
      WellFormed frame st data := by
  rw [harmless_iff_audit]
  by_cases empty : data = []
  · rw [empty, frame.audit_readTag_empty]
    constructor
    · exact fun _ nonempty => absurd rfl nonempty
    · exact fun _ => ⟨_, rfl⟩
  · rw [frame.audit_readTag empty fits]
    have ahead := frame.ahead_data data
    constructor
    · intro passes _
      obtain ⟨outcome, passes⟩ := passes
      obtain ⟨body, read, _⟩ := map_ok.mp passes
      constructor
      · intro isVideo
        rw [isVideo] at read
        exact Audit.readVideoBody_sound ahead empty fits read
      · intro isAudio
        rw [isAudio] at read
        exact Audit.readAudioBody_sound ahead empty fits read
    · intro wellFormed
      obtain ⟨video, audio⟩ := wellFormed empty
      have body : ∃ body, Audit.readBody clock.curSpsPps st
          (frame.dataCursor data) (UInt64.ofNat data.length) = .ok body := by
        cases st with
        | kVideoStreamType =>
            exact Audit.readVideoBody_complete ahead fits (video rfl) _
        | kAudioStreamType =>
            exact Audit.readAudioBody_complete ahead empty fits (audio rfl) _
        | kUnknownStreamType => exact ⟨_, rfl⟩
        | kDataStreamType => exact ⟨_, rfl⟩
        | unlisted value => exact ⟨_, rfl⟩
      obtain ⟨body, read⟩ := body
      rw [read]
      exact ⟨_, rfl⟩

/-- An AAC tag of two bytes and a frame. -/
theorem harmless_aac :
    Harmless {} 0
      ((TagFrame.zeros 0).tag .kAudioStreamType [0xAF, 1, 0x21, 0x10]) := by
  apply (harmless_iff {} 0 (TagFrame.zeros 0) .kAudioStreamType
    [0xAF, 1, 0x21, 0x10] (by decide)).mpr
  intro _
  constructor
  · intro isVideo
    cases isVideo
  · intro _ _
    decide

/-- An AAC tag of a single byte: the count of what is left wraps. -/
theorem harmful_aac :
    ¬ Harmless {} 0 ((TagFrame.zeros 0).tag .kAudioStreamType [0xAF]) ∧
      parseNextFLVFrame {} 0
          ((TagFrame.zeros 0).tag .kAudioStreamType [0xAF]) =
        .error .undefinedBehaviour := by
  have stops : parseNextFLVFrame {} 0
      ((TagFrame.zeros 0).tag .kAudioStreamType [0xAF]) =
        .error .undefinedBehaviour := by
    decide +kernel
  refine ⟨?_, stops⟩
  intro harmless
  obtain ⟨_, parsed, _⟩ := harmless
  rw [stops] at parsed
  cases parsed

end GroupVoip
