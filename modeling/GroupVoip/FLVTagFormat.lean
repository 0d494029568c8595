import GroupVoip.FLVParser
import GroupVoip.Library.Runs

/-!
# Tags as bytes

A tag is its data with seven bytes before it and four behind.  Reading goes on
from what is ahead of the cursor.
-/

namespace GroupVoip

open Library.Framing Library.Runs Library.WireBytes

/-! ## The cursor -/

namespace BitStreamParser

/-- The cursor is at a byte, with these bytes to come. -/
def Ahead (p : BitStreamParser) (rest : Bytes) : Prop :=
  ∃ before, p.byteStream = before ++ rest ∧ p.offset = before.length * 8

def skip (p : BitStreamParser) (t : Nat) : BitStreamParser :=
  { p with offset := p.offset + t * 8 }

theorem skip_skip (p : BitStreamParser) (t u : Nat) :
    (p.skip t).skip u = p.skip (t + u) := by
  rw [skip, skip, skip, Nat.add_mul, Nat.add_assoc]

section Reading

variable {p : BitStreamParser} {rest : Bytes}

theorem ahead_start (bytes : Bytes) : Ahead ⟨bytes, 0⟩ bytes :=
  ⟨[], rfl, rfl⟩

theorem Ahead.position (ahead : p.Ahead rest) :
    p.offset / 8 + rest.length = p.byteStream.length ∧ p.offset % 8 = 0 ∧
      p.byteStream.drop (p.offset / 8) = rest := by
  obtain ⟨before, isStream, isOffset⟩ := ahead
  have position : p.offset / 8 = before.length := by omega
  refine ⟨?_, by omega, ?_⟩
  · rw [isStream, position, List.length_append]
  · rw [isStream, position, List.drop_left]

theorem Ahead.skip {bytes : Bytes} (ahead : p.Ahead (bytes ++ rest)) {t : Nat}
    (isLength : bytes.length = t) : (p.skip t).Ahead rest := by
  obtain ⟨before, isStream, isOffset⟩ := ahead
  refine ⟨before ++ bytes, ?_, ?_⟩
  · rw [List.append_assoc]
    exact isStream
  · rw [BitStreamParser.skip, List.length_append, isLength, isOffset]
    exact (Nat.add_mul _ _ 8).symm

theorem Ahead.skipOne {b : UInt8} (ahead : p.Ahead (b :: rest)) :
    (p.skip 1).Ahead rest := by
  have single : p.Ahead ([b] ++ rest) := ahead
  exact single.skip rfl

/-- A request beyond the end gives what is left. -/
theorem Ahead.readBytes_take (ahead : p.Ahead rest) (t : Nat) :
    p.readBytes t = .ok (rest.take t, p.skip t) := by
  obtain ⟨position, -, isAhead⟩ := ahead.position
  rw [readBytes_ok (by omega), isAhead]
  rfl

theorem Ahead.readBytes {bytes : Bytes} (ahead : p.Ahead (bytes ++ rest))
    {t : Nat} (isLength : bytes.length = t) :
    p.readBytes t = .ok (bytes, p.skip t) := by
  rw [ahead.readBytes_take, List.take_left' isLength]

theorem Ahead.readByte {b : UInt8} (ahead : p.Ahead (b :: rest)) :
    p.readByte = (b, p.skip 1) := by
  obtain ⟨before, isStream, isOffset⟩ := ahead
  have inside : before.length < p.byteStream.length := by
    rw [isStream, List.length_append, List.length_cons]
    omega
  have isByte : p.byteStream.getD before.length 0 = b := by
    rw [isStream]
    simp
  rw [readByte_aligned isOffset inside, isByte]
  rfl

theorem Ahead.bitAt {b : UInt8} (ahead : p.Ahead (b :: rest)) {k : Nat}
    (small : k < 8) :
    p.bitAt (p.offset + k) = ((b.toNat / 2 ^ (7 - k)) % 2).toUInt32 := by
  obtain ⟨before, isStream, isOffset⟩ := ahead
  have byte : (p.offset + k) / 8 = before.length := by omega
  have bit : (p.offset + k) % 8 = k := by omega
  rw [BitStreamParser.bitAt, byte, bit, isStream]
  simp

theorem high_nibble (b : UInt8) :
    (List.range 4).foldl
        (fun (ret : UInt32) i =>
          (ret <<< 1) ||| ((b.toNat / 2 ^ (7 - i)) % 2).toUInt32) 0 =
      UInt32.ofNat (b.toNat / 16) := by
  have everyByte : ∀ n : Fin 256,
      (List.range 4).foldl
          (fun (ret : UInt32) i =>
            (ret <<< 1) ||| ((n.val / 2 ^ (7 - i)) % 2).toUInt32) 0 =
        UInt32.ofNat (n.val / 16) := by
    decide +kernel
  exact everyByte ⟨b.toNat, b.toNat_lt⟩

theorem low_nibble (b : UInt8) :
    (List.range 4).foldl
        (fun (ret : UInt32) i =>
          (ret <<< 1) ||| ((b.toNat / 2 ^ (7 - (4 + i))) % 2).toUInt32) 0 =
      UInt32.ofNat (b.toNat % 16) := by
  have everyByte : ∀ n : Fin 256,
      (List.range 4).foldl
          (fun (ret : UInt32) i =>
            (ret <<< 1) ||| ((n.val / 2 ^ (7 - (4 + i))) % 2).toUInt32) 0 =
        UInt32.ofNat (n.val % 16) := by
    decide +kernel
  exact everyByte ⟨b.toNat, b.toNat_lt⟩

theorem Ahead.bits_inside {b : UInt8} (ahead : p.Ahead (b :: rest)) :
    p.offset + 8 ≤ p.byteStream.length * 8 := by
  obtain ⟨before, isStream, isOffset⟩ := ahead
  rw [isStream, List.length_append, List.length_cons]
  omega

theorem Ahead.readHighNibble {b : UInt8} (ahead : p.Ahead (b :: rest)) :
    p.readBits 4 =
      (UInt32.ofNat (b.toNat / 16), { p with offset := p.offset + 4 }) := by
  have inside := ahead.bits_inside
  have sameBits : (List.range 4).foldl
        (fun (ret : UInt32) i => (ret <<< 1) ||| p.bitAt (p.offset + i)) 0 =
      (List.range 4).foldl
        (fun (ret : UInt32) i =>
          (ret <<< 1) ||| ((b.toNat / 2 ^ (7 - i)) % 2).toUInt32) 0 := by
    apply List.foldl_ext
    intro ret i member
    have small : i < 4 := List.mem_range.mp member
    rw [ahead.bitAt (by omega)]
  rw [readBits, peekBits, if_neg (by omega), sameBits, high_nibble]

theorem Ahead.readLowNibble {b : UInt8} (ahead : p.Ahead (b :: rest)) :
    BitStreamParser.readBits { p with offset := p.offset + 4 } 4 =
      (UInt32.ofNat (b.toNat % 16), p.skip 1) := by
  have inside := ahead.bits_inside
  have sameBits : (List.range 4).foldl
        (fun (ret : UInt32) i =>
          (ret <<< 1) ||| BitStreamParser.bitAt
            { p with offset := p.offset + 4 } (p.offset + 4 + i)) 0 =
      (List.range 4).foldl
        (fun (ret : UInt32) i =>
          (ret <<< 1) ||| ((b.toNat / 2 ^ (7 - (4 + i))) % 2).toUInt32) 0 := by
    apply List.foldl_ext
    intro ret i member
    have small : i < 4 := List.mem_range.mp member
    have isBit := ahead.bitAt (k := 4 + i) (by omega)
    rw [← Nat.add_assoc] at isBit
    rw [← isBit]
    rfl
  rw [readBits, peekBits]
  dsimp only
  rw [if_neg (by omega), sameBits, low_nibble]
  rfl

end Reading

end BitStreamParser

/-! ## The bytes around the data -/

/-- What stands around the data of a tag: its time and its stream id before,
the size of the tag behind. -/
structure TagFrame where
  timestamp : UInt32
  streamId : Bytes
  previousTagSize : Bytes
  length_streamId : streamId.length = 3
  length_previousTagSize : previousTagSize.length = 4

theorem length_threeZeros : ([0, 0, 0] : Bytes).length = 3 :=
  rfl

/-- The frame that the input side writes: zeros but for the time. -/
def TagFrame.zeros (timestamp : UInt32) : TagFrame :=
  ⟨timestamp, [0, 0, 0], [0, 0, 0, 0], length_threeZeros, rfl⟩

/-- The data of a tag is shorter than this. -/
def tagSizeLimit : Nat := 16777216

theorem size_pos_iff {size : Nat} (fits : size < tagSizeLimit) :
    UInt64.ofNat size > 0 ↔ 0 < size := by
  have small : size < 16777216 := fits
  change 0 < UInt64.ofNat size ↔ 0 < size
  rw [UInt64.lt_iff_toNat_lt, UInt64.toNat_ofNat', Nat.mod_eq_of_lt (by omega)]
  rfl

/-- The low three bytes, the highest first, and then the extension byte. -/
def timestampBytes (t : UInt32) : Bytes :=
  [(t >>> 16).toUInt8, (t >>> 8).toUInt8, t.toUInt8, (t >>> 24).toUInt8]

theorem readTimestamp_ahead {p : BitStreamParser} {t : UInt32}
    {streamId rest : Bytes}
    (ahead : p.Ahead (timestampBytes t ++ (streamId ++ rest)))
    (isLength : streamId.length = 3) :
    readTimestamp p = .ok (t, p.skip 7) := by
  have written : ofLE (toLE 4 t.toNat) = t.toNat :=
    ofLE_toLE_of_lt t.toNat_lt
  rw [toLE_toNat] at written
  have three : p.Ahead ([(t >>> 16).toUInt8, (t >>> 8).toUInt8, t.toUInt8] ++
      ((t >>> 24).toUInt8 :: (streamId ++ rest))) := ahead
  have one := three.skip (t := 3) rfl
  have last := one.skipOne
  have low : charAt [(t >>> 16).toUInt8, (t >>> 8).toUInt8, t.toUInt8] 2 =
      .ok t.toUInt8 := rfl
  have middle : charAt [(t >>> 16).toUInt8, (t >>> 8).toUInt8, t.toUInt8] 1 =
      .ok (t >>> 8).toUInt8 := rfl
  have high : charAt [(t >>> 16).toUInt8, (t >>> 8).toUInt8, t.toUInt8] 0 =
      .ok (t >>> 16).toUInt8 := rfl
  rw [readTimestamp, three.readBytes (t := 3) rfl]
  simp only [bind, Except.bind, one.readByte, low, middle, high,
    last.readBytes isLength, written, UInt32.ofNat_toNat]
  rw [BitStreamParser.skip_skip, BitStreamParser.skip_skip]
  rfl

namespace TagFrame

variable (frame : TagFrame)

def strFlvTag (data : Bytes) : Bytes :=
  timestampBytes frame.timestamp ++ frame.streamId ++ data ++
    frame.previousTagSize

def tag (st : StreamType) (data : Bytes) : FLVTag where
  curStreamType := st
  curFlvTagSize := UInt32.ofNat data.length + (7 + 4)
  strFlvTag := frame.strFlvTag data

/-- The cursor behind the time and the stream id. -/
def dataCursor (data : Bytes) : BitStreamParser :=
  ⟨frame.strFlvTag data, 56⟩

theorem ahead_data (data : Bytes) :
    (frame.dataCursor data).Ahead (data ++ frame.previousTagSize) := by
  refine ⟨timestampBytes frame.timestamp ++ frame.streamId, ?_, ?_⟩
  · rw [dataCursor, strFlvTag, List.append_assoc]
  · rw [List.length_append, frame.length_streamId]
    rfl

theorem length_strFlvTag (data : Bytes) :
    (frame.strFlvTag data).length = data.length + 11 := by
  have four : (timestampBytes frame.timestamp).length = 4 := rfl
  simp only [strFlvTag, List.length_append, four, frame.length_streamId,
    frame.length_previousTagSize]
  omega

theorem readTimestamp_tag (data : Bytes) :
    readTimestamp ⟨frame.strFlvTag data, 0⟩ =
      .ok (frame.timestamp, frame.dataCursor data) := by
  have start := BitStreamParser.ahead_start (frame.strFlvTag data)
  have ahead : BitStreamParser.Ahead ⟨frame.strFlvTag data, 0⟩
      (timestampBytes frame.timestamp ++ (frame.streamId ++
        (data ++ frame.previousTagSize))) := by
    rw [strFlvTag, List.append_assoc, List.append_assoc] at start ⊢
    exact start
  exact readTimestamp_ahead ahead frame.length_streamId

theorem dataSize_tag {data : Bytes} (fits : data.length < tagSizeLimit)
    (st : StreamType) :
    ((frame.tag st data).curFlvTagSize - 4).toUInt64 - 7 =
      UInt64.ofNat data.length := by
  have small : data.length < 16777216 := fits
  have eleven : ((7 : UInt32) + 4).toNat = 11 := rfl
  have size : (frame.tag st data).curFlvTagSize.toNat = data.length + 11 := by
    rw [tag, UInt32.toNat_add, UInt32.toNat_ofNat', eleven]
    omega
  have rest : ((frame.tag st data).curFlvTagSize - 4).toNat =
      data.length + 7 := by
    rw [UInt32.toNat_sub_of_le, size]
    · rfl
    · rw [UInt32.le_iff_toNat_le, size]
      exact Nat.le_add_left 4 (data.length + 7)
  apply UInt64.toNat_inj.mp
  rw [UInt64.toNat_sub_of_le, UInt32.toNat_toUInt64, rest,
    UInt64.toNat_ofNat', Nat.mod_eq_of_lt (by omega)]
  · rfl
  · rw [UInt64.le_iff_toNat_le, UInt32.toNat_toUInt64, rest]
    exact Nat.le_add_left 7 data.length

/-- A tag without data has no body. -/
theorem readTag_empty (curSpsPps : Bytes) (st : StreamType) :
    readTag curSpsPps (frame.tag st []) = .ok (frame.timestamp, none) := by
  have nothing : ((frame.tag st []).curFlvTagSize - 4).toUInt64 - 7 = 0 :=
    frame.dataSize_tag (by decide) st
  have read : readTimestamp ⟨(frame.tag st []).strFlvTag, 0⟩ = _ :=
    frame.readTimestamp_tag []
  rw [readTag, read, nothing]
  rfl

/-- Reading a tag with data is reading the data as a body. -/
theorem readTag_tag (curSpsPps : Bytes) (st : StreamType) {data : Bytes}
    (nonempty : data ≠ []) (fits : data.length < tagSizeLimit) :
    readTag curSpsPps (frame.tag st data) =
      (readBody curSpsPps st (frame.dataCursor data)
        (UInt64.ofNat data.length)).map
          fun body => (frame.timestamp, some body) := by
  have positive : UInt64.ofNat data.length > 0 :=
    (size_pos_iff fits).mpr (List.length_pos_of_ne_nil nonempty)
  have read : readTimestamp ⟨(frame.tag st data).strFlvTag, 0⟩ = _ :=
    frame.readTimestamp_tag data
  rw [readTag, read, frame.dataSize_tag fits]
  simp only [bind, Except.bind, if_pos positive]
  change _ = Except.map _ (readBody curSpsPps st _ _)
  have sameType : (frame.tag st data).curStreamType = st := rfl
  rw [sameType]
  cases readBody curSpsPps st (frame.dataCursor data)
    (UInt64.ofNat data.length) <;> rfl

end TagFrame

/-! ## What the reader cuts -/

/-- Eleven bytes are wanted on top of a size of three bytes. -/
def SizeFits (s : TagScan) : Prop :=
  s.scanState = .SCAN_REMAINING_TAG →
    ∃ size, size < tagSizeLimit ∧ s.curFlvTagSize = UInt32.ofNat size + (7 + 4)

def Framed (tag : FLVTag) : Prop :=
  ∃ (frame : TagFrame) (data : Bytes), data.length < tagSizeLimit ∧
    tag = frame.tag tag.curStreamType data

theorem four_bytes_timestamp (a b c d : UInt8) :
    ∃ t, timestampBytes t = [a, b, c, d] := by
  have written := toLE_ofLE [c, b, a, d]
  have four : ([c, b, a, d] : Bytes).length = 4 := rfl
  have isNumber : (UInt32.ofNat (ofLE [c, b, a, d])).toNat =
      ofLE [c, b, a, d] := by
    rw [UInt32.toNat_ofNat', Nat.mod_eq_of_lt (ofLE_four_lt c b a d)]
  rw [four, ← isNumber, toLE_toNat] at written
  simp only [List.cons.injEq, and_true] at written
  obtain ⟨isLow, isMiddle, isHigh, isTop⟩ := written
  refine ⟨UInt32.ofNat (ofLE [c, b, a, d]), ?_⟩
  rw [timestampBytes, isLow, isMiddle, isHigh, isTop]

/-- Eleven bytes and more are the frame of the bytes between the first seven
and the last four. -/
theorem framed_of_length {st : StreamType} {buf : Bytes} {size : Nat}
    (isLength : buf.length = size + 11) (fits : size < tagSizeLimit) :
    Framed ⟨st, UInt32.ofNat size + (7 + 4), buf⟩ := by
  obtain ⟨first, last, isBuf, lengthFirst, lengthLast⟩ :
      ∃ first last, buf = first ++ last ∧ first.length = 7 ∧
        last.length = size + 4 :=
    ⟨buf.take 7, buf.drop 7, (List.take_append_drop 7 buf).symm,
      by rw [List.length_take]; omega, by rw [List.length_drop]; omega⟩
  match first, lengthFirst with
  | [a, b, c, d, x, y, z], _ =>
      obtain ⟨t, isTime⟩ := four_bytes_timestamp a b c d
      have lengthData : (last.take size).length = size := by
        rw [List.length_take]
        omega
      refine ⟨⟨t, [x, y, z], last.drop size, rfl, ?_⟩, last.take size, ?_, ?_⟩
      · rw [List.length_drop]
        omega
      · rw [lengthData]
        exact fits
      · rw [TagFrame.tag, TagFrame.strFlvTag, isTime, lengthData, isBuf,
          List.append_assoc, List.take_append_drop]
        rfl

theorem emit_sizeFits {s next : TagScan} {buf : Bytes} (fits : SizeFits s)
    (full : buf.length = s.need) (emitted : (s.emit buf).2 = .ok next) :
    SizeFits next ∧ ∀ tag ∈ (s.emit buf).1, Framed tag := by
  cases state : s.scanState with
  | SCAN_HEADER_TYPE_LEN =>
      simp only [TagScan.emit, state, Except.ok.injEq] at emitted ⊢
      refine ⟨?_, by simp⟩
      intro _
      have below := ofLE_lt [buf.getD 3 0, buf.getD 2 0, buf.getD 1 0]
      have range : 256 ^ [buf.getD 3 0, buf.getD 2 0, buf.getD 1 0].length =
          tagSizeLimit := by
        rw [tagSizeLimit]
        simp
      rw [range] at below
      refine ⟨_, below, ?_⟩
      rw [← emitted]
      simp only [ofLE]
      rfl
  | SCAN_REMAINING_TAG =>
      obtain ⟨size, small, isSize⟩ := fits state
      simp only [TagScan.emit, state, Except.ok.injEq] at emitted ⊢
      refine ⟨?_, ?_⟩
      · intro remaining
        rw [← emitted] at remaining
        cases remaining
      · rw [List.forall_mem_singleton, isSize]
        apply framed_of_length _ small
        have eleven : ((7 : UInt32) + 4).toNat = 11 := rfl
        have below : size < 16777216 := small
        rw [TagScan.need, state] at full
        dsimp only at full
        rw [full, isSize, UInt32.toNat_add, UInt32.toNat_ofNat', eleven]
        omega

/-- Whatever bytes a slot gets, each tag that the reader cuts from them has a
frame and fitting data. -/
theorem tagReader_framed {bytes : Bytes} {final : tagReader.Scan}
    {tags : List FLVTag}
    (scanned : tagReader.scan (tagReader.freshScan {}) bytes =
      .ok (final, tags)) : ∀ tag ∈ tags, Framed tag := by
  have keeps : ∀ s buf next, SizeFits s → buf.length = tagReader.need s →
      (tagReader.emit s buf).2 = .ok next →
        SizeFits next ∧ ∀ tag ∈ (tagReader.emit s buf).1, Framed tag :=
    fun _ _ _ fits full emitted => emit_sizeFits fits full emitted
  have start : SizeFits ({} : TagScan) := by
    intro remaining
    cases remaining
  exact (Emitter.scan_calls keeps bytes _ final tags start scanned).2

end GroupVoip
