import GroupVoip.ChunkDecoder

/-!
# The headers of the encoder and of the decoder

Both sides keep the last header of a channel.  As long as they agree on it,
the decoder makes of the fields the header that the encoder wrote, also when
it reads them for a second time.
-/

namespace GroupVoip

namespace RTMP

open Library.WireBytes

/-! ## Fields -/

@[simp]
theorem length_writeMediumInt (value : UInt32) :
    (writeMediumInt value).length = 3 :=
  length_toBE 3 _

@[simp]
theorem length_writeReverseInt (value : Int) :
    (writeReverseInt value).length = 4 :=
  length_toLE 4 _

@[simp]
theorem length_putInt (value : UInt32) : (putInt value).length = 4 :=
  length_toBE 4 _

@[simp]
theorem length_writeTimer (timer : UInt32) : (writeTimer timer).length = 3 := by
  unfold writeTimer
  split <;> simp

theorem readUnsignedMediumInt_write {value : UInt32}
    (small : value.toNat < 16777216) :
    readUnsignedMediumInt (writeMediumInt value) = value := by
  rw [readUnsignedMediumInt, writeMediumInt, ofBE_toBE_of_lt small]
  exact UInt32.ofNat_toNat

theorem readReverseInt_write {value : Int} (low : -2147483648 ≤ value)
    (high : value < 2147483648) :
    readReverseInt (writeReverseInt value) = value := by
  have fits : (Int32.ofInt value).toUInt32.toNat < 256 ^ 4 :=
    (Int32.ofInt value).toUInt32.toNat_lt
  rw [readReverseInt, writeReverseInt, ofLE_toLE_of_lt fits,
    UInt32.ofNat_toNat]
  exact Int32.toInt_ofInt_of_le low (by omega)

theorem toInt_toInt32 (timer : UInt32) :
    timer.toInt32.toInt =
      if timer.toNat < 2147483648 then (timer.toNat : Int)
      else (timer.toNat : Int) - 4294967296 := by
  have cases := BitVec.toInt_eq_toNat_cond timer.toBitVec
  have same : timer.toInt32.toInt = timer.toBitVec.toInt := rfl
  have value : timer.toBitVec.toNat = timer.toNat := rfl
  rw [same, cases, value]
  split_ifs <;> omega

theorem isExtended_iff (timer : UInt32) :
    isExtended timer = true ↔ 0xffffff ≤ timer.toNat := by
  have below := timer.toNat_lt
  have zero : (0 : Int32).toInt = 0 := by decide
  have limit : (0xffffff : Int32).toInt = 16777215 := by decide
  rw [isExtended, Bool.or_eq_true, decide_eq_true_iff, decide_eq_true_iff,
    ge_iff_le, Int32.lt_iff_toInt_lt, Int32.le_iff_toInt_le, zero, limit,
    toInt_toInt32]
  split_ifs <;> omega

/-- The time field of a header announces an extended timestamp, or it is the
time itself. -/
theorem readUnsignedMediumInt_writeTimer (timer : UInt32) :
    readUnsignedMediumInt (writeTimer timer) =
        (if isExtended timer then 0xffffff else timer) ∧
      (readUnsignedMediumInt (writeTimer timer) = 0xffffff ↔
        isExtended timer = true) := by
  unfold writeTimer
  by_cases extended : isExtended timer = true
  · have small : (0xffffff : UInt32).toNat < 16777216 := by decide
    simp only [extended, if_true, readUnsignedMediumInt_write small, and_self]
  · have small : timer.toNat < 0xffffff := by
      rw [isExtended_iff] at extended
      omega
    have different : timer ≠ 0xffffff := by
      intro same
      rw [same] at small
      exact absurd small (by decide)
    have fits : timer.toNat < 16777216 := by omega
    simp only [extended, Bool.false_eq_true, if_false,
      readUnsignedMediumInt_write fits, different, and_self]

theorem readExtended_putInt {value : UInt32} (small : value.toNat < 2147483648)
    (rest : Bytes) : readExtended (putInt value ++ rest) = value := by
  have taken : (putInt value ++ rest).take 4 = putInt value :=
    List.take_left' (length_putInt value)
  have fits : value.toNat < 256 ^ 4 := value.toNat_lt
  have mask : (0x7fffffff : UInt32).toNat = 2 ^ 31 - 1 := by decide
  rw [readExtended, taken, putInt, ofBE_toBE_of_lt fits, UInt32.ofNat_toNat]
  apply UInt32.toNat_inj.mp
  rw [UInt32.toNat_and, mask, Nat.and_two_pow_sub_one_eq_mod,
    Nat.mod_eq_of_lt small]

theorem timerSince_eq (header lastHeader : Header) :
    timerSince header lastHeader = header.getTimer - lastHeader.getTimer := by
  have below := header.getTimer.toNat_lt
  have lastBelow := lastHeader.getTimer.toNat_lt
  have bits (value : Int) : (Int32.ofInt value).toUInt32.toNat =
      (BitVec.ofInt 32 value).toNat := rfl
  apply UInt32.toNat_inj.mp
  rw [timerSince, diffTimestamps, UInt32.toNat_sub, bits, BitVec.toNat_ofInt]
  omega

/-! ## What a type of header leaves out -/

/-- What follows the time in a header. -/
def afterTime (h : Header) : HeaderType → Bytes
  | .HEADER_NEW =>
      writeMediumInt h.size ++ [h.dataType] ++ writeReverseInt h.streamId
  | .HEADER_SAME_SOURCE => writeMediumInt h.size ++ [h.dataType]
  | _ => []

/-- The time that stands in a header. -/
def wireTime (h : Header) : HeaderType → UInt32
  | .HEADER_NEW => h.getTimer
  | _ => h.timerDelta

/-- The fields of a header behind its basic header. -/
def wireFields (h : Header) : HeaderType → Bytes
  | .HEADER_CONTINUE =>
      if h.extendedTimestamp ≠ 0 then putInt h.extendedTimestamp else []
  | headerType =>
      writeTimer (wireTime h headerType) ++ afterTime h headerType ++
        (if isExtended (wireTime h headerType) then
          putInt (wireTime h headerType)
        else [])

/-- The fields can carry the header. -/
structure Fits (h : Header) : Prop where
  size : h.size.toNat < 16777216
  streamLow : -2147483648 ≤ h.streamId
  streamHigh : h.streamId < 2147483648
  timer : h.getTimer.toNat < 2147483648
  delta : h.timerDelta.toNat < 2147483648
  extended : h.extendedTimestamp.toNat < 2147483648

/-- The time of a header says whether it has an extended timestamp. -/
def Timed (h : Header) (headerType : HeaderType) : Prop :=
  h.extendedTimestamp =
    if isExtended (wireTime h headerType) then wireTime h headerType else 0

/-- The header before has what a header of this type leaves out. -/
def Supplies (last h : Header) : HeaderType → Prop
  | .HEADER_NEW => h.timerDelta = 0 ∧ Timed h .HEADER_NEW
  | .HEADER_SAME_SOURCE =>
      last.streamId = h.streamId ∧ last.timerBase = h.timerBase ∧
        Timed h .HEADER_SAME_SOURCE
  | .HEADER_TIMER_CHANGE =>
      last.streamId = h.streamId ∧ last.timerBase = h.timerBase ∧
        last.size = h.size ∧ last.dataType = h.dataType ∧
        Timed h .HEADER_TIMER_CHANGE
  | .HEADER_CONTINUE =>
      last.streamId = h.streamId ∧ last.timerBase = h.timerBase ∧
        last.size = h.size ∧ last.dataType = h.dataType ∧
        last.timerDelta = h.timerDelta ∧
        last.extendedTimestamp = h.extendedTimestamp

/-- A header that was read already supplies itself. -/
theorem Supplies.self {last h : Header} {headerType : HeaderType}
    (supplies : Supplies last h headerType) : Supplies h h headerType := by
  cases headerType with
  | HEADER_NEW => exact supplies
  | HEADER_SAME_SOURCE => exact ⟨rfl, rfl, supplies.2.2⟩
  | HEADER_TIMER_CHANGE => exact ⟨rfl, rfl, rfl, rfl, supplies.2.2.2.2⟩
  | HEADER_CONTINUE => exact ⟨rfl, rfl, rfl, rfl, rfl, rfl⟩

/-- It also supplies what the next chunk of its packet leaves out. -/
theorem supplies_continue (h : Header) : Supplies h h .HEADER_CONTINUE :=
  ⟨rfl, rfl, rfl, rfl, rfl, rfl⟩

/-- `last` is the last header of a channel where `h` comes next. -/
def Follows (last : Option Header) (h : Header) (headerType : HeaderType) :
    Prop :=
  ∃ before, (headerType = .HEADER_NEW ∨ last = some before) ∧
    Supplies before h headerType

theorem Follows.self {last : Option Header} {h : Header}
    {headerType : HeaderType} (follows : Follows last h headerType) :
    Follows (some h) h headerType := by
  obtain ⟨before, _, supplies⟩ := follows
  exact ⟨h, .inr rfl, supplies.self⟩

theorem follows_continue (h : Header) :
    Follows (some h) h .HEADER_CONTINUE :=
  ⟨h, .inr rfl, supplies_continue h⟩

/-! ## Reading the fields -/

theorem wireFields_timed (h : Header) {headerType : HeaderType}
    (timed : headerType ≠ .HEADER_CONTINUE) :
    wireFields h headerType =
      writeTimer (wireTime h headerType) ++ (afterTime h headerType ++
        (if isExtended (wireTime h headerType) then
          putInt (wireTime h headerType)
        else [])) := by
  cases headerType with
  | HEADER_CONTINUE => exact absurd rfl timed
  | HEADER_NEW => exact List.append_assoc _ _ _
  | HEADER_SAME_SOURCE => exact List.append_assoc _ _ _
  | HEADER_TIMER_CHANGE => exact List.append_assoc _ _ _

/-- The fields without an extended timestamp have the length that their type
says, less the byte of the basic header. -/
theorem length_afterTime (h : Header) (headerType : HeaderType)
    (timed : headerType ≠ .HEADER_CONTINUE) :
    3 + (afterTime h headerType).length + 1 = getHeaderLength headerType := by
  cases headerType with
  | HEADER_CONTINUE => exact absurd rfl timed
  | HEADER_NEW => simp [afterTime, getHeaderLength]
  | HEADER_SAME_SOURCE => simp [afterTime, getHeaderLength]
  | HEADER_TIMER_CHANGE => rfl

theorem wireTime_lt {h : Header} (fits : Fits h) (headerType : HeaderType) :
    (wireTime h headerType).toNat < 2147483648 := by
  cases headerType with
  | HEADER_NEW => exact fits.timer
  | HEADER_SAME_SOURCE => exact fits.delta
  | HEADER_TIMER_CHANGE => exact fits.delta
  | HEADER_CONTINUE => exact fits.delta

theorem readTimer_wireFields {h : Header} (fits : Fits h)
    {headerType : HeaderType} (timed : headerType ≠ .HEADER_CONTINUE)
    (stamped : Timed h headerType) (rest : Bytes) :
    readTimer (wireFields h headerType ++ rest)
        (3 + (afterTime h headerType).length) =
      (wireTime h headerType, h.extendedTimestamp) := by
  have front : (wireFields h headerType ++ rest).take 3 =
      writeTimer (wireTime h headerType) := by
    rw [wireFields_timed h timed, List.append_assoc]
    exact List.take_left' (length_writeTimer _)
  have back : (wireFields h headerType ++ rest).drop
      (3 + (afterTime h headerType).length) =
        (if isExtended (wireTime h headerType) then
          putInt (wireTime h headerType) else []) ++ rest := by
    rw [wireFields_timed h timed, ← List.append_assoc, List.append_assoc _ _ rest]
    apply List.drop_left'
    rw [List.length_append, length_writeTimer]
  obtain ⟨field, announces⟩ :=
    readUnsignedMediumInt_writeTimer (wireTime h headerType)
  rw [Timed] at stamped
  rw [readTimer, front, back, stamped]
  by_cases extended : isExtended (wireTime h headerType) = true
  · rw [if_pos (announces.mpr extended), if_pos extended, if_pos extended,
      readExtended_putInt (wireTime_lt fits headerType)]
  · rw [if_neg (fun same => extended (announces.mp same)), field,
      if_neg extended, if_neg extended]

/-- The data type, the size and the stream id of a header with these fields. -/
theorem otherFields_eq {h : Header} (fits : Fits h) (time tail : Bytes)
    (short : time.length = 3) :
    let fields := time ++ (writeMediumInt h.size ++ (h.dataType :: tail))
    readUnsignedMediumInt ((fields.drop 3).take 3) = h.size ∧
      fields.getD 6 0 = h.dataType ∧ fields.drop 7 = tail := by
  obtain ⟨a, b, c, time⟩ := List.length_eq_three.mp short
  obtain ⟨d, e, f, size⟩ :=
    List.length_eq_three.mp (length_writeMediumInt h.size)
  subst time
  have sizeBack := readUnsignedMediumInt_write fits.size
  rw [size] at sizeBack ⊢
  exact ⟨sizeBack, rfl, rfl⟩

theorem decodeHeader_new (channelId : Nat) (fields : Bytes)
    (last : Option Header) :
    decodeHeader .HEADER_NEW channelId fields last = some {
      dataType := fields.getD 6 0
      channelId := channelId
      size := readUnsignedMediumInt ((fields.drop 3).take 3)
      streamId := readReverseInt ((fields.drop 7).take 4)
      timerBase := (readTimer fields 11).1
      timerDelta := 0
      extendedTimestamp := (readTimer fields 11).2 } := by
  cases last <;> rfl

theorem wireFields_new (h : Header) (rest : Bytes) :
    ∃ extended, wireFields h .HEADER_NEW ++ rest =
      writeTimer (wireTime h .HEADER_NEW) ++ (writeMediumInt h.size ++
        (h.dataType :: (writeReverseInt h.streamId ++ extended))) := by
  refine ⟨(if isExtended (wireTime h .HEADER_NEW) then
    putInt (wireTime h .HEADER_NEW) else []) ++ rest, ?_⟩
  simp only [wireFields, afterTime, List.append_assoc, List.cons_append,
    List.nil_append]

theorem wireFields_sameSource (h : Header) (rest : Bytes) :
    ∃ extended, wireFields h .HEADER_SAME_SOURCE ++ rest =
      writeTimer (wireTime h .HEADER_SAME_SOURCE) ++ (writeMediumInt h.size ++
        (h.dataType :: extended)) := by
  refine ⟨(if isExtended (wireTime h .HEADER_SAME_SOURCE) then
    putInt (wireTime h .HEADER_SAME_SOURCE) else []) ++ rest, ?_⟩
  simp only [wireFields, afterTime, List.append_assoc, List.cons_append,
    List.nil_append]

/-- With the last header at hand the decoder has the header back. -/
theorem decodeHeader_wireFields {h : Header} (fits : Fits h)
    {headerType : HeaderType} {last : Option Header}
    (follows : Follows last h headerType) (rest : Bytes) :
    decodeHeader headerType h.channelId (wireFields h headerType ++ rest)
      last = some h := by
  obtain ⟨before, isLast, supplies⟩ := follows
  cases headerType with
  | HEADER_NEW =>
      obtain ⟨noDelta, stamped⟩ := supplies
      have timer := readTimer_wireFields fits (by decide) stamped rest
      have offset := length_afterTime h .HEADER_NEW (by decide)
      have base : wireTime h .HEADER_NEW = h.timerBase := by
        rw [wireTime, Header.getTimer, noDelta, UInt32.add_zero]
      have streamBack := readReverseInt_write fits.streamLow fits.streamHigh
      obtain ⟨extended, fields⟩ := wireFields_new h rest
      obtain ⟨size, dataType, stream⟩ := otherFields_eq fits
        (writeTimer (wireTime h .HEADER_NEW))
        (writeReverseInt h.streamId ++ extended) (length_writeTimer _)
      rw [show 3 + (afterTime h .HEADER_NEW).length = 11 by
        rw [getHeaderLength] at offset; omega] at timer
      rw [fields] at timer ⊢
      rw [decodeHeader_new, timer, size, dataType, stream,
        List.take_left' (length_writeReverseInt _), streamBack, base,
        ← noDelta]
  | HEADER_SAME_SOURCE =>
      rw [isLast.resolve_left (by decide)]
      obtain ⟨streamId, timerBase, stamped⟩ := supplies
      have timer := readTimer_wireFields fits (by decide) stamped rest
      have offset :=
        length_afterTime h .HEADER_SAME_SOURCE (by decide)
      obtain ⟨extended, fields⟩ := wireFields_sameSource h rest
      obtain ⟨size, dataType, _⟩ := otherFields_eq fits
        (writeTimer (wireTime h .HEADER_SAME_SOURCE)) extended
        (length_writeTimer _)
      rw [show 3 + (afterTime h .HEADER_SAME_SOURCE).length = 7 by
        rw [getHeaderLength] at offset; omega] at timer
      rw [fields] at timer ⊢
      simp only [decodeHeader, timer, size, dataType, streamId, timerBase]
      rfl
  | HEADER_TIMER_CHANGE =>
      rw [isLast.resolve_left (by decide)]
      obtain ⟨streamId, timerBase, size, dataType, stamped⟩ := supplies
      have timer := readTimer_wireFields fits (by decide) stamped rest
      have offset : 3 + (afterTime h .HEADER_TIMER_CHANGE).length = 3 := rfl
      rw [offset] at timer
      simp only [decodeHeader, timer, streamId, timerBase, size, dataType]
      rfl
  | HEADER_CONTINUE =>
      rw [isLast.resolve_left (by decide)]
      obtain ⟨streamId, timerBase, size, dataType, timerDelta, extended⟩ :=
        supplies
      simp only [decodeHeader, wireFields, streamId, timerBase, size, dataType,
        timerDelta, extended]
      by_cases none : h.extendedTimestamp = 0
      · rw [if_neg (not_not_intro none), ← none]
      · rw [if_pos none, if_pos none, readExtended_putInt fits.extended]

/-! ## The length of a header -/

theorem length_wireFields_timed (h : Header) {headerType : HeaderType}
    (timed : headerType ≠ .HEADER_CONTINUE) :
    (wireFields h headerType).length + 1 = getHeaderLength headerType +
      (if isExtended (wireTime h headerType) then 4 else 0) := by
  have length := length_afterTime h headerType timed
  rw [wireFields_timed h timed, List.length_append, List.length_append,
    length_writeTimer]
  split_ifs with extended
  · rw [length_putInt]
    omega
  · rw [List.length_nil]
    omega

/-- With as much of the fields as a header has without an extended timestamp,
the decoder knows whether it has one. -/
theorem headerLengthOf_timed (h : Header) {headerType : HeaderType}
    (timed : headerType ≠ .HEADER_CONTINUE) (last : Option Header)
    {basic : Bytes} (some : 0 < basic.length) (fields : Bytes)
    (starts : getHeaderLength headerType ≤ fields.length + 1 →
      fields.take 3 = writeTimer (wireTime h headerType)) :
    headerLengthOf headerType basic.length last (basic ++ fields) + 1 =
      basic.length + getHeaderLength headerType +
        (if getHeaderLength headerType ≤ fields.length + 1 ∧
          isExtended (wireTime h headerType) = true then 4 else 0) := by
  obtain ⟨_, announces⟩ :=
    readUnsignedMediumInt_writeTimer (wireTime h headerType)
  have unfolded :
      headerLengthOf headerType basic.length last (basic ++ fields) =
        if (basic ++ fields).length ≥
            getHeaderLength headerType + (basic.length - 1) ∧
          readUnsignedMediumInt
            (((basic ++ fields).drop basic.length).take 3) = 0xffffff then
          getHeaderLength headerType + (basic.length - 1) + 4
        else getHeaderLength headerType + (basic.length - 1) := by
    cases headerType with
    | HEADER_CONTINUE => exact absurd rfl timed
    | HEADER_NEW => rfl
    | HEADER_SAME_SOURCE => rfl
    | HEADER_TIMER_CHANGE => rfl
  rw [unfolded, List.drop_left, List.length_append]
  by_cases enough : getHeaderLength headerType ≤ fields.length + 1
  · rw [starts enough]
    by_cases extended : isExtended (wireTime h headerType) = true
    · rw [if_pos ⟨by omega, announces.mpr extended⟩,
        if_pos ⟨enough, extended⟩]
      omega
    · rw [if_neg (fun both => extended (announces.mp both.2)),
        if_neg (fun both => extended both.2)]
      omega
  · rw [if_neg (fun both => enough (by omega)),
      if_neg (fun both => enough both.1)]
    omega

theorem headerLengthOf_continue {last : Option Header} {h : Header}
    (follows : Follows last h .HEADER_CONTINUE) {basic : Bytes}
    (some : 0 < basic.length) (bytes : Bytes) :
    headerLengthOf .HEADER_CONTINUE basic.length last bytes =
      basic.length + (wireFields h .HEADER_CONTINUE).length := by
  obtain ⟨before, isLast, _, _, _, _, _, extended⟩ := follows
  rw [isLast.resolve_left (by decide)]
  simp only [headerLengthOf, Option.any_some, getHeaderLength, wireFields,
    extended]
  by_cases none : h.extendedTimestamp = 0
  · simp only [none, ne_eq, not_true_eq_false, decide_false,
      Bool.false_eq_true, if_false, List.length_nil]
    omega
  · simp only [none, ne_eq, not_false_eq_true, decide_true, if_true,
      length_putInt]
    omega

theorem headerLengthOf_whole {last : Option Header} {h : Header}
    {headerType : HeaderType} (follows : Follows last h headerType)
    {basic : Bytes} (some : 0 < basic.length) (rest : Bytes) :
    headerLengthOf headerType basic.length last
        (basic ++ (wireFields h headerType ++ rest)) =
      basic.length + (wireFields h headerType).length := by
  by_cases isContinue : headerType = .HEADER_CONTINUE
  · subst isContinue
    exact headerLengthOf_continue follows some _
  · have length := length_wireFields_timed h isContinue
    have known := headerLengthOf_timed h isContinue last some
      (wireFields h headerType ++ rest) (fun _ => by
        rw [wireFields_timed h isContinue, List.append_assoc]
        exact List.take_left' (length_writeTimer _))
    rw [List.length_append] at known
    by_cases extended : isExtended (wireTime h headerType) = true
    · rw [if_pos extended] at length
      rw [if_pos ⟨by omega, extended⟩] at known
      omega
    · rw [if_neg extended] at length
      rw [if_neg (fun both => extended both.2)] at known
      omega

/-- A part of the fields does not look like a whole header. -/
theorem headerLengthOf_part {last : Option Header} {h : Header}
    {headerType : HeaderType} (follows : Follows last h headerType)
    {basic front back : Bytes} (some : 0 < basic.length)
    (split : wireFields h headerType = front ++ back) (more : back ≠ []) :
    (basic ++ front).length <
        headerLengthOf headerType basic.length last (basic ++ front) ∧
      headerLengthOf headerType basic.length last (basic ++ front) ≤
        basic.length + (wireFields h headerType).length := by
  have shorter : front.length < (wireFields h headerType).length := by
    have positive := List.length_pos_iff.mpr more
    rw [split, List.length_append]
    omega
  rw [List.length_append]
  by_cases isContinue : headerType = .HEADER_CONTINUE
  · subst isContinue
    rw [headerLengthOf_continue follows some]
    omega
  · have length := length_wireFields_timed h isContinue
    have known := headerLengthOf_timed h isContinue last some front
      (fun enough => by
        have atLeast := length_afterTime h headerType isContinue
        have same := congrArg (List.take 3) split
        rw [wireFields_timed h isContinue,
          List.take_left' (length_writeTimer _),
          List.take_append_of_le_length (by omega)] at same
        exact same.symm)
    by_cases extended : isExtended (wireTime h headerType) = true
    · rw [if_pos extended] at length
      by_cases enough : getHeaderLength headerType ≤ front.length + 1
      · rw [if_pos ⟨enough, extended⟩] at known
        omega
      · rw [if_neg (fun both => enough both.1)] at known
        omega
    · rw [if_neg extended] at length
      rw [if_neg (fun both => extended both.2)] at known
      omega

end RTMP

end GroupVoip
