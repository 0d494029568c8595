import GroupVoip.HeaderEncoding

/-!
# Reading one chunk

However much of a chunk has arrived, the decoder asks for more or takes it
whole, and what an earlier try left behind makes no difference.
-/

namespace GroupVoip

namespace RTMP

open Library.WireBytes Library.Restarting

variable {amf : UInt8 → Int → Bytes → Bool}

@[simp]
theorem channels_setChannel (r : ReadState) (channelId : Nat)
    (channel : ReadChannel) :
    (r.setChannel channelId channel).channels channelId = channel :=
  Function.update_self _ _ _

@[simp]
theorem setChannel_setChannel (r : ReadState) (channelId : Nat)
    (first second : ReadChannel) :
    (r.setChannel channelId first).setChannel channelId second =
      r.setChannel channelId second := by
  simp only [ReadState.setChannel, Function.update_idem]

@[simp]
theorem stateCode_setChannel (r : ReadState) (channelId : Nat)
    (channel : ReadChannel) :
    (r.setChannel channelId channel).stateCode = r.stateCode :=
  rfl

@[simp]
theorem readChunkSize_setChannel (r : ReadState) (channelId : Nat)
    (channel : ReadChannel) :
    (r.setChannel channelId channel).readChunkSize = r.readChunkSize :=
  rfl

/-- A chunk of a packet with the header `h`. -/
def chunk (h : Header) (headerType : HeaderType) (data : Bytes) : Bytes :=
  encodeHeaderByte headerType h.channelId ++
    (wireFields h headerType ++ data)

/-- The states in which a chunk is read: `r`, or what a try left of it. -/
structure Expects (r : ReadState) (last : Option Header) (h : Header)
    (soFar : Bytes) (s : ReadState) : Prop where
  others : ∀ channel,
    s.setChannel h.channelId channel = r.setChannel h.channelId channel
  header : (s.channels h.channelId).readHeader = last ∨
    (s.channels h.channelId).readHeader = some h
  packet : (s.channels h.channelId).readPacket.getD { header := h } =
    { header := h, data := soFar }
  packetHeader : (s.channels h.channelId).readPacketHeader =
    (r.channels h.channelId).readPacketHeader

theorem Expects.readChunkSize {r s : ReadState} {last : Option Header}
    {h : Header} {soFar : Bytes} (expects : Expects r last h soFar s) :
    s.readChunkSize = r.readChunkSize := by
  have same := congrArg ReadState.readChunkSize (expects.others {})
  exact same

theorem Expects.stateCode {r s : ReadState} {last : Option Header}
    {h : Header} {soFar : Bytes} (expects : Expects r last h soFar s) :
    s.stateCode = r.stateCode := by
  have same := congrArg ReadState.stateCode (expects.others {})
  exact same

theorem Expects.follows {r s : ReadState} {last : Option Header}
    {h : Header} {headerType : HeaderType} {soFar : Bytes}
    (expects : Expects r last h soFar s)
    (follows : Follows last h headerType) :
    Follows (s.channels h.channelId).readHeader h headerType := by
  rcases expects.header with same | again
  · rw [same]
    exact follows
  · rw [again]
    exact follows.self

/-- The state in the middle of a packet. -/
def ReadState.reading (r : ReadState) (h : Header) (soFar : Bytes) :
    ReadState :=
  r.setChannel h.channelId {
    readHeader := some h
    readPacketHeader := (r.channels h.channelId).readPacketHeader
    readPacket := some { header := h, data := soFar } }

@[simp]
theorem reading_setChannel (r : ReadState) (h : Header) (soFar : Bytes)
    (channel : ReadChannel) :
    (r.reading h soFar).setChannel h.channelId channel =
      r.setChannel h.channelId channel :=
  setChannel_setChannel r h.channelId _ channel

@[simp]
theorem channels_reading (r : ReadState) (h : Header) (soFar : Bytes) :
    (r.reading h soFar).channels h.channelId = {
      readHeader := some h
      readPacketHeader := (r.channels h.channelId).readPacketHeader
      readPacket := some { header := h, data := soFar } } :=
  channels_setChannel r h.channelId _

@[simp]
theorem readChunkSize_reading (r : ReadState) (h : Header) (soFar : Bytes) :
    (r.reading h soFar).readChunkSize = r.readChunkSize :=
  rfl

@[simp]
theorem stateCode_reading (r : ReadState) (h : Header) (soFar : Bytes) :
    (r.reading h soFar).stateCode = r.stateCode :=
  rfl

/-- After the first chunk the header is its own last one. -/
theorem expects_reading (r : ReadState) (last : Option Header) (h : Header)
    (soFar : Bytes) : Expects r last h soFar (r.reading h soFar) where
  others := reading_setChannel r h soFar
  header := by
    rw [channels_reading]
    exact .inr rfl
  packet := by
    rw [channels_reading]
    rfl
  packetHeader := by rw [channels_reading]

section

variable (s : ReadState) (headerType : HeaderType) {channelId : Nat}
  (valid : ValidChannel channelId) (fields : Bytes)

theorem length_encodeHeaderByte_pos (headerType : HeaderType)
    (channelId : Nat) : 0 < (encodeHeaderByte headerType channelId).length :=
  List.length_pos_iff.mpr (encodeHeaderByte_ne_nil headerType channelId)

include valid

/-- The bytes behind a basic header are looked at by its type. -/
theorem byteCount_encode :
    byteCount ((encodeHeaderByte headerType channelId ++ fields).getD 0 0) =
      (encodeHeaderByte headerType channelId).length :=
  congrArg BasicHeader.byteCount
    (readBasicHeader_encode headerType valid fields)

theorem decodePacket_short
    (short : (encodeHeaderByte headerType channelId ++ fields).length <
      headerLengthOf headerType (encodeHeaderByte headerType channelId).length
        (s.channels channelId).readHeader
        (encodeHeaderByte headerType channelId ++ fields)) :
    decodePacket amf s (encodeHeaderByte headerType channelId ++ fields) =
      .wait s (headerLengthOf headerType
        (encodeHeaderByte headerType channelId).length
        (s.channels channelId).readHeader
        (encodeHeaderByte headerType channelId ++ fields)) := by
  have positive := length_encodeHeaderByte_pos headerType channelId
  have length : (encodeHeaderByte headerType channelId ++ fields).length =
      (encodeHeaderByte headerType channelId).length + fields.length :=
    List.length_append
  rw [decodePacket, byteCount_encode headerType valid fields,
    if_neg (by omega), if_neg (by omega),
    readBasicHeader_encode headerType valid]
  simp only [HeaderType.ofValue_value, if_pos short]

theorem decodePacket_whole {header : Header}
    (whole : headerLengthOf headerType
        (encodeHeaderByte headerType channelId).length
        (s.channels channelId).readHeader
        (encodeHeaderByte headerType channelId ++ fields) ≤
      (encodeHeaderByte headerType channelId ++ fields).length)
    (known : decodeHeader headerType channelId fields
      (s.channels channelId).readHeader = some header) :
    decodePacket amf s (encodeHeaderByte headerType channelId ++ fields) =
      readChunk amf s channelId header
        (headerLengthOf headerType
          (encodeHeaderByte headerType channelId).length
          (s.channels channelId).readHeader
          (encodeHeaderByte headerType channelId ++ fields))
        (encodeHeaderByte headerType channelId ++ fields) := by
  have positive := length_encodeHeaderByte_pos headerType channelId
  have length : (encodeHeaderByte headerType channelId ++ fields).length =
      (encodeHeaderByte headerType channelId).length + fields.length :=
    List.length_append
  rw [decodePacket, byteCount_encode headerType valid fields,
    if_neg (by omega), if_neg (by omega),
    readBasicHeader_encode headerType valid]
  simp only [HeaderType.ofValue_value, if_neg (Nat.not_lt.mpr whole),
    List.drop_left, known]

end

theorem chunk_append (h : Header) (headerType : HeaderType)
    (data rest : Bytes) :
    chunk h headerType data ++ rest = chunk h headerType (data ++ rest) := by
  simp only [chunk, List.append_assoc]

theorem chunk_ne_nil (h : Header) (headerType : HeaderType) (data : Bytes) :
    chunk h headerType data ≠ [] := by
  intro empty
  exact encodeHeaderByte_ne_nil headerType h.channelId
    (List.append_eq_nil_iff.mp empty).1

/-- The length of a header on the wire. -/
def headLength (h : Header) (headerType : HeaderType) : Nat :=
  (encodeHeaderByte headerType h.channelId).length +
    (wireFields h headerType).length

theorem length_chunk (h : Header) (headerType : HeaderType) (data : Bytes) :
    (chunk h headerType data).length =
      headLength h headerType + data.length := by
  simp only [chunk, headLength, List.length_append, Nat.add_assoc]

theorem drop_chunk (h : Header) (headerType : HeaderType) (data : Bytes) :
    (chunk h headerType data).drop (headLength h headerType) = data := by
  rw [chunk, ← List.append_assoc]
  apply List.drop_left'
  rw [List.length_append, headLength]

/-- A chunk that fits to what was read before. -/
structure Fitting (r : ReadState) (last : Option Header) (h : Header)
    (headerType : HeaderType) (soFar data : Bytes) : Prop where
  connected : r.stateCode = .STATE_CONNECTED
  valid : ValidChannel h.channelId
  fits : Fits h
  follows : Follows last h headerType
  size : soFar.length + data.length ≤ h.size.toNat
  atMost : (data.length : Int) ≤ r.readChunkSize
  full : soFar.length + data.length = h.size.toNat ∨
    (data.length : Int) = r.readChunkSize

section

variable {r s : ReadState} {last : Option Header} {h : Header}
  {headerType : HeaderType} {soFar data : Bytes}
  (fitting : Fitting r last h headerType soFar data)
  (expects : Expects r last h soFar s)

include fitting expects

/-- With the whole header at hand. -/
theorem Expects.decodePacket_header (some : Bytes) :
    decodePacket amf s (chunk h headerType some) =
      readChunk amf s h.channelId h (headLength h headerType)
        (chunk h headerType some) := by
  have basicThere := length_encodeHeaderByte_pos headerType h.channelId
  have followsNow := expects.follows fitting.follows
  have whole := headerLengthOf_whole followsNow basicThere some
  have header := decodeHeader_wireFields fitting.fits followsNow some
  have enough : (encodeHeaderByte headerType h.channelId).length +
      (wireFields h headerType).length ≤
        (encodeHeaderByte headerType h.channelId ++
          (wireFields h headerType ++ some)).length := by
    simp only [List.length_append]
    omega
  rw [chunk, decodePacket_whole s headerType fitting.valid _
    (by rw [whole]; exact enough) header, whole, headLength]

/-- The data behind a header is added to the packet. -/
theorem Expects.readChunk (headerLength : Nat) (bytes : Bytes) :
    RTMP.readChunk amf s h.channelId h headerLength bytes =
      if bytes.length < headerLength + data.length then
        .wait (r.reading h soFar) (headerLength + data.length)
      else if soFar.length + data.length < h.size.toNat then
        .done
          (r.reading h
            (soFar ++ (bytes.drop headerLength).take data.length))
          (headerLength + data.length) []
      else
        finishPacket amf (r.reading h soFar) h.channelId h
          { header := h
            data := soFar ++ (bytes.drop headerLength).take data.length }
          bytes (headerLength + data.length) := by
  have tried : s.setChannel h.channelId {
      readHeader := some h
      readPacketHeader := (s.channels h.channelId).readPacketHeader
      readPacket := some { header := h, data := soFar } } =
        r.reading h soFar := by
    rw [expects.others, expects.packetHeader, ReadState.reading]
  have size := fitting.size
  have atMost := fitting.atMost
  have full := fitting.full
  have amount : (if (h.size.toNat : Int) - soFar.length > r.readChunkSize then
      r.readChunkSize else (h.size.toNat : Int) - soFar.length) =
        data.length := by
    split_ifs <;> omega
  have notNegative : ¬ (data.length : Int) < 0 := by omega
  rw [RTMP.readChunk]
  simp only [expects.packet, tried, readChunkSize_reading, amount,
    notNegative, if_false, Int.toNat_natCast, List.length_append,
    reading_setChannel, channels_reading]
  by_cases short : bytes.length < headerLength + data.length
  · rw [if_pos short, if_pos short]
  · have taken :
        ((bytes.drop headerLength).take data.length).length = data.length := by
      rw [List.length_take, List.length_drop]
      omega
    rw [if_neg short, if_neg short, taken]
    rfl

theorem Expects.decode (bytes : Bytes) :
    RTMP.decode amf s bytes = decodePacket amf s bytes := by
  rw [RTMP.decode, expects.stateCode, fitting.connected]

/-- With the header and any part of the data, or more. -/
theorem Expects.decode_header (some : Bytes) :
    RTMP.decode amf s (chunk h headerType some) =
      if some.length < data.length then
        .wait (r.reading h soFar) (headLength h headerType + data.length)
      else if soFar.length + data.length < h.size.toNat then
        .done (r.reading h (soFar ++ some.take data.length))
          (headLength h headerType + data.length) []
      else
        finishPacket amf (r.reading h soFar) h.channelId h
          { header := h, data := soFar ++ some.take data.length }
          (chunk h headerType some)
          (headLength h headerType + data.length) := by
  rw [expects.decode fitting, expects.decodePacket_header fitting,
    expects.readChunk fitting, drop_chunk, length_chunk]
  simp only [Nat.add_lt_add_iff_left]

/-- A part of a chunk only makes the decoder ask for more. -/
theorem Expects.decode_part {front back : Bytes}
    (split : chunk h headerType data = front ++ back) (some : front ≠ [])
    (more : back ≠ []) :
    ∃ s' amount, RTMP.decode amf s front = .wait s' amount ∧
      Expects r last h soFar s' ∧ front.length < amount ∧
      amount ≤ (chunk h headerType data).length := by
  have positive := List.length_pos_iff.mpr some
  have moreThere := List.length_pos_iff.mpr more
  have basicThere := length_encodeHeaderByte_pos headerType h.channelId
  have length := congrArg List.length split
  rw [length_chunk, headLength, List.length_append] at length
  rw [length_chunk, headLength]
  rcases splitPiece split.symm with ⟨fields, rfl, others⟩ | ⟨rest, _, basic⟩
  · rcases splitPiece others with ⟨here, rfl, dataSplit⟩ | ⟨rest, some, split⟩
    · -- some of the data is missing
      refine ⟨_, _, expects.decode_header fitting here ▸ if_pos ?_,
        expects_reading r last h soFar, ?_, ?_⟩
      all_goals
        rw [← dataSplit]
        simp only [List.length_append, headLength]
        omega
    · -- a part of the fields is missing
      obtain ⟨longer, bound⟩ := headerLengthOf_part
        (expects.follows fitting.follows) basicThere split some
      refine ⟨s, _, ?_, expects, longer, by omega⟩
      rw [expects.decode fitting,
        decodePacket_short s headerType fitting.valid fields longer]
  · -- a part of the basic header is missing
    have short : front.length <
        (encodeHeaderByte headerType h.channelId).length := by
      have restThere := List.length_pos_iff.mpr ‹rest ≠ []›
      rw [basic, List.length_append]
      omega
    have count := byteCount_encode headerType fitting.valid []
    have first : ((encodeHeaderByte headerType h.channelId) ++ []).getD 0 0 =
        front.getD 0 0 := by
      rw [List.append_nil, basic]
      cases front with
      | nil => exact absurd rfl some
      | cons byte later => rfl
    rw [first] at count
    refine ⟨s, (encodeHeaderByte headerType h.channelId).length, ?_, expects,
      short, by omega⟩
    rw [expects.decode fitting, decodePacket, count, if_neg (by omega),
      if_pos short]

end

section

variable {r : ReadState} {last : Option Header} {h : Header}
  {headerType : HeaderType} {soFar data : Bytes}
  (fitting : Fitting r last h headerType soFar data)

include fitting

/-- A chunk in the middle of a packet. -/
theorem Fitting.takes_middle
    (more : soFar.length + data.length < h.size.toNat) :
    Takes (decode amf) (Expects r last h soFar) (chunk h headerType data)
      (r.reading h (soFar ++ data)) [] where
  nonempty := chunk_ne_nil h headerType data
  whole s rest expects := by
    have length : (data ++ rest).length = data.length + rest.length :=
      List.length_append
    rw [chunk_append, expects.decode_header fitting, if_neg (by omega),
      if_pos more, List.take_left, length_chunk]
  part _ _ _ expects split some back :=
    expects.decode_part fitting split some back

/-- What the decoder makes of a packet that is complete. -/
def ReadState.complete (r : ReadState) (h : Header) : Control → ReadState
  | .chunkSize size =>
      { r.setChannel h.channelId (.received h) with readChunkSize := size }
  | _ => r.setChannel h.channelId (.received h)

theorem Fitting.takes_last {control : Control}
    (whole : soFar.length + data.length = h.size.toNat)
    (known : readControl amf h (soFar ++ data) = some control)
    (notAbort : ∀ channelId, control ≠ .abort channelId) :
    Takes (decode amf) (Expects r last h soFar) (chunk h headerType data)
      (r.complete h control)
      [.packet {
        header := h
        timestamp := messageTimestamp
          (r.channels h.channelId).readPacketHeader h h
        data := soFar ++ data }] where
  nonempty := chunk_ne_nil h headerType data
  whole s rest expects := by
    have length : (data ++ rest).length = data.length + rest.length :=
      List.length_append
    rw [chunk_append, expects.decode_header fitting, if_neg (by omega),
      if_neg (by omega), List.take_left, length_chunk, finishPacket]
    simp only [known, channels_reading, reading_setChannel]
    cases control with
    | none => rfl
    | chunkSize size => rfl
    | abort channelId => exact absurd rfl (notAbort channelId)
  part _ _ _ expects split some back :=
    expects.decode_part fitting split some back

end

end RTMP

end GroupVoip
